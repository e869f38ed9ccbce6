import Mathlib.Data.List.Find
import RecordText.Pattern.Evaluate
import RecordText.Proofs.Except

namespace RecordText

def Library.firstMissing? (l : Library) (names : List Text) : Option Text :=
  names.find? (!l.contains ·)

theorem Library.firstMissing?_eq_none_iff {l : Library} {names : List Text} :
    l.firstMissing? names = none ↔ ∀ name ∈ names, l.contains name := by
  simp [firstMissing?]

theorem Library.firstMissing?_append (l : Library) (ms ns : List Text) :
    l.firstMissing? (ms ++ ns) = (l.firstMissing? ms).or (l.firstMissing? ns) :=
  List.find?_append

theorem Library.firstMissing?_congr {l l' : Library} {names : List Text}
    (h : ∀ name ∈ names, l'.contains name = l.contains name) :
    l'.firstMissing? names = l.firstMissing? names :=
  List.find?_congr fun name hname => by rw [h name hname]

namespace Node

mutual

/-- The names of the calls as evaluation reaches them: a call comes before those in its arguments. -/
def callNames : Node → List Text
  | .text _ => []
  | .attribute _ => []
  | .call name args => name :: callNamesOfAll args
  | .list nodes => callNamesOfAll nodes

def callNamesOfAll : List Node → List Text
  | [] => []
  | n :: ns => n.callNames ++ callNamesOfAll ns

end

mutual

theorem error?_evaluate (l : Library) (r : Record) : (n : Node) →
    error? (n.evaluate l r) = (l.firstMissing? n.callNames).map .missingFunction
  | .text _ => rfl
  | .attribute _ => rfl
  | .call name args => by
    rw [evaluate, callNames]
    cases hf : l.get? name with
    | none => simp [Library.firstMissing?, Library.contains, hf, error?]
    | some f =>
      rw [error?_map, error?_evaluateAll]
      simp [Library.firstMissing?, Library.contains, hf]
  | .list nodes => by rw [evaluate, callNames, error?_map, error?_evaluateAll]

theorem error?_evaluateAll (l : Library) (r : Record) : (ns : List Node) →
    error? (evaluateAll l r ns) = (l.firstMissing? (callNamesOfAll ns)).map .missingFunction
  | [] => rfl
  | n :: ns => by
    have hrest (s : Text) : error? (do return s :: (← evaluateAll l r ns)) =
        (l.firstMissing? (callNamesOfAll ns)).map .missingFunction := by
      rw [bind_pure_comp, error?_map, error?_evaluateAll]
    rw [evaluateAll, error?_bind hrest, error?_evaluate, callNamesOfAll,
      Library.firstMissing?_append, Option.map_or]

end

/-- A tree has a value exactly if the library has every function that it calls, and otherwise the
first that is missing is reported. Libraries with the same names give the same error for all
records. -/
theorem evaluate_error_iff_missing (l : Library) (r : Record) (n : Node) :
    ((∃ s, n.evaluate l r = .ok s) ↔ ∀ name ∈ n.callNames, l.contains name) ∧
      (∀ e, n.evaluate l r = .error e ↔
        ∃ name, l.firstMissing? n.callNames = some name ∧ e = .missingFunction name) ∧
      ∀ l' r', (∀ name ∈ n.callNames, l'.contains name = l.contains name) →
        ∀ e, n.evaluate l' r' = .error e ↔ n.evaluate l r = .error e := by
  have herror (l' : Library) (r' : Record) (e : EvalError) : n.evaluate l' r' = .error e ↔
      ∃ name, l'.firstMissing? n.callNames = some name ∧ e = .missingFunction name := by
    rw [← error?_eq_some_iff, error?_evaluate, Option.map_eq_some_iff]
    simp only [eq_comm]
  refine ⟨?_, herror l r, fun l' r' hnames e => ?_⟩
  · rw [← error?_eq_none_iff, error?_evaluate, Option.map_eq_none_iff,
      Library.firstMissing?_eq_none_iff]
  · rw [herror, herror, Library.firstMissing?_congr hnames]

theorem evaluate_error_iff_missing_in_argument :
    let n := Node.list [.text ['a'], .call ['f'] [.list [.call ['g'] []]], .call ['h'] []]
    let l := Library.empty.insert ['f'] fun _ => []
    let l' := Library.empty.insert ['f'] fun _ => ['x']
    let r := Record.empty.set ['b'] ['y']
    (∀ name ∈ n.callNames, l'.contains name = l.contains name) ∧
      n.evaluate l .empty = .error (.missingFunction ['g']) ∧
      n.evaluate l' r = .error (.missingFunction ['g']) := by
  intro n l l' r
  have hnames : ∀ name ∈ n.callNames, l'.contains name = l.contains name := by decide
  obtain ⟨-, herror, hother⟩ := evaluate_error_iff_missing l .empty n
  have h : n.evaluate l .empty = .error (.missingFunction ['g']) :=
    (herror _).2 ⟨['g'], by decide, rfl⟩
  exact ⟨hnames, h, (hother l' r hnames _).2 h⟩

end Node

end RecordText
