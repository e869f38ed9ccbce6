import RecordText.Library.Builtin
import RecordText.Pattern.Display
import RecordText.Proofs.Pattern.Evaluation

namespace RecordText

def Library.AgreeOn (l l' : Library) (name : Text) : Prop :=
  (l.get? name = none ∧ l'.get? name = none) ∨
    ∃ f g, l.get? name = some f ∧ l'.get? name = some g ∧ ∀ args, f args = g args

theorem Library.agreeOn_iff {l l' : Library} {name : Text} :
    l.AgreeOn l' name ↔ l.get? name = l'.get? name := by
  constructor
  · rintro (⟨hl, hl'⟩ | ⟨f, g, hl, hl', hfg⟩)
    · rw [hl, hl']
    · obtain rfl : f = g := funext hfg
      rw [hl, hl']
  · intro h
    rw [AgreeOn, h]
    cases hf : l'.get? name with
    | none => exact .inl ⟨rfl, rfl⟩
    | some f => exact .inr ⟨f, f, rfl, rfl, fun _ => rfl⟩

namespace Node

mutual

def attributeNames : Node → List Text
  | .text _ => []
  | .attribute name => [name]
  | .call _ args => attributeNamesOfAll args
  | .list nodes => attributeNamesOfAll nodes

def attributeNamesOfAll : List Node → List Text
  | [] => []
  | n :: ns => n.attributeNames ++ attributeNamesOfAll ns

end

section

variable {l l' : Library} {r r' : Record}

-- The induction is on the tree. A call comes to its arguments in both evaluations or in neither, since the
-- function is looked up before them.
mutual

theorem evaluate_congr : (n : Node) → (∀ name ∈ n.attributeNames, r.get? name = r'.get? name) →
    (∀ name ∈ n.callNames, l.get? name = l'.get? name) → n.evaluate l r = n.evaluate l' r'
  | .text _, _, _ => rfl
  | .attribute name, hr, _ => by
    rw [evaluate, evaluate, hr name (by simp [attributeNames])]
  | .call name args, hr, hl => by
    obtain ⟨hname, hl⟩ := List.forall_mem_cons.1 hl
    rw [evaluate, evaluate, hname, evaluateAll_congr args hr hl]
  | .list nodes, hr, hl => by
    rw [evaluate, evaluate, evaluateAll_congr nodes hr hl]

theorem evaluateAll_congr : (ns : List Node) →
    (∀ name ∈ attributeNamesOfAll ns, r.get? name = r'.get? name) →
    (∀ name ∈ callNamesOfAll ns, l.get? name = l'.get? name) → evaluateAll l r ns = evaluateAll l' r' ns
  | [], _, _ => rfl
  | n :: ns, hr, hl => by
    obtain ⟨hrn, hrns⟩ := List.forall_mem_append.1 hr
    obtain ⟨hln, hlns⟩ := List.forall_mem_append.1 hl
    rw [evaluateAll, evaluateAll, evaluate_congr n hrn hln, evaluateAll_congr ns hrns hlns]

end

theorem display_congr {n : Node} (h : n.evaluate l r = n.evaluate l' r') :
    n.display l r = n.display l' r' := by
  rw [display, display, h]

theorem isFound_congr {n : Node} (h : n.evaluate l r = n.evaluate l' r') (term : Text) :
    n.isFound l r term = n.isFound l' r' term := by
  rw [isFound, isFound, display_congr h]

end

/-- Two evaluations of a tree do not differ if their records agree on the attributes that it mentions and
their libraries on the functions that it calls. In particular other attributes and other functions may be
set and inserted, in any number. -/
theorem evaluate_eq_of_agree {n : Node} {l l' : Library} {r r' : Record}
    (hrecord : ∀ name ∈ n.attributeNames, r.get? name = r'.get? name)
    (hlibrary : ∀ name ∈ n.callNames, l.AgreeOn l' name) :
    n.evaluate l r = n.evaluate l' r' ∧ n.display l r = n.display l' r' ∧
      (∀ term, n.isFound l r term = n.isFound l' r' term) ∧
      ∀ fields fs, (∀ name ∈ n.attributeNames, name ∉ fields.map Prod.fst) →
        (∀ name ∈ n.callNames, name ∉ fs.map Prod.fst) →
          n.evaluate (l.insertAll fs) (r.setAll fields) = n.evaluate l r ∧
            n.display (l.insertAll fs) (r.setAll fields) = n.display l r ∧
            ∀ term, n.isFound (l.insertAll fs) (r.setAll fields) term = n.isFound l r term := by
  have h := evaluate_congr n hrecord fun name hname => Library.agreeOn_iff.1 (hlibrary name hname)
  refine ⟨h, display_congr h, isFound_congr h, fun fields fs hfields hfs => ?_⟩
  have hother := evaluate_congr n (fun name hname => Record.get?_setAll (hfields name hname) r)
    fun name hname => Library.get?_insertAll (hfs name hname) l
  exact ⟨hother, display_congr hother, isFound_congr hother⟩

theorem evaluate_eq_of_agree_replaced :
    let n := Node.list [.attribute ['a'], .call ['f'] [.list [.attribute ['b'], .call ['g'] []]]]
    let l := (Library.empty.insert ['f'] List.flatten).insert ['h'] fun _ => ['x']
    let l' := Library.builtin.insert ['f'] fun args => args.flatMap id
    let r := Record.ofList [(['a'], ['1']), (['c'], ['2'])]
    let r' := Record.ofList [(['c'], ['3']), (['a'], ['1'])]
    let fs := [("upper".toList, fun _ => []), (['h'], List.flatten)]
    ((∀ name ∈ n.attributeNames, r.get? name = r'.get? name) ∧ ∀ name ∈ n.callNames, l.AgreeOn l' name) ∧
      n.evaluate l r = n.evaluate l' r' ∧
      n.display (l.insertAll fs) (r.setAll [(['c'], []), (['d'], ['4'])]) = n.display l r := by
  intro n l l' r r' fs
  have hrecord : ∀ name ∈ n.attributeNames, r.get? name = r'.get? name := by decide
  have hlibrary : ∀ name ∈ n.callNames, l.AgreeOn l' name := by
    have hf : l.AgreeOn l' ['f'] := .inr ⟨_, _, rfl, rfl, fun args => by simp⟩
    have hg : l.AgreeOn l' ['g'] := .inl ⟨rfl, rfl⟩
    simpa [n, callNames, callNamesOfAll] using ⟨hf, hg⟩
  obtain ⟨hsame, -, -, hother⟩ := evaluate_eq_of_agree hrecord hlibrary
  obtain ⟨-, hdisplay, -⟩ := hother [(['c'], []), (['d'], ['4'])] fs (by decide) (by decide)
  exact ⟨⟨hrecord, hlibrary⟩, hsame, hdisplay⟩

end Node

end RecordText
