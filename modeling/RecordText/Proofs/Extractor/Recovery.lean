import Mathlib.Data.List.Chain
import RecordText.Extractor.Extract
import RecordText.Proofs.Extractor.Display
import RecordText.Proofs.Text.Cut

namespace RecordText

namespace Record

def Within (known r : Record) : Prop :=
  ∀ name value, known.get? name = some value → value = r.value name

theorem within_empty (r : Record) : empty.Within r := fun _ _ h => absurd h (by simp)

theorem Within.set {known r : Record} (h : known.Within r) (name : Text) :
    (known.set name (r.value name)).Within r := by
  intro n value hn
  rw [get?_set] at hn
  split at hn
  · next heq =>
    cases hn
    rw [heq]
  · exact h n value hn

theorem capture?_of_agrees {known : Record} {name value : Text}
    (h : ∀ found, known.get? name = some found → found.agrees value) :
    known.capture? name value = some (known.set name value) := by
  rw [capture?, if_pos]
  cases hk : known.get? name with
  | none => rfl
  | some found => exact h found hk

theorem Within.capture? {known r : Record} (h : known.Within r) (name : Text) :
    known.capture? name (r.value name) = some (known.set name (r.value name)) := by
  apply capture?_of_agrees
  intro found hfound
  rw [h name found hfound]
  simp [Text.agrees]

def copy (known r : Record) (names : List Text) : Record :=
  names.foldl (fun known name => known.set name (r.value name)) known

@[simp] theorem copy_nil (known r : Record) : known.copy r [] = known := rfl

@[simp] theorem copy_cons (known r : Record) (name : Text) (names : List Text) :
    known.copy r (name :: names) = (known.set name (r.value name)).copy r names := rfl

theorem get?_copy (known r : Record) (names : List Text) (n : Text) :
    (known.copy r names).get? n = if n ∈ names then some (r.value n) else known.get? n := by
  induction names generalizing known with
  | nil => simp
  | cons name names ih => grind [copy_cons, get?_set]

end Record

namespace Piece

def Separated (ps : List Piece) : Prop := ps.IsChain fun p q => p.slot? = none ∨ q.slot? = none

/-- Every literal behind a slot stands where it occurs first, when the slot is written for `r`. -/
def Findable (r : Record) (ps : List Piece) : Prop :=
  ps.IsChain fun p q => ∀ name ∈ p.slot?, ∀ l ∈ q.literal?, Text.FirstBehind l (r.value name)

instance : DecidablePred Separated := fun _ => inferInstanceAs (Decidable (List.IsChain _ _))

instance (r : Record) : DecidablePred (Findable r) :=
  fun _ => inferInstanceAs (Decidable (List.IsChain _ _))

theorem not_separated_slot (first name : Text) (ps : List Piece) :
    ¬ Separated (slot first :: slot name :: ps) := by
  simp [Separated, slot?]

theorem Findable.head {r : Record} {name l : Text} {ps : List Piece}
    (h : Findable r (slot name :: literal l :: ps)) : Text.FirstBehind l (r.value name) :=
  (List.isChain_cons_cons.1 h).1 name rfl l rfl

end Piece

namespace Extractor

open Piece

/-- The pieces that are matched while a slot waits for the literal behind it. -/
def awaiting (pending : Option Text) (ps : List Piece) : List Piece :=
  (pending.map slot).toList ++ ps

@[simp] theorem awaiting_none (ps : List Piece) : awaiting none ps = ps := rfl

@[simp] theorem awaiting_some (name : Text) (ps : List Piece) :
    awaiting (some name) ps = slot name :: ps := rfl

-- A slot that waits is still to be written in front of the pieces that are left.
theorem scan_render {r known : Record} {pending : Option Text} {ps : List Piece}
    (hknown : known.Within r) (hsep : Separated (awaiting pending ps))
    (hfind : Findable r (awaiting pending ps)) :
    scan known pending ps ((awaiting pending ps).flatMap (render r)) =
      .mk (known.copy r ((awaiting pending ps).filterMap slot?)) none := by
  induction ps generalizing known pending with
  | nil =>
    cases pending with
    | none => rfl
    | some name => simp [render, slot?, scan, Record.fill, hknown.capture?]
  | cons p ps ih =>
    cases p with
    | slot name =>
      cases pending with
      | none => exact ih hknown hsep hfind
      | some first => exact absurd hsep (not_separated_slot first name ps)
    | literal l =>
      cases pending with
      | none =>
        have hrest : scan known none ps (ps.flatMap (render r)) = _ :=
          ih hknown hsep.tail hfind.tail
        have hcut := Text.cut?_append (Text.firstBehind_nil l) (ps.flatMap (render r))
        rw [List.nil_append] at hcut
        simp only [awaiting_none, List.flatMap_cons, render, scan, hcut, Record.fill,
          List.filterMap_cons, slot?]
        exact hrest
      | some name =>
        have hrest : scan (known.set name (r.value name)) none ps (ps.flatMap (render r)) = _ :=
          ih (hknown.set name) hsep.tail.tail hfind.tail.tail
        have hcut := Text.cut?_append hfind.head (ps.flatMap (render r))
        rw [List.append_assoc] at hcut
        simp only [awaiting_some, List.flatMap_cons, render, scan, hcut, Record.fill,
          hknown.capture? name, List.filterMap_cons, slot?]
        exact hrest

theorem extract_render {e : Extractor} {r : Record} (hsep : Separated e.pieces)
    (hfind : Findable r e.pieces) :
    e.extract (e.pieces.flatMap (render r)) = .mk (Record.empty.copy r e.slots) none :=
  @scan_render r .empty none e.pieces (Record.within_empty r) hsep hfind

/-- Writing a record and extracting from what was written gives the values of all slots, which are the
attributes that are written. -/
theorem extract_evaluate_parse {p : Text} {m : Mode} (r : Record) (hdollar : '$' ∉ p)
    (hclosed : (compile p m).2 = none) (hsep : Separated (compile p m).1.pieces)
    (hfind : Findable r (compile p m).1.pieces) :
    ∃ n t c, Node.parse p = .ok n ∧ (compile p m).1.slotNames = n.attributeNames.eraseDups ∧
      (∀ l, n.evaluate l r = .ok t) ∧ (compile p m).1.extract t = .mk c none ∧
      ∀ name, c.get? name =
        if name ∈ (compile p m).1.slotNames then some (r.value name) else none := by
  obtain ⟨ps, hparse, hps⟩ := exists_parse_of_compile hdollar hclosed
  have htext := flatMap_render_eq_of_atoms r hps
  have hextract := extract_render hsep hfind
  rw [htext] at hextract
  have hslots : (compile p m).1.slots = (Node.list (ps.map node)).attributeNames := by
    rw [attributeNames_map_node, ← filterMap_slot?_flatMap_atoms ps, ← hps]
    exact (filterMap_slot?_flatMap_atoms _).symm
  refine ⟨_, _, _, hparse, congrArg List.eraseDups hslots, fun l => evaluate_map_node l r ps, hextract,
    fun name => ?_⟩
  rw [Record.get?_copy, Record.get?_empty]
  simp only [slotNames, List.mem_eraseDups]

theorem extract_evaluate_parse_repeated_slot :
    let p := "%a% - %b%%% (%a%)".toList
    let r := Record.ofList [("a".toList, "x".toList), ("b".toList, "50".toList)]
    ('$' ∉ p ∧ (compile p .text).2 = none ∧ Separated (compile p .text).1.pieces ∧
        Findable r (compile p .text).1.pieces) ∧
      ∃ n t c, Node.parse p = .ok n ∧ (compile p .text).1.slotNames = n.attributeNames.eraseDups ∧
        (∀ l, n.evaluate l r = .ok t) ∧ (compile p .text).1.extract t = .mk c none ∧
        ∀ name, c.get? name =
          if name ∈ (compile p .text).1.slotNames then some (r.value name) else none := by
  intro p r
  have hdollar : '$' ∉ p := by decide
  have hclosed : (compile p .text).2 = none := by decide
  have hsep : Separated (compile p .text).1.pieces := by decide
  have hfind : Findable r (compile p .text).1.pieces := by decide
  exact ⟨⟨hdollar, hclosed, hsep, hfind⟩, extract_evaluate_parse r hdollar hclosed hsep hfind⟩

end Extractor

end RecordText
