import RecordText.Extractor.Complexity
import RecordText.Proofs.Extractor.Compilation

namespace RecordText.Extractor

inductive Constructed : Extractor → Prop
  | empty (m : Mode) : Constructed (empty m)
  | compile (p : Text) (m : Mode) : Constructed (compile p m).1
  | addText {e} (s : Text) : Constructed e → Constructed (e.addText s)
  | addSlot {e} (name : Text) : Constructed e → Constructed (e.addSlot name)

section

variable {P : Extractor → Prop} (htext : ∀ e s, P e → P (e.addText s))
  (hslot : ∀ e name, P e → P (e.addSlot name))
include htext hslot

theorem addParts_induction {e : Extractor} (h : P e) (lead : Text) (parts : List Text) :
    P (e.addParts lead parts).1 := by
  fun_induction addParts e lead parts with
  | case1 => exact h
  | case2 e lead s => exact htext e _ h
  | case3 e lead s name => exact htext _ name (htext e _ h)
  | case4 e lead s name rest _ _ ih => exact ih (htext e _ h)
  | case5 e lead s name rest _ _ ih => exact ih (hslot _ name (htext e _ h))

theorem Constructed.induction (hempty : ∀ m, P (Extractor.empty m)) {e : Extractor}
    (h : Constructed e) : P e := by
  induction h with
  | empty m => exact hempty m
  | compile p m => exact addParts_induction htext hslot (hempty m) [] (p.splitOn '%')
  | addText s _ ih => exact htext _ s ih
  | addSlot name _ ih => exact hslot _ name ih

end

theorem literals_addText {s : Text} (hs : s ≠ []) (e : Extractor) :
    (e.addText s).literals = e.literals ++ [s] := by
  cases s with
  | nil => contradiction
  | cons c s => simp [literals]

theorem sumOverLiterals_eq_sum (e : Extractor) (count : Text → Nat) :
    e.sumOverLiterals count = (e.literals.map count).sum :=
  List.foldr_map.symm

def Counted (e : Extractor) : Prop := e.separators = e.sumOverLiterals (List.countP isSeparator)

theorem Counted.addText {e : Extractor} (h : Counted e) (s : Text) : Counted (e.addText s) := by
  cases s with
  | nil => exact h
  | cons c s =>
    rw [Counted, sumOverLiterals_eq_sum, literals_addText (by simp), List.map_append,
      List.sum_append, ← sumOverLiterals_eq_sum, ← h]
    simp

theorem Counted.addSlot {e : Extractor} (h : Counted e) (name : Text) : Counted (e.addSlot name) := by
  rw [Counted, sumOverLiterals_eq_sum, literals_addSlot, ← sumOverLiterals_eq_sum, ← h]
  rfl

theorem Constructed.counted {e : Extractor} (h : Constructed e) : Counted e :=
  h.induction (fun _ s h => h.addText s) (fun _ name h => h.addSlot name) fun _ => rfl

end RecordText.Extractor
