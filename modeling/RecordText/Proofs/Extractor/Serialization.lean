import RecordText.Extractor.Batch
import RecordText.Extractor.Printer
import RecordText.Proofs.Extractor.Compilation

namespace RecordText

theorem Piece.print_literal_of_notMem {s : Text} (h : '%' ∉ s) : (literal s).print = s := by
  induction s with
  | nil => rfl
  | cons c s ih =>
    have hc : c ≠ '%' := fun heq => h (by simp [heq])
    have hs : (literal s).print = s := ih fun hmem => h (List.mem_cons_of_mem c hmem)
    rw [print] at hs ⊢
    rw [List.flatMap_cons, if_neg hc, hs]
    rfl

namespace Extractor

theorem Spells.print_eq {p : Text} {ps : List Piece} (h : Spells p ps) :
    ps.flatMap Piece.print = p := by
  induction h with
  | nil => rfl
  | text _ hs _ _ ih => rw [List.flatMap_cons, Piece.print_literal_of_notMem hs, ih]
  | @percent s p ps hs _ _ ih =>
    have hprint : (Piece.literal ('%' :: s)).print = '%' :: '%' :: (Piece.literal s).print := rfl
    rw [List.flatMap_cons, hprint, Piece.print_literal_of_notMem hs, ih]
    rfl
  | slot _ _ _ ih => simp [Piece.print, ih]

theorem mode_addText (e : Extractor) (s : Text) : (e.addText s).mode = e.mode := by
  cases s <;> rfl

theorem mode_addParts (e : Extractor) (lead : Text) (parts : List Text) :
    (e.addParts lead parts).1.mode = e.mode := by
  fun_induction addParts e lead parts with
  | case1 => rfl
  | case2 => rw [mode_addText]
  | case3 => rw [mode_addText, mode_addText]
  | case4 _ _ _ _ _ _ _ ih => rw [ih, mode_addText]
  | case5 _ _ _ _ _ _ _ ih => rw [ih, addSlot, mode_addText]

theorem recompile_compile {p : Text} {m : Mode} (h : (compile p m).2 = none) :
    (compile p m).1.print = p ∧ (compile p m).1.recompile = ((compile p m).1, none) ∧
      ∀ s, (compile p m).1.recompile.1.extract s = (compile p m).1.extract s ∧
        (compile p m).1.recompile.1.extractFrom s = (compile p m).1.extractFrom s ∧
        (compile p m).1.recompile.1.extractLines s = (compile p m).1.extractLines s := by
  have hprint : (compile p m).1.print = p := (spells_compile h).print_eq
  have hmode : (compile p m).1.mode = m := mode_addParts (empty m) [] (p.splitOn '%')
  have hrecompile : (compile p m).1.recompile = ((compile p m).1, none) := by
    rw [recompile, hprint, hmode, ← h]
  refine ⟨hprint, hrecompile, fun s => ?_⟩
  rw [hrecompile]
  exact ⟨rfl, rfl, rfl⟩

theorem recompile_compile_escaped :
    let p := "%a%%b%/x%%%%\\%c%".toList
    (compile p .path).2 = none ∧
      (compile p .path).1.print = p ∧ (compile p .path).1.recompile = ((compile p .path).1, none) ∧
      ∀ s, (compile p .path).1.recompile.1.extract s = (compile p .path).1.extract s ∧
        (compile p .path).1.recompile.1.extractFrom s = (compile p .path).1.extractFrom s ∧
        (compile p .path).1.recompile.1.extractLines s = (compile p .path).1.extractLines s := by
  intro p
  have hclosed : (compile p .path).2 = none := by decide
  exact ⟨hclosed, recompile_compile hclosed⟩

end Extractor

end RecordText
