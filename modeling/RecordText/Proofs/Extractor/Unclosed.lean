import RecordText.Proofs.Extractor.Building

namespace RecordText.Extractor

-- The turns that the parts take are those of the parts without the last, and these end with a literal.
theorem addParts_concat {e : Extractor} {lead : Text} {parts : List Text} (hne : parts ≠ [])
    (hclosed : (e.addParts lead parts).2) (r : Text) :
    e.addParts lead (parts ++ [r]) = ((e.addParts lead parts).1.addText r, false) := by
  fun_induction addParts e lead parts with
  | case1 => contradiction
  | case2 e lead s => rfl
  | case3 => contradiction
  | case4 e lead s name rest hrest hname ih =>
    rw [List.cons_append, List.cons_append, addParts, if_pos hname, ih hrest hclosed]
    simp
  | case5 e lead s name rest hrest hname ih =>
    rw [List.cons_append, List.cons_append, addParts, if_neg hname, ih hrest hclosed]
    simp

theorem compile_append_percent {q r : Text} {m : Mode} (hr : '%' ∉ r) (hclosed : (compile q m).2 = none) :
    compile (q ++ '%' :: r) m = ((compile q m).1.addText r, some (.mk (q ++ '%' :: r))) := by
  have hparts : (q ++ '%' :: r).splitOn '%' = q.splitOn '%' ++ [r] := by
    rw [List.splitOn_append_cons_self, List.splitOn_eq_singleton hr]
  have hq : ((empty m).addParts [] (q.splitOn '%')).2 := by simpa [compile] using hclosed
  rw [compile, hparts, addParts_concat (List.splitOn_ne_nil _ _) hq]
  rfl

theorem pieces_addText (e : Extractor) (s : Text) :
    (e.addText s).pieces = e.pieces ++ if s = [] then [] else [.literal s] := by
  cases s <;> simp

/-- A pattern is refused exactly if its percent signs are odd in number. What is in front of the last of them
is a pattern without an error then, and the pieces are those of this pattern, with what is behind it for a
literal. -/
theorem compile_unclosed (p : Text) (m : Mode) :
    ((compile p m).2.isSome ↔ Odd (p.count '%')) ∧
      (Odd (p.count '%') → (∃ q r, p = q ++ '%' :: r ∧ '%' ∉ r) ∧
        ∀ q r, p = q ++ '%' :: r → '%' ∉ r → (compile q m).2 = none ∧
          compile p m = ((compile q m).1.addText r, some (.mk p)) ∧
          (compile p m).1.pieces = (compile q m).1.pieces ++ if r = [] then [] else [.literal r]) := by
  refine ⟨?_, fun hodd => ⟨exists_eq_append_percent (percent_mem_of_odd hodd), ?_⟩⟩
  · rw [compile_error, ← Nat.not_even_iff_odd]
    split <;> simp_all
  · rintro q r rfl hr
    have heven : Even (q.count '%') := (odd_count_append_percent_iff hr).1 hodd
    have hclosed : (compile q m).2 = none := (compile_error q m).trans (if_pos heven)
    have hcompile := compile_append_percent hr hclosed
    refine ⟨hclosed, hcompile, ?_⟩
    rw [hcompile]
    exact pieces_addText _ r

theorem compile_unclosed_behind_escape :
    let p := "a%%%b%/%c".toList
    let q := "a%%%b%/".toList
    (Odd (p.count '%') ∧ p = q ++ '%' :: ['c'] ∧ '%' ∉ ['c']) ∧
      (compile p .path).2.isSome ∧ (compile q .path).2 = none ∧
      (compile p .path).1 = (compile q .path).1.addText ['c'] := by
  intro p q
  have hodd : Odd (p.count '%') := by decide
  obtain ⟨herror, hunclosed⟩ := compile_unclosed p .path
  obtain ⟨hclosed, hcompile, -⟩ := (hunclosed hodd).2 q ['c'] rfl (by decide)
  exact ⟨⟨hodd, rfl, by decide⟩, herror.2 hodd, hclosed, congrArg Prod.fst hcompile⟩

end RecordText.Extractor
