import RecordText.Text.Lines

namespace RecordText.Text

theorem intercalate_concat (c : Char) (parts : List Text) (s : Text) :
    [c].intercalate (parts ++ [s]) = parts.foldr (fun part rest => part ++ c :: rest) s := by
  induction parts with
  | nil => simp
  | cons part parts ih =>
    rw [List.cons_append, List.intercalate_cons_of_ne_nil (by simp), ih]
    simp

theorem suffix_intercalate_concat (c : Char) (parts : List Text) (s : Text) :
    s <:+ [c].intercalate (parts ++ [s]) := by
  rw [intercalate_concat]
  induction parts with
  | nil => exact List.suffix_refl s
  | cons part parts ih => exact ih.trans ((List.suffix_cons c _).trans (List.suffix_append part _))

theorem eq_or_mem_of_mem_intercalate {c d : Char} {parts : List Text}
    (h : d ∈ [c].intercalate parts) : d = c ∨ ∃ part ∈ parts, d ∈ part := by
  induction parts with
  | nil => simp at h
  | cons part parts ih =>
    cases parts with
    | nil => exact .inr ⟨part, List.mem_cons_self, by simpa using h⟩
    | cons next parts =>
      rw [List.intercalate_cons_cons] at h
      grind

theorem exists_splitOn_eq_concat (s : Text) (c : Char) :
    ∃ parts last, s.splitOn c = parts ++ [last] ∧ last <:+ s := by
  have hne := List.splitOn_ne_nil c s
  refine ⟨_, _, (List.dropLast_concat_getLast hne).symm, ?_⟩
  have hsuffix := suffix_intercalate_concat c (s.splitOn c).dropLast ((s.splitOn c).getLast hne)
  rwa [List.dropLast_concat_getLast, List.intercalate_splitOn] at hsuffix

theorem endLine_of_suffix {line s : Text} (hline : line <:+ s) (hs : s.getLast? ≠ some '\r') :
    endLine line = line := by
  apply if_neg
  intro hlast
  obtain ⟨front, rfl⟩ := hline
  rw [List.getLast?_append, hlast] at hs
  exact hs rfl

theorem lines_eq_of_splitOn {s last : Text} {parts : List Text}
    (h : s.splitOn '\n' = parts ++ [last]) :
    s.lines = parts.map endLine ++ [last].filter (!·.isEmpty) := by
  rw [lines, h, List.dropLast_concat, List.getLast?_concat]
  rfl

/-- Up to empty lines, the lines of two texts with a line feed between them are those of the first and
those of the second, unless the first ends with half of a line end. -/
theorem filter_lines_append {p : Text → Bool} (hp : p [] = false) {s : Text}
    (hs : s.getLast? ≠ some '\r') (t : Text) :
    (s ++ '\n' :: t).lines.filter p = s.lines.filter p ++ t.lines.filter p := by
  obtain ⟨sparts, slast, hsparts, hsuffix⟩ := exists_splitOn_eq_concat s '\n'
  obtain ⟨tparts, tlast, htparts, -⟩ := exists_splitOn_eq_concat t '\n'
  have hparts : (s ++ '\n' :: t).splitOn '\n' = (sparts ++ [slast] ++ tparts) ++ [tlast] := by
    rw [List.splitOn_append_cons_self, hsparts, htparts, ← List.append_assoc]
  -- The first text may end with an empty part. That is no line of it, but a line in front of the second.
  have hlast : [slast].filter p = ([slast].filter (!·.isEmpty)).filter p := by
    cases slast <;> simp [hp]
  rw [lines_eq_of_splitOn hparts, lines_eq_of_splitOn hsparts, lines_eq_of_splitOn htparts]
  simp only [List.map_append, List.filter_append, List.map_cons, List.map_nil, List.append_assoc,
    endLine_of_suffix hsuffix hs, hlast]

end RecordText.Text
