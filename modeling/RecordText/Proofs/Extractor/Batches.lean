import RecordText.Extractor.Batch
import RecordText.Proofs.Extractor.Matching
import RecordText.Proofs.Text.Lines

namespace RecordText

/-- `names` are those with the property `P`, each of them once and in the order in which `slots` has
them first. -/
structure Enumerates (slots : List Text) (P : Text → Prop) (names : List Text) : Prop where
  nodup : names.Nodup
  ordered : names.Pairwise fun m n => slots.idxOf m < slots.idxOf n
  mem_iff (n : Text) : n ∈ names ↔ P n

theorem eraseDups_pairwise_idxOf (l : List Text) :
    l.eraseDups.Pairwise fun m n => l.idxOf m < l.idxOf n := by
  -- From the end, as a text behind the others leaves their places alone.
  induction l using List.reverseRecOn with
  | nil => exact .nil
  | append_singleton l a ih =>
    have hpast {m : Text} (hm : m ∈ l.eraseDups) : (l ++ [a]).idxOf m = l.idxOf m :=
      List.idxOf_append_of_mem (List.mem_eraseDups.1 hm)
    rw [List.eraseDups_append]
    refine List.pairwise_append.2 ⟨?_, ?_, ?_⟩
    · exact ih.imp_of_mem fun hm hn hlt => by rwa [hpast hm, hpast hn]
    · by_cases ha : a ∈ l <;> simp [List.removeAll, ha, List.eraseDups_cons]
    · intro m hm n hn
      have hml : m ∈ l := List.mem_eraseDups.1 hm
      have hnl : n ∉ l := by simpa using (List.mem_filter.1 (List.mem_eraseDups.1 hn)).2
      rw [hpast hm, List.idxOf_append_of_notMem hnl]
      exact Nat.lt_add_right _ (List.idxOf_lt_length_of_mem hml)

theorem enumerates_filter_eraseDups {slots : List Text} {p : Text → Bool}
    (h : ∀ n, p n → n ∈ slots) : Enumerates slots (p ·) (slots.eraseDups.filter p) where
  nodup := ((eraseDups_pairwise_idxOf slots).imp fun hlt heq => by simp [heq] at hlt).filter p
  ordered := (eraseDups_pairwise_idxOf slots).filter p
  mem_iff n := by
    rw [List.mem_filter, List.mem_eraseDups]
    exact and_iff_right_of_imp (h n)

theorem Enumerates.congr {slots names : List Text} {P Q : Text → Prop} (h : Enumerates slots P names)
    (hPQ : ∀ n, P n ↔ Q n) : Enumerates slots Q names where
  nodup := h.nodup
  ordered := h.ordered
  mem_iff n := (h.mem_iff n).trans (hPQ n)

namespace Record

theorem has_set_iff {r : Record} {name value n : Text} :
    (r.set name value).has n ↔ n = name ∨ r.has n := by
  rw [has, get?_set]
  split <;> simp_all [has]

theorem has_of_has_fill {r : Record} {pending : Option Text} {value n : Text}
    {next : Record → Extraction} {Q : Prop}
    (hnext : ∀ known : Record, (next known).captures.has n → known.has n ∨ Q)
    (h : (r.fill pending value next).captures.has n) : r.has n ∨ pending = some n ∨ Q := by
  cases pending with
  | none => exact (hnext r h).imp_right .inr
  | some name =>
    rw [fill] at h
    split at h
    · next known hknown =>
      rw [eq_set_of_capture? hknown] at h
      cases hnext _ h with
      | inr hq => exact .inr (.inr hq)
      | inl hn =>
        cases has_set_iff.1 hn with
        | inl heq => exact .inr (.inl (congrArg some heq.symm))
        | inr hr => exact .inl hr
    · exact .inl h

end Record

namespace Extractor

open Piece

theorem mem_slots_of_has_scan {known : Record} {pending : Option Text} {ps : List Piece}
    {s n : Text} (h : (scan known pending ps s).captures.has n) :
    known.has n ∨ pending = some n ∨ n ∈ ps.filterMap slot? := by
  -- A failure keeps the captures in front of it, so that it has nothing that a success would not have.
  fun_induction scan known pending ps s with
  | case1 known pending s => exact Record.has_of_has_fill (fun _ h => .inl h) h
  | case2 known pending l ps s hcut => exact .inl h
  | case3 known pending l ps s value rest hcut ih =>
    exact Record.has_of_has_fill (fun known hn => by simpa using ih known hn) h
  | case4 known name ps s ih =>
    refine (ih h).imp_right fun hn => .inr ?_
    simpa [eq_comm] using hn
  | case5 => exact .inl h

theorem mem_slots_of_has_extractFrom {e : Extractor} {s n : Text}
    (h : (e.extractFrom s).captures.has n) : n ∈ e.slots := by
  obtain ⟨t, ht⟩ : ∃ t, e.extractFrom s = e.extract t := by
    rw [extractFrom]
    split
    · exact ⟨_, rfl⟩
    · exact ⟨_, rfl⟩
  rw [ht] at h
  simpa [slots, Record.has] using mem_slots_of_has_scan h

theorem rows_extractLines (e : Extractor) (s : Text) :
    (e.extractLines s).rows = (s.lines.filter (!·.isBlankLine)).map e.extractFrom := rfl

theorem enumerates_columns (e : Extractor) (s : Text) :
    Enumerates e.slots (fun n => ∃ x ∈ (e.extractLines s).rows, x.captures.has n)
      (e.extractLines s).columns := by
  have hslots (n : Text) (hn : (e.extractLines s).rows.any (·.captures.has n)) : n ∈ e.slots := by
    obtain ⟨x, hx, hn⟩ := List.any_eq_true.1 hn
    obtain ⟨line, -, rfl⟩ := List.mem_map.1 hx
    exact mem_slots_of_has_extractFrom hn
  exact (enumerates_filter_eraseDups hslots).congr fun n => List.any_eq_true

theorem rows_append (e : Extractor) {s : Text} (hs : s.getLast? ≠ some '\r') (t : Text) :
    (e.extractLines (s ++ '\n' :: t)).rows = (e.extractLines s).rows ++ (e.extractLines t).rows := by
  simp only [rows_extractLines, Text.filter_lines_append (p := (!·.isBlankLine)) rfl hs t,
    List.map_append]

/-- Two texts with a line feed between them give the rows of the one and those of the other, under the
columns of both. In every batch each line that is not blank has its row, and the columns are the names that
the rows captured. -/
theorem extractLines_append (e : Extractor) {s : Text} (hs : s.getLast? ≠ some '\r') (t : Text) :
    (e.extractLines (s ++ '\n' :: t)).rows = (e.extractLines s).rows ++ (e.extractLines t).rows ∧
      Enumerates e.slots (fun n => n ∈ (e.extractLines s).columns ∨ n ∈ (e.extractLines t).columns)
        (e.extractLines (s ++ '\n' :: t)).columns ∧
      ∀ u, (e.extractLines u).rows = (u.lines.filter (!·.isBlankLine)).map e.extractFrom ∧
        Enumerates e.slots (fun n => ∃ x ∈ (e.extractLines u).rows, x.captures.has n)
          (e.extractLines u).columns := by
  refine ⟨rows_append e hs t, ?_, fun u => ⟨rows_extractLines e u, enumerates_columns e u⟩⟩
  apply (enumerates_columns e (s ++ '\n' :: t)).congr
  intro n
  rw [(enumerates_columns e s).mem_iff, (enumerates_columns e t).mem_iff, rows_append e hs t]
  simp [or_and_right, exists_or]

theorem extractLines_append_blank_lines :
    let e := (compile "%a%: %b% (%c%) %a%".toList .text).1
    let s := "x: y\r\n \r\nx: y (z".toList
    let t := "\nx: y (z) X\n".toList
    s.getLast? ≠ some '\r' ∧
      (e.extractLines (s ++ '\n' :: t)).rows = (e.extractLines s).rows ++ (e.extractLines t).rows ∧
      Enumerates e.slots (fun n => n ∈ (e.extractLines s).columns ∨ n ∈ (e.extractLines t).columns)
        (e.extractLines (s ++ '\n' :: t)).columns ∧
      ∀ u, (e.extractLines u).rows = (u.lines.filter (!·.isBlankLine)).map e.extractFrom ∧
        Enumerates e.slots (fun n => ∃ x ∈ (e.extractLines u).rows, x.captures.has n)
          (e.extractLines u).columns := by
  intro e s t
  have hs : s.getLast? ≠ some '\r' := by decide
  exact ⟨hs, extractLines_append e hs t⟩

end Extractor

end RecordText
