import RecordText.Extractor.Extract
import RecordText.Proofs.Extractor.Agreement

namespace RecordText.Text

/-- A word may end between the texts without changing the form of a capital sigma. -/
structure Divisible (s t : Text) : Prop where
  front : ∀ u v, s = u ++ 'Σ' :: v → (∀ c ∈ v, CharSet.caseIgnorable.contains c) →
    casedFirst u.reverse → ¬ casedFirst t
  back : ∀ u v, t = u ++ 'Σ' :: v → (∀ c ∈ u, CharSet.caseIgnorable.contains c) →
    casedFirst s.reverse → casedFirst v

theorem endsWord_underscore_after {u v t : Text} :
    endsWord u (v ++ '_' :: t) = endsWord u (v ++ t) ↔
      ((∀ c ∈ v, CharSet.caseIgnorable.contains c) → casedFirst u → ¬ casedFirst t) := by
  rw [← firstCased?_eq_none_iff, Bool.eq_iff_iff, endsWord_iff, endsWord_iff, casedFirst_eq, casedFirst_eq]
  cases hv : firstCased? v <;> simp [hv]

theorem endsWord_underscore_before {u v s : Text} :
    endsWord (u ++ '_' :: s) v = endsWord (u ++ s) v ↔
      ((∀ c ∈ u, CharSet.caseIgnorable.contains c) → casedFirst s → casedFirst v) := by
  rw [← firstCased?_eq_none_iff, Bool.eq_iff_iff, endsWord_iff, endsWord_iff, casedFirst_eq, casedFirst_eq]
  cases hu : firstCased? u <;> simp [hu]

theorem wordEnds_underscore_iff (s t : Text) :
    wordEnds [] [] (s ++ '_' :: t) = wordEnds [] [] (s ++ t) ↔ Divisible s t := by
  have hfront : wordEnds [] ('_' :: t) s = wordEnds [] t s ↔
      ∀ u v, s = u ++ 'Σ' :: v → (∀ c ∈ v, CharSet.caseIgnorable.contains c) →
        casedFirst u.reverse → ¬ casedFirst t := by
    simp only [wordEnds_eq_iff, List.append_nil, endsWord_underscore_after]
  have hback : wordEnds ('_' :: s.reverse) [] t = wordEnds s.reverse [] t ↔
      ∀ u v, t = u ++ 'Σ' :: v → (∀ c ∈ u, CharSet.caseIgnorable.contains c) →
        casedFirst s.reverse → casedFirst v := by
    simp only [wordEnds_eq_iff, List.append_nil, endsWord_underscore_before, List.mem_reverse]
  rw [wordEnds_append, wordEnds_append, wordEnds_cons_of_ne _ _ _ (by decide)]
  simp only [List.append_nil]
  constructor
  · intro h
    obtain ⟨hs, ht⟩ := List.append_inj h (by rw [length_wordEnds, length_wordEnds])
    exact ⟨hfront.1 hs, hback.1 ht⟩
  · intro h
    rw [hfront.2 h.front, hback.2 h.back]

/-- An underscore between two texts makes no difference exactly if a word may end there. A slot that has a
value takes another that differs in underscores only exactly if these end words at the same capital sigmas. -/
theorem normalize_underscore_iff (s t : Text) :
    ((s ++ '_' :: t).normalize = (s ++ t).normalize ↔ Divisible s t) ∧
      ∀ (r : Record) (name : Text), r.get? name = some s →
        s.filter (· != '_') = t.filter (· != '_') →
        (r.capture? name t = some (r.set name t) ↔ wordEnds [] [] s = wordEnds [] [] t) := by
  constructor
  · rw [normalize_eq_iff_wordEnds (by simp), wordEnds_underscore_iff]
  · intro r name hfound hfilter
    rw [← normalize_eq_iff_wordEnds hfilter, Record.capture?, hfound]
    simp [agrees]

theorem normalize_underscore_iff_word :
    let s : Text := "ΟΔ_ΟΣ".toList
    let t : Text := "ΟΔΟΣ_".toList
    let r := Record.empty.set ['a'] s
    (r.get? ['a'] = some s ∧ s.filter (· != '_') = t.filter (· != '_')) ∧
      r.capture? ['a'] t = some (r.set ['a'] t) := by
  intro s t r
  have hfound : r.get? ['a'] = some s := by decide
  have hfilter : s.filter (· != '_') = t.filter (· != '_') := by decide
  have hends : wordEnds [] [] s = wordEnds [] [] t := by decide +kernel
  exact ⟨⟨hfound, hfilter⟩, ((normalize_underscore_iff s t).2 r ['a'] hfound hfilter).2 hends⟩

/-- The underscore ends a word, so that the sigma in front of it is final. -/
theorem not_forall_normalize_underscore :
    ¬ ∀ s t : Text, (s ++ '_' :: t).normalize = (s ++ t).normalize := by
  intro h
  exact absurd (h "ΑΣ".toList "Α".toList) (by decide +kernel)

end RecordText.Text
