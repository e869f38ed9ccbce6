import RecordText.Extractor.Agreement
import RecordText.Proofs.Text.Stripping
import RecordText.Proofs.Text.WordEnds

namespace RecordText

namespace Text

section Caseless

variable {p : Char → Bool} {c : Char} {final : Bool}

theorem of_mem_lowerAs (hp : ∀ c, p c → Caseless c) (hc : p c = false) {d : Char}
    (hd : d ∈ lowerAs final c) : p d = false := by
  by_contra h
  rw [Bool.not_eq_false] at h
  obtain rfl := (hp d h).eq_of_mem final c hd
  exact absurd h (by simp [hc])

theorem lowerWith_cons_of_caseless (h : Caseless c) (ends : List Bool) (s : Text) :
    lowerWith ends (c :: s) = c :: lowerWith ends s := by
  rw [lowerWith, h.lowerAs_eq, if_neg h.ne_sigma]
  rfl

theorem head?_lowerWith_iff (h : Caseless c) (ends : List Bool) (s : Text) :
    (lowerWith ends s).head? = some c ↔ s.head? = some c := by
  cases s with
  | nil => simp
  | cons d s =>
    obtain ⟨e, es, he⟩ := List.exists_cons_of_ne_nil (lowerAs_ne_nil (ends.headD false) d)
    rw [lowerWith, he, List.cons_append, List.head?_cons, List.head?_cons, Option.some_inj,
      Option.some_inj]
    constructor
    · rintro rfl
      exact h.eq_of_mem (ends.headD false) d (he ▸ List.mem_cons_self)
    · rintro rfl
      rw [h.lowerAs_eq] at he
      exact (List.cons.inj he).1.symm

theorem filter_lowerWith (hp : ∀ c, p c = false → Caseless c) (ends : List Bool) (s : Text) :
    (lowerWith ends s).filter p = lowerWith ends (s.filter p) := by
  induction s generalizing ends with
  | nil => simp
  | cons c s ih =>
    cases hc : p c with
    | false =>
      rw [lowerWith_cons_of_caseless (hp c hc), List.filter_cons_of_neg (by simp [hc]),
        List.filter_cons_of_neg (by simp [hc]), ih]
    | true =>
      have hkept : (lowerAs (ends.headD false) c).filter p = lowerAs (ends.headD false) c := by
        refine List.filter_eq_self.2 fun d hd => ?_
        simpa using of_mem_lowerAs (p := (!p ·)) (by simpa using hp) (by simp [hc]) hd
      rw [List.filter_cons_of_pos hc, lowerWith, lowerWith, List.filter_append, hkept, ih]

theorem stripStart_lowerWith (hp : ∀ c, p c → Caseless c) (ends : List Bool) (s : Text) :
    stripStart p (lowerWith ends s) = lowerWith ends (stripStart p s) := by
  induction s with
  | nil => rfl
  | cons c s ih =>
    cases hc : p c with
    | true =>
      rw [lowerWith_cons_of_caseless (hp c hc), stripStart_cons_of_pos hc, stripStart_cons_of_pos hc, ih]
    | false =>
      obtain ⟨d, ds, hd⟩ := List.exists_cons_of_ne_nil (lowerAs_ne_nil (ends.headD false) c)
      have hpd : p d = false := of_mem_lowerAs hp hc (hd ▸ List.mem_cons_self)
      rw [stripStart_cons_of_neg hc, lowerWith, hd]
      exact stripStart_cons_of_neg hpd _

theorem stripEnd_lowerWith (hp : ∀ c, p c → Caseless c) (ends : List Bool) (s : Text) :
    stripEnd p (lowerWith ends s) = lowerWith ends (stripEnd p s) := by
  induction s using List.reverseRecOn with
  | nil => rfl
  | append_singleton s c ih =>
    rw [lowerWith_append]
    cases hc : p c with
    | true =>
      rw [lowerWith_cons_of_caseless (hp c hc), lowerWith_nil, stripEnd_concat_of_pos hc,
        stripEnd_concat_of_pos hc, ih]
    | false =>
      rw [stripEnd_concat_of_neg hc, lowerWith_append, lowerWith, lowerWith_nil, List.append_nil]
      generalize (ends.drop (s.count 'Σ')).headD false = final
      obtain ⟨ds, d, hd⟩ := (List.eq_nil_or_concat _).resolve_left (lowerAs_ne_nil final c)
      rw [List.concat_eq_append] at hd
      have hpd : p d = false := of_mem_lowerAs hp hc (show d ∈ lowerAs final c by rw [hd]; simp)
      rw [hd, ← List.append_assoc]
      exact stripEnd_concat_of_neg hpd _

end Caseless

def trimmed (s : Text) : Text := strip isBlank (stripStart (· == '0') s)

theorem caseless_of_eq_zero (c : Char) (h : (c == '0') = true) : Caseless c := by
  rw [beq_iff_eq.1 h]
  exact .zero

theorem caseless_of_ne_underscore_eq_false (c : Char) (h : (c != '_') = false) : Caseless c := by
  rw [show c = '_' by simpa using h]
  exact .underscore

theorem trimmed_lowerWith (ends : List Bool) (s : Text) :
    trimmed (lowerWith ends s) = lowerWith ends (trimmed s) := by
  have hblank (c : Char) : isBlank c → Caseless c := .of_isBlank
  rw [trimmed, strip, stripStart_lowerWith caseless_of_eq_zero, stripStart_lowerWith hblank,
    stripEnd_lowerWith hblank]
  rfl

/-- Lower case comes last, if the word ends are those of the whole text. -/
theorem normalize_eq (s : Text) :
    s.normalize = lowerWith (wordEnds [] [] s) (trimmed (s.filter (· != '_'))) := by
  rw [← trimmed_lowerWith, ← filter_lowerWith caseless_of_ne_underscore_eq_false, ← lower_eq]
  rfl

theorem count_sigma_trimmed (s : Text) : (trimmed (s.filter (· != '_'))).count 'Σ' = s.count 'Σ' := by
  rw [trimmed, count_strip (by decide), count_stripStart (by decide), List.count_filter (by decide)]

theorem normalize_eq_iff_wordEnds {s t : Text} (h : s.filter (· != '_') = t.filter (· != '_')) :
    s.normalize = t.normalize ↔ wordEnds [] [] s = wordEnds [] [] t := by
  rw [normalize_eq, normalize_eq, ← h]
  apply lowerWith_inj
  · rw [length_wordEnds, count_sigma_trimmed]
  · rw [length_wordEnds, h, count_sigma_trimmed]

theorem underscore_notMem_normalize (s : Text) : '_' ∉ s.normalize := by
  intro hmem
  have hsubset := (strip_isInfix isBlank _).subset hmem
  simpa using (stripStart_isSuffix _ _).subset hsubset

theorem lowerChar_of_mem_lowerWith {ends : List Bool} {s : Text} {c : Char} (h : c ∈ lowerWith ends s) :
    lowerChar c = [c] := by
  induction s generalizing ends with
  | nil => simp at h
  | cons d s ih =>
    rw [lowerWith] at h
    obtain h | h := List.mem_append.1 h
    · exact lowerChar_of_mem_lowerAs h
    · exact ih h

theorem lower_eq_self {s : Text} (h : ∀ c ∈ s, lowerChar c = [c]) : s.lower = s := by
  rw [Text.lower]
  generalize ([] : Text) = before
  induction s generalizing before with
  | nil => rfl
  | cons c s ih =>
    obtain ⟨hc, hs⟩ := List.forall_mem_cons.1 h
    have hne : c ≠ 'Σ' := by
      rintro rfl
      exact absurd hc (by decide)
    rw [lowerFrom, if_neg hne, hc, ih hs]
    rfl

theorem normalize_normalize (s : Text) : s.normalize.normalize = trimmed s.normalize := by
  have hlower : s.normalize.lower = s.normalize := by
    rw [normalize_eq]
    exact lower_eq_self fun c hc => lowerChar_of_mem_lowerWith hc
  have hfilter : s.normalize.filter (· != '_') = s.normalize := by
    refine List.filter_eq_self.2 fun c hc => bne_iff_ne.2 ?_
    rintro rfl
    exact underscore_notMem_normalize s hc
  rw [normalize, hlower, hfilter]
  rfl

theorem not_isBlank_of_mem_head?_normalize {s : Text} {c : Char} (h : c ∈ s.normalize.head?) :
    isBlank c = false := by
  rw [normalize, head?_strip] at h
  exact of_mem_head?_stripStart h

theorem not_isBlank_of_mem_getLast?_normalize {s : Text} {c : Char} (h : c ∈ s.normalize.getLast?) :
    isBlank c = false :=
  of_mem_getLast?_stripEnd h

theorem normalize_normalize_eq_iff (s : Text) :
    s.normalize.normalize = s.normalize ↔ s.normalize.head? ≠ some '0' := by
  rw [normalize_normalize]
  constructor
  · intro h hzero
    obtain ⟨rest, hrest⟩ := List.head?_eq_some_iff.1 hzero
    have hlength := (strip_isInfix isBlank (stripStart (· == '0') rest)).length_le
    have hrestLength := (stripStart_isSuffix (· == '0') rest).length_le
    rw [hrest, trimmed, stripStart_cons_of_pos rfl] at h
    rw [h, List.length_cons] at hlength
    omega
  · intro h
    have hzero : ∀ c ∈ s.normalize.head?, (c == '0') = false := by
      intro c hc
      rw [beq_eq_false_iff_ne]
      rintro rfl
      exact h hc
    rw [trimmed, stripStart_eq_self hzero]
    exact strip_eq_self (fun c => not_isBlank_of_mem_head?_normalize)
      fun c => not_isBlank_of_mem_getLast?_normalize

theorem head?_trimmed_eq_zero_iff {s : Text} : (trimmed s).head? = some '0' ↔
    ∃ zeros blanks rest, s = zeros ++ blanks ++ '0' :: rest ∧ (∀ c ∈ zeros, c = '0') ∧
      blanks ≠ [] ∧ ∀ c ∈ blanks, isBlank c := by
  rw [trimmed, head?_strip]
  constructor
  · intro h
    obtain ⟨rest, hrest⟩ := List.head?_eq_some_iff.1 h
    obtain ⟨blanks, hblanks, hblank, -⟩ := stripStart_eq_iff.1 hrest
    obtain ⟨zeros, rfl, hzeros, hhead⟩ := stripStart_eq_iff.1 hblanks
    refine ⟨zeros, blanks, rest, (List.append_assoc _ _ _).symm, by simpa using hzeros, ?_, hblank⟩
    rintro rfl
    exact absurd (hhead '0' rfl) (by decide)
  · rintro ⟨zeros, blanks, rest, rfl, hzeros, hne, hblanks⟩
    have hhead : ∀ c ∈ (blanks ++ '0' :: rest).head?, (c == '0') = false := by
      obtain ⟨b, bs, rfl⟩ := List.exists_cons_of_ne_nil hne
      rintro c ⟨⟩
      rw [beq_eq_false_iff_ne]
      rintro rfl
      exact absurd (hblanks '0' List.mem_cons_self) (by decide)
    have hstart : stripStart (· == '0') (zeros ++ blanks ++ '0' :: rest) = blanks ++ '0' :: rest :=
      stripStart_eq_iff.2 ⟨zeros, List.append_assoc _ _ _, by simpa using hzeros, hhead⟩
    have hblank : stripStart isBlank (blanks ++ '0' :: rest) = '0' :: rest :=
      stripStart_eq_iff.2 ⟨blanks, rfl, hblanks, by simp; decide⟩
    rw [hstart, hblank]
    rfl

/-- What the form for comparison is like. It may begin with a zero, where the text has blanks in front of
it, and then its own form is another. -/
theorem normalize_canonical (s : Text) :
    '_' ∉ s.normalize ∧ (∀ c ∈ s.normalize.head?, isBlank c = false) ∧
      (∀ c ∈ s.normalize.getLast?, isBlank c = false) ∧
      (s.normalize.head? = some '0' ↔ ∃ zeros blanks rest,
        s.filter (· != '_') = zeros ++ blanks ++ '0' :: rest ∧ (∀ c ∈ zeros, c = '0') ∧
          blanks ≠ [] ∧ ∀ c ∈ blanks, isBlank c) ∧
      (s.normalize.normalize = s.normalize ↔ s.normalize.head? ≠ some '0') := by
  refine ⟨underscore_notMem_normalize s, fun c => not_isBlank_of_mem_head?_normalize,
    fun c => not_isBlank_of_mem_getLast?_normalize, ?_, ?_⟩
  · rw [normalize_eq, head?_lowerWith_iff .zero, head?_trimmed_eq_zero_iff]
  · exact normalize_normalize_eq_iff s

theorem normalize_canonical_zero_behind_blank :
    let s : Text := "0_ 07_ ".toList
    ('0' ∈ s.normalize.head? ∧ '7' ∈ s.normalize.getLast?) ∧ '_' ∉ s.normalize ∧
      isBlank '0' = false ∧ isBlank '7' = false ∧ s.normalize.normalize ≠ s.normalize := by
  intro s
  have hhead : '0' ∈ s.normalize.head? := by decide
  have hlast : '7' ∈ s.normalize.getLast? := by decide
  obtain ⟨hunderscore, hstart, hend, -, hagain⟩ := normalize_canonical s
  exact ⟨⟨hhead, hlast⟩, hunderscore, hstart '0' hhead, hend '7' hlast, fun h => hagain.1 h hhead⟩

/-- A zero behind a blank stays and is taken away the second time. -/
theorem not_forall_normalize_canonical : ¬ ∀ s : Text, '_' ∉ s.normalize ∧
    (∀ c ∈ s.normalize.head?, c ≠ '0' ∧ isBlank c = false) ∧
      (∀ c ∈ s.normalize.getLast?, isBlank c = false) ∧ s.normalize.normalize = s.normalize := by
  intro h
  obtain ⟨-, hhead, -⟩ := h " 07".toList
  exact (hhead '0' (by decide)).1 rfl

end Text

end RecordText
