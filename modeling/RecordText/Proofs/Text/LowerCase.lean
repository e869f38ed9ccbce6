import RecordText.Text.Blank
import RecordText.Text.Case

/-!
Single characters in lower case. The characters that the case tables map and those in their images are
sets of numbers, and such sets are compared by arithmetic. Images are in lower case themselves, and
digits, underscores and blanks are images of themselves only.
-/

namespace RecordText

def bits (ns : List Nat) : Nat := ns.foldr (fun n m => m ||| 1 <<< n) 0

theorem testBit_bits (ns : List Nat) (n : Nat) : (bits ns).testBit n ↔ n ∈ ns := by
  induction ns with
  | nil => simp [bits]
  | cons m ns ih =>
    have hone : (1 <<< m).testBit n ↔ n = m := by
      rw [Nat.one_shiftLeft, Nat.testBit_two_pow, decide_eq_true_iff, eq_comm]
    rw [bits, List.foldr_cons, Nat.testBit_or, Bool.or_eq_true, hone, List.mem_cons, or_comm]
    exact or_congr_right ih

theorem notMem_of_bits {ms ns : List Nat} (h : bits ms &&& bits ns = 0) : ∀ n ∈ ms, n ∉ ns := by
  intro n hm hn
  have hbit : (bits ms &&& bits ns).testBit n := by
    rw [Nat.testBit_and, (testBit_bits ms n).2 hm, (testBit_bits ns n).2 hn]
    rfl
  rw [h, Nat.zero_testBit] at hbit
  contradiction

theorem CaseRun.mem_pairs {r : CaseRun} {n m : Nat} (h : r.image? n = some m) : (n, m) ∈ r.pairs := by
  rw [image?] at h
  split at h
  · next hrun =>
    cases h
    simp only [Bool.and_eq_true, decide_eq_true_eq, beq_iff_eq] at hrun
    obtain ⟨⟨hfirst, hlast⟩, hstep⟩ := hrun
    have hdiv : (n - r.first) / r.step * r.step = n - r.first :=
      Nat.div_mul_cancel (Nat.dvd_of_mod_eq_zero hstep)
    refine List.mem_map.2 ⟨(n - r.first) / r.step, ?_, ?_⟩
    · exact List.mem_range.2 (Nat.lt_succ_of_le (Nat.div_le_div_right (Nat.sub_le_sub_right hlast _)))
    · rw [hdiv, Nat.add_sub_cancel' hfirst]
  · contradiction

def mappedCodes (expansions : List (Nat × List Nat)) (runs : List CaseRun) : List Nat :=
  expansions.map (·.1) ++ (runs.flatMap CaseRun.pairs).map (·.1)

/-- The characters in its images. A number that is no character counts as the null character. -/
def imageCodes (expansions : List (Nat × List Nat)) (runs : List CaseRun) : List Nat :=
  0 :: (expansions.flatMap (·.2) ++ (runs.flatMap CaseRun.pairs).map (·.2))

theorem toNat_ofNat_mem_imageCodes {expansions : List (Nat × List Nat)} {runs : List CaseRun} {n : Nat}
    (h : n ∈ imageCodes expansions runs) : (Char.ofNat n).toNat ∈ imageCodes expansions runs := by
  rw [Char.ofNat]
  by_cases hn : n.isValidChar
  · rw [dif_pos hn]
    exact h
  · rw [dif_neg hn]
    exact List.mem_cons_self

theorem mapCase_eq_self_or (expansions : List (Nat × List Nat)) (runs : List CaseRun) (c : Char) :
    mapCase expansions runs c = [c] ∨ c.toNat ∈ mappedCodes expansions runs ∧
      ∀ d ∈ mapCase expansions runs c, d.toNat ∈ imageCodes expansions runs := by
  rw [mapCase]
  split
  · next ns hns =>
    obtain ⟨front, back, hlookup, -⟩ := List.lookup_eq_some_iff.1 hns
    have hmem : (c.toNat, ns) ∈ expansions := by simp [hlookup]
    refine .inr ⟨List.mem_append_left _ (List.mem_map_of_mem hmem), fun d hd => ?_⟩
    obtain ⟨n, hn, rfl⟩ := List.mem_map.1 hd
    apply toNat_ofNat_mem_imageCodes
    exact List.mem_cons_of_mem 0 (List.mem_append_left _ (List.mem_flatMap.2 ⟨_, hmem, hn⟩))
  · split
    · next n hn =>
      obtain ⟨r, hr, himage⟩ := List.exists_of_findSome?_eq_some hn
      have hmem : (c.toNat, n) ∈ runs.flatMap CaseRun.pairs :=
        List.mem_flatMap.2 ⟨r, hr, CaseRun.mem_pairs himage⟩
      refine .inr ⟨List.mem_append_right _ (List.mem_map_of_mem hmem), fun d hd => ?_⟩
      obtain rfl := List.mem_singleton.1 hd
      apply toNat_ofNat_mem_imageCodes
      exact List.mem_cons_of_mem 0 (List.mem_append_right _ (List.mem_map_of_mem hmem))
    · exact .inl rfl

theorem notMem_imageCodes_of_mapped : ∀ n ∈ mappedCodes lowerExpansions CaseRun.lower,
    n ∉ imageCodes lowerExpansions CaseRun.lower :=
  notMem_of_bits (by decide +kernel)

def caselessCodes : List Nat :=
  List.range' 0x30 10 ++ 0x5F :: List.range' 0x09 5 ++ [0x20, 0x85, 0xA0, 0x1680] ++
    List.range' 0x2000 11 ++ [0x2028, 0x2029, 0x202F, 0x205F, 0x3000]

theorem notMem_of_caseless : ∀ n ∈ caselessCodes,
    n ∉ mappedCodes lowerExpansions CaseRun.lower ++ imageCodes lowerExpansions CaseRun.lower :=
  notMem_of_bits (by decide +kernel)

def smallSigma (final : Bool) : Char := if final then 'ς' else 'σ'

theorem smallSigma_inj {final final' : Bool} :
    smallSigma final = smallSigma final' ↔ final = final' := by
  cases final <;> cases final' <;> decide

def lowerAs (final : Bool) (c : Char) : Text :=
  if c = 'Σ' then [smallSigma final] else lowerChar c

@[simp] theorem lowerAs_sigma (final : Bool) : lowerAs final 'Σ' = [smallSigma final] := rfl

theorem lowerAs_of_ne {c : Char} (h : c ≠ 'Σ') (final : Bool) : lowerAs final c = lowerChar c := if_neg h

theorem lowerChar_of_mem_lowerAs {final : Bool} {c d : Char} (h : d ∈ lowerAs final c) :
    lowerChar d = [d] := by
  rw [lowerAs] at h
  split at h
  · obtain rfl := List.mem_singleton.1 h
    cases final <;> decide
  · rw [lowerChar] at h
    obtain hself | ⟨-, himage⟩ := mapCase_eq_self_or lowerExpansions CaseRun.lower c
    · obtain rfl : d = c := by simpa [hself] using h
      exact hself
    · apply (mapCase_eq_self_or lowerExpansions CaseRun.lower d).resolve_right
      exact fun hmapped => notMem_imageCodes_of_mapped _ hmapped.1 (himage d h)

theorem lowerAs_ne_nil (final : Bool) (c : Char) : lowerAs final c ≠ [] := by
  rw [lowerAs]
  split
  · exact List.cons_ne_nil _ _
  · have hexpansions : ∀ x ∈ lowerExpansions, x.2 ≠ [] := by decide
    rw [lowerChar, mapCase]
    split
    · next ns hns =>
      obtain ⟨front, back, hlookup, -⟩ := List.lookup_eq_some_iff.1 hns
      simpa using hexpansions (c.toNat, ns) (by simp [hlookup])
    · split <;> exact List.cons_ne_nil _ _

/-- Lower case neither moves the character nor gives it for another. -/
structure Caseless (c : Char) : Prop where
  lowerAs_eq : ∀ final, lowerAs final c = [c]
  eq_of_mem : ∀ final d, c ∈ lowerAs final d → d = c

namespace Caseless

theorem of_mem_codes {c : Char} (h : c.toNat ∈ caselessCodes) : Caseless c := by
  obtain ⟨hmapped, himage⟩ := not_or.1 (mt List.mem_append.2 (notMem_of_caseless _ h))
  have hsigma : c ∉ ['Σ', 'σ', 'ς'] := by
    intro hmem
    revert h
    simp only [List.mem_cons, List.not_mem_nil, or_false] at hmem
    rcases hmem with rfl | rfl | rfl <;> decide
  simp only [List.mem_cons, List.not_mem_nil, or_false, not_or] at hsigma
  obtain ⟨hcapital, hsmall, hfinal⟩ := hsigma
  constructor
  · intro final
    rw [lowerAs_of_ne hcapital]
    exact (mapCase_eq_self_or lowerExpansions CaseRun.lower c).resolve_right fun h => hmapped h.1
  · intro final d hd
    rw [lowerAs] at hd
    split at hd
    · cases final <;> simp_all [smallSigma]
    · obtain hself | ⟨-, himages⟩ := mapCase_eq_self_or lowerExpansions CaseRun.lower d
      · rw [lowerChar, hself] at hd
        exact (List.mem_singleton.1 hd).symm
      · exact absurd (himages c hd) himage

theorem zero : Caseless '0' := of_mem_codes (by decide)

theorem underscore : Caseless '_' := of_mem_codes (by decide)

theorem of_isBlank {c : Char} (h : isBlank c) : Caseless c := by
  apply of_mem_codes
  simp only [isBlank, Bool.or_eq_true, Bool.and_eq_true, decide_eq_true_eq, beq_iff_eq] at h
  simp only [caselessCodes, List.mem_append, List.mem_cons, List.mem_range'_1, List.not_mem_nil]
  omega

theorem ne_sigma {c : Char} (h : Caseless c) : c ≠ 'Σ' := by
  rintro rfl
  exact absurd (h.lowerAs_eq true) (by decide)

end Caseless

end RecordText
