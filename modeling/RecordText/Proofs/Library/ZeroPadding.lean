import RecordText.Library.Builtin
import RecordText.Proofs.Extractor.Agreement
import RecordText.Proofs.Text.Numbers

namespace RecordText

namespace Text

theorem firstCased?_replicate_zero_ne (n : Nat) : firstCased? (List.replicate n '0') ≠ some true := by
  have hzero (s : Text) : firstCased? ('0' :: s) = some false :=
    firstCased?_cons (by decide +kernel) (by decide +kernel) s
  cases n with
  | zero => exact nofun
  | succ n =>
    rw [List.replicate_succ, hzero]
    exact nofun

theorem firstCased?_append_replicate_zero (s : Text) (n : Nat) :
    firstCased? (s ++ List.replicate n '0') = some true ↔ firstCased? s = some true := by
  rw [firstCased?_append]
  cases firstCased? s with
  | none => simp [firstCased?_replicate_zero_ne]
  | some cased => simp

theorem wordEnds_replicate_zero_append (n : Nat) (s : Text) :
    wordEnds [] [] (List.replicate n '0' ++ s) = wordEnds [] [] s := by
  have hzeros : 'Σ' ∉ List.replicate n '0' := fun h => absurd (List.eq_of_mem_replicate h) (by decide)
  rw [wordEnds_append, wordEnds_of_sigma_notMem _ _ _ hzeros, List.nil_append, wordEnds_eq_iff]
  intro u v _
  rw [Bool.eq_iff_iff, endsWord_iff, endsWord_iff]
  simp only [List.append_nil, List.reverse_replicate, firstCased?_append_replicate_zero]

theorem stripStart_replicate_zero_append (n : Nat) (s : Text) :
    stripStart (· == '0') (List.replicate n '0' ++ s) = stripStart (· == '0') s :=
  List.dropWhile_append_of_pos fun _ hc => beq_iff_eq.2 (List.eq_of_mem_replicate hc)

theorem normalize_replicate_zero_append (n : Nat) (s : Text) :
    normalize (List.replicate n '0' ++ s) = s.normalize := by
  have hfilter : (List.replicate n '0').filter (· != '_') = List.replicate n '0' :=
    List.filter_replicate_of_pos (by decide)
  rw [normalize_eq, normalize_eq, wordEnds_replicate_zero_append, List.filter_append, hfilter, trimmed,
    stripStart_replicate_zero_append]
  rfl

end Text

namespace Builtin

open Text

theorem length_pad (n : Nat) (s : Text) : (pad n s).length = max n s.length := List.length_leftpad

theorem suffix_pad (n : Nat) (s : Text) : s <:+ pad n s := List.leftpad_suffix

theorem pad_pad (m n : Nat) (s : Text) : pad m (pad n s) = pad (max n m) s := by
  have hzeros : m - max n s.length + (n - s.length) = max n m - s.length := by omega
  rw [pad, length_pad, pad, pad, ← List.append_assoc, List.replicate_append_replicate, hzeros]

/-- The text begins, behind all blanks at its start, with these digits and no more. -/
def LeadingDigits (width digits : Text) : Prop := ∃ blanks rest, width = blanks ++ digits ++ rest ∧
  (∀ c ∈ blanks, isBlank c) ∧ (∀ c ∈ digits, isAsciiDigit c) ∧
  (∀ c ∈ (digits ++ rest).head?, isBlank c = false) ∧ ∀ c ∈ rest.head?, isAsciiDigit c = false

theorem exists_leadingDigits (width : Text) : ∃ digits, LeadingDigits width digits := by
  obtain ⟨blanks, hwidth, hblanks, hhead⟩ := stripStart_eq_iff.1 (rfl : stripStart isBlank width = _)
  refine ⟨(stripStart isBlank width).takeWhile isAsciiDigit, blanks,
    (stripStart isBlank width).dropWhile isAsciiDigit, ?_, hblanks, fun c => List.mem_takeWhile_imp, ?_, ?_⟩
  · rwa [List.append_assoc, List.takeWhile_append_dropWhile]
  · rwa [List.takeWhile_append_dropWhile]
  · exact fun c hc => of_mem_head?_stripStart hc

theorem leadingDigits_ofNat (n : Nat) : LeadingDigits (ofNat n) (ofNat n) := by
  have hdigits : ∀ c ∈ ofNat n, isAsciiDigit c := fun _ => isAsciiDigit_of_mem_ofNat
  refine ⟨[], [], by simp, by simp, hdigits, fun c hc => ?_, by simp⟩
  rw [List.append_nil] at hc
  exact not_isBlank_of_isAsciiDigit (hdigits c (List.mem_of_mem_head? hc))

variable {width digits : Text}

theorem leadingNumber?_eq (h : LeadingDigits width digits) : leadingNumber? width =
    if digits = [] ∨ 2 ^ 64 ≤ toNat digits then none else some (toNat digits) := by
  obtain ⟨blanks, rest, rfl, hblanks, hdigits, hhead, hrest⟩ := h
  have hstrip : stripStart isBlank (blanks ++ digits ++ rest) = digits ++ rest :=
    stripStart_eq_iff.2 ⟨blanks, List.append_assoc _ _ _, hblanks, hhead⟩
  have htake : (digits ++ rest).takeWhile isAsciiDigit = digits := by
    rw [List.takeWhile_append_of_pos hdigits]
    cases rest with
    | nil => simp
    | cons c rest => simp [hrest c rfl]
  have hmax : maxNumber < toNat digits ↔ 2 ^ 64 ≤ toNat digits := Nat.lt_iff_add_one_le
  simp only [leadingNumber?, hstrip, htake, Bool.or_eq_true, List.isEmpty_iff, decide_eq_true_eq, hmax]

theorem zfill_eq_self (h : LeadingDigits width digits) (hnone : digits = [] ∨ 2 ^ 64 ≤ toNat digits)
    (s : Text) : zfill [s, width] = s := by
  rw [zfill, zfillTo, leadingNumber?_eq h, if_pos hnone]

theorem zfill_eq_of_number (hne : digits ≠ []) (hlt : toNat digits < 2 ^ 64)
    (h : LeadingDigits width digits) (s : Text) : zfill [s, width] =
      if 1024 < toNat digits then "ERR: width ".toList ++ ofNat (toNat digits) ++ " too large".toList
      else pad (toNat digits) s := by
  rw [zfill, zfillTo, leadingNumber?_eq h, if_neg (not_or.2 ⟨hne, Nat.not_le.2 hlt⟩)]
  rfl

theorem zfill_eq_pad (h : LeadingDigits width digits) (hne : digits ≠ []) (hle : toNat digits ≤ 1024)
    (s : Text) : zfill [s, width] = pad (toNat digits) s := by
  rw [zfill_eq_of_number hne (by omega) h, if_neg (Nat.not_lt.2 hle)]

/-- Zeros in front of a text do not count when it is compared, and a text is filled up to the largest of
the widths that it is filled to, from the left and no further. Without a number as its width it stays as it
is. -/
theorem zfill_zfill :
    (∀ s width, (zfill [s, width]).normalize = s.normalize ∨ ∃ digits, LeadingDigits width digits ∧
      1024 < toNat digits ∧
      zfill [s, width] = "ERR: width ".toList ++ ofNat (toNat digits) ++ " too large".toList) ∧
    (∀ s width digits, LeadingDigits width digits → digits ≠ [] → toNat digits ≤ 1024 →
      (zfill [s, width]).length = max (toNat digits) s.length ∧ s <:+ zfill [s, width]) ∧
    (∀ s width width' digits digits', LeadingDigits width digits → LeadingDigits width' digits' →
      digits ≠ [] → digits' ≠ [] → toNat digits ≤ 1024 → toNat digits' ≤ 1024 →
      zfill [zfill [s, width], width'] = zfill [s, ofNat (max (toNat digits) (toNat digits'))]) ∧
    ∀ s width digits, LeadingDigits width digits → digits = [] ∨ 2 ^ 64 ≤ toNat digits →
      zfill [s, width] = s := by
  refine ⟨fun s width => ?_, fun s width digits h hne hle => ?_,
    fun s width width' digits digits' h h' hne hne' hle hle' => ?_,
    fun s width digits h hnone => zfill_eq_self h hnone s⟩
  · obtain ⟨digits, h⟩ := exists_leadingDigits width
    by_cases hnone : digits = [] ∨ 2 ^ 64 ≤ toNat digits
    · exact .inl (congrArg normalize (zfill_eq_self h hnone s))
    · obtain ⟨hne, hlt⟩ := not_or.1 hnone
      rw [zfill_eq_of_number hne (Nat.not_le.1 hlt) h]
      split
      · next hlarge => exact .inr ⟨digits, h, hlarge, rfl⟩
      · exact .inl (normalize_replicate_zero_append _ s)
  · rw [zfill_eq_pad h hne hle]
    exact ⟨length_pad _ s, suffix_pad _ s⟩
  · have hlarger : toNat (ofNat (max (toNat digits) (toNat digits'))) ≤ 1024 := by
      rw [toNat_ofNat]
      omega
    rw [zfill_eq_pad h hne hle, zfill_eq_pad h' hne' hle', pad_pad,
      zfill_eq_pad (leadingDigits_ofNat _) Nat.toDigits_ne_nil hlarger, toNat_ofNat]

theorem zfill_zfill_behind_blanks :
    let width : Text := " 05x6".toList
    let long : Text := "18446744073709551616".toList
    (LeadingDigits width "05".toList ∧ LeadingDigits ['3'] ['3'] ∧ LeadingDigits long long) ∧
      (zfill ["_Σ".toList, width]).length = 5 ∧
      zfill [zfill ["_Σ".toList, width], ['3']] = zfill ["_Σ".toList, ['5']] ∧
      zfill [['7'], long] = ['7'] := by
  intro width long
  have hwidth : LeadingDigits width "05".toList :=
    ⟨[' '], "x6".toList, rfl, by simp [isBlank], by simp [isAsciiDigit], by simp [isBlank],
      by simp [isAsciiDigit]⟩
  have hthree : LeadingDigits ['3'] ['3'] :=
    ⟨[], [], rfl, by simp, by simp [isAsciiDigit], by simp [isBlank], by simp⟩
  have hlong : LeadingDigits long long :=
    ⟨[], [], rfl, by simp, by simp [long, isAsciiDigit], by simp [long, isBlank], by simp⟩
  obtain ⟨-, hlength, htwice, hself⟩ := zfill_zfill
  exact ⟨⟨hwidth, hthree, hlong⟩, (hlength _ _ _ hwidth (by decide) (by decide)).1,
    htwice _ _ _ _ _ hwidth hthree (by decide) (by decide) (by decide) (by decide),
    hself _ _ _ hlong (.inr (by decide))⟩

end Builtin

end RecordText
