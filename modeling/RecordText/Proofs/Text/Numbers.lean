import Mathlib.Algebra.Group.Nat.Defs
import RecordText.Proofs.Text.Stripping

namespace RecordText

theorem toNat_of_isAsciiDigit {c : Char} (h : isAsciiDigit c) : 48 ≤ c.toNat ∧ c.toNat ≤ 57 := by
  simp only [isAsciiDigit, Bool.and_eq_true, decide_eq_true_eq, Char.le_def,
    UInt32.le_iff_toNat_le] at h
  exact h

theorem toNat_ne_of_ne_zero {c : Char} (h : c ≠ '0') : c.toNat ≠ 48 := fun heq => h (Char.toNat_inj.1 heq)

theorem not_isBlank_of_isAsciiDigit {c : Char} (h : isAsciiDigit c) : isBlank c = false := by
  have hbounds := toNat_of_isAsciiDigit h
  simp only [isBlank, Bool.or_eq_false_iff, Bool.and_eq_false_iff, decide_eq_false_iff_not,
    beq_eq_false_iff_ne]
  omega

theorem digitChar_of_isAsciiDigit {c : Char} (h : isAsciiDigit c) : Nat.digitChar (c.toNat - 48) = c := by
  obtain ⟨hlo, hhi⟩ := toNat_of_isAsciiDigit h
  apply Char.toNat_inj.1
  rw [Nat.toNat_digitChar_of_lt_ten (by omega)]
  omega

namespace Text

@[simp] theorem toNat_nil : toNat [] = 0 := rfl

theorem toNat_cons (d : Char) (ds : Text) :
    toNat (d :: ds) = 10 ^ ds.length * (d.toNat - 48) + toNat ds := by
  rw [toNat, Nat.ofDigitChars_cons, Nat.ofDigitChars_eq_ofDigitChars_zero, Nat.mul_zero, Nat.zero_add]
  rfl

theorem toNat_concat (ds : Text) (d : Char) : toNat (ds ++ [d]) = 10 * toNat ds + (d.toNat - 48) := by
  rw [toNat, Nat.ofDigitChars_append, Nat.ofDigitChars_cons, Nat.ofDigitChars_nil]
  rfl

theorem toNat_replicate_zero_append (n : Nat) (ds : Text) :
    toNat (List.replicate n '0' ++ ds) = toNat ds := by
  rw [toNat, Nat.ofDigitChars_append, Nat.ofDigitChars_replicate_zero, Nat.mul_zero]
  rfl

theorem toNat_ofNat (n : Nat) : toNat (ofNat n) = n := Nat.ofDigitChars_ten_toDigits

theorem isAsciiDigit_of_mem_ofNat {n : Nat} {c : Char} (h : c ∈ ofNat n) : isAsciiDigit c :=
  Nat.isDigit_of_mem_toDigits (by decide) (by decide) h

theorem toNat_stripStart_zero (ds : Text) : toNat (stripStart (· == '0') ds) = toNat ds := by
  obtain ⟨zeros, hds, hzeros, -⟩ := stripStart_eq_iff.1 (rfl : stripStart (· == '0') ds = _)
  have hreplicate : zeros = List.replicate zeros.length '0' :=
    List.eq_replicate_of_mem fun c hc => beq_iff_eq.1 (hzeros c hc)
  conv_rhs => rw [hds, hreplicate, toNat_replicate_zero_append]

variable {ds es : Text}

theorem toNat_pos (hds : ∀ c ∈ ds, isAsciiDigit c) (hne : ds ≠ []) (hzero : ds.head? ≠ some '0') :
    0 < toNat ds := by
  obtain ⟨d, ds, rfl⟩ := List.exists_cons_of_ne_nil hne
  have hdigit := toNat_of_isAsciiDigit (hds d List.mem_cons_self)
  have hdZero := toNat_ne_of_ne_zero (c := d) fun h => hzero (congrArg some h)
  rw [toNat_cons]
  exact Nat.add_pos_left (Nat.mul_pos (Nat.pow_pos (by decide)) (by omega)) _

theorem ofNat_toNat (hds : ∀ c ∈ ds, isAsciiDigit c) (hne : ds ≠ []) (hzero : ds.head? ≠ some '0') :
    ofNat (toNat ds) = ds := by
  induction ds using List.reverseRecOn with
  | nil => exact absurd rfl hne
  | append_singleton ds d ih =>
    obtain ⟨hds, hd⟩ := List.forall_mem_append.1 hds
    have hdigit := hd d (List.mem_singleton_self d)
    have hlt : d.toNat - 48 < 10 := by
      have := toNat_of_isAsciiDigit hdigit
      omega
    have hlast : Nat.toDigits 10 (d.toNat - 48) = [d] := by
      rw [Nat.toDigits_of_lt_base hlt, digitChar_of_isAsciiDigit hdigit]
    rw [toNat_concat, ofNat]
    by_cases hempty : ds = []
    · subst hempty
      simpa using hlast
    · rw [List.head?_append_of_ne_nil _ hempty] at hzero
      rw [← Nat.toDigits_append_toDigits (by decide) (toNat_pos hds hempty hzero) hlt, hlast]
      exact congrArg (· ++ [d]) (ih hds hempty hzero)

theorem toNat_inj (hds : ∀ c ∈ ds, isAsciiDigit c) (hes : ∀ c ∈ es, isAsciiDigit c)
    (hdsZero : ds.head? ≠ some '0') (hesZero : es.head? ≠ some '0') : toNat ds = toNat es ↔ ds = es := by
  refine ⟨fun h => ?_, congrArg toNat⟩
  by_cases hd : ds = [] <;> by_cases he : es = []
  · rw [hd, he]
  · have hpos := toNat_pos hes he hesZero
    rw [← h, hd] at hpos
    contradiction
  · have hpos := toNat_pos hds hd hdsZero
    rw [h, he] at hpos
    contradiction
  · rw [← ofNat_toNat hds hd hdsZero, h, ofNat_toNat hes he hesZero]

theorem head?_stripStart_zero_ne (s : Text) : (stripStart (· == '0') s).head? ≠ some '0' :=
  fun h => absurd (of_mem_head?_stripStart h) (by decide)

theorem stripStart_zero_eq_iff (hds : ∀ c ∈ ds, isAsciiDigit c) (hes : ∀ c ∈ es, isAsciiDigit c) :
    stripStart (· == '0') ds = stripStart (· == '0') es ↔ toNat ds = toNat es := by
  have hsubset (s : Text) := (stripStart_isSuffix (· == '0') s).subset
  rw [← toNat_stripStart_zero ds, ← toNat_stripStart_zero es]
  exact (toNat_inj (fun c hc => hds c (hsubset ds hc)) (fun c hc => hes c (hsubset es hc))
    (head?_stripStart_zero_ne ds) (head?_stripStart_zero_ne es)).symm

end Text

end RecordText
