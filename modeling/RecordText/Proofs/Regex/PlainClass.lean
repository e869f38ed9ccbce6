import RecordText.Proofs.CharSet.Members
import RecordText.Proofs.Regex.TiedClass

namespace RecordText.Regex

def standsForItself (c : Char) : Bool := c ∉ ['^', '-', '[', ']', '\\', '&', '~']

theorem standsForItself_of_isAscii {c : Char} (h : isAsciiLetter c ∨ isAsciiDigit c) : standsForItself c := by
  rw [standsForItself, decide_eq_true_iff]
  intro hmem
  simp only [List.mem_cons, List.not_mem_nil, or_false] at hmem
  obtain rfl | rfl | rfl | rfl | rfl | rfl | rfl := hmem <;> revert h <;> decide

theorem toNat_lt_of_isAscii {c : Char} (h : isAsciiLetter c ∨ isAsciiDigit c) : c.toNat < 0x80 := by
  have htoNat : c.val.toNat = c.toNat := rfl
  simp only [isAsciiLetter, isAsciiDigit, Bool.or_eq_true, Bool.and_eq_true, decide_eq_true_eq,
    Char.le_def, UInt32.le_iff_toNat_le, htoNat] at h
  have hz : 'z'.val.toNat = 122 := rfl
  have hZ : 'Z'.val.toNat = 90 := rfl
  have h9 : '9'.val.toNat = 57 := rfl
  omega

section Reading

theorem readRange_plain {c d : Char} (hc : standsForItself c) (hd : d ≠ '-') (s : Text) :
    readRange false (c :: d :: s) = some (.literal c, d :: s) := by
  refine readRange_of_member ?_ ?_
  · simp_all [readMember, standsForItself]
  · rintro t heq
    exact hd (List.cons.inj heq).1

theorem exists_cons_of_plain {set : Text} (hset : ∀ c ∈ set, standsForItself c) :
    ∃ d t, set ++ [']'] = d :: t ∧ d ≠ '-' := by
  cases set with
  | nil => exact ⟨']', [], rfl, by decide⟩
  | cons d set =>
    refine ⟨d, set ++ [']'], rfl, ?_⟩
    rintro rfl
    exact absurd (hset '-' List.mem_cons_self) (by decide)

theorem readMembers_plain {set : Text} (hset : ∀ c ∈ set, standsForItself c) {fuel : Nat}
    (hfuel : set.length < fuel) (items : List ClassItem) :
    readMembers false fuel none items (set ++ [']']) =
      some (.items (items.reverse ++ set.map .literal), []) := by
  induction set generalizing fuel items with
  | nil =>
    obtain ⟨fuel, rfl⟩ := Nat.exists_eq_succ_of_ne_zero (Nat.ne_of_gt hfuel)
    simp [readMembers, ClassSet.close]
  | cons c set ih =>
    obtain ⟨fuel, rfl⟩ := Nat.exists_eq_succ_of_ne_zero (Nat.ne_of_gt (Nat.zero_lt_of_lt hfuel))
    obtain ⟨hc, hset⟩ := List.forall_mem_cons.1 hset
    obtain ⟨d, t, hrest, hd⟩ := exists_cons_of_plain hset
    have hplain := hc
    simp only [standsForItself, List.mem_cons, List.not_mem_nil, or_false, not_or, decide_eq_true_eq] at hplain
    obtain ⟨-, hminus, hopen, hclose, -, hand, htilde⟩ := hplain
    rw [List.cons_append, hrest, readMembers_of_range hclose hopen fun _ => ⟨hand, hminus, htilde⟩,
      readRange_plain hc hd, Option.bind_some, ← hrest]
    refine (ih hset (Nat.lt_of_succ_lt_succ hfuel) (.literal c :: items)).trans ?_
    simp

theorem readOpening_plain {c : Char} (hc : standsForItself c) (s : Text) :
    readOpening false (c :: s) = (false, [], c :: s) := by
  simp only [standsForItself, List.mem_cons, List.not_mem_nil, or_false, not_or, decide_eq_true_eq] at hc
  obtain ⟨hcaret, hminus, -, hclose, -, -, -⟩ := hc
  rw [readOpening_of_ne (by simp [hcaret]), readLeading]
  simp [readHyphens, hminus, hclose]

theorem classBody?_plain {set : Text} (hne : set ≠ []) (hset : ∀ c ∈ set, standsForItself c) :
    classBody? set = some (.items (set.map .literal), false) := by
  rw [classBody?_eq_some_iff]
  cases set with
  | nil => contradiction
  | cons c set =>
    have hfuel : (c :: set).length < 2 * ((c :: set).length + 1) + 1 := by omega
    rw [readClass, List.cons_append, readOpening_plain (hset c List.mem_cons_self), ← List.cons_append]
    dsimp only
    rw [readMembers_plain hset hfuel]
    rfl

end Reading

section Members

theorem eachChars?_literals (set : Text) :
    ClassSet.eachChars? .initial (set.map .literal) = some (set.map .single) := by
  induction set with
  | nil => rfl
  | cons c set ih =>
    rw [List.map_cons, ClassSet.eachChars?, ih]
    rfl

theorem members?_literals (set : Text) :
    (ClassSet.items (set.map .literal)).members? false = some (.unions (set.map .single)) := by
  rw [ClassSet.members?, ClassSet.chars?, eachChars?_literals]
  rfl

theorem depthAll_literals (set : Text) : ClassSet.depthAll (set.map .literal) = 0 := by
  induction set with
  | nil => rfl
  | cons c set ih => rw [List.map_cons, ClassSet.depthAll, ih]; rfl

theorem depth_literals_le (set : Text) : (ClassSet.items (set.map .literal)).depth ≤ 1 := by
  rw [ClassSet.depth, depthAll_literals]
  split <;> omega

theorem byteRuns_single : ∀ n < 0x80, (CharSet.range n n).byteRuns = [[(n, n)]] := by
  decide +kernel

theorem charsWeight_le {s : CharSet} (hascii : s.isAscii) (hlength : s.ranges.length ≤ 0x80) :
    charsWeight s ≤ 2 * stateWeight + 8 * 0x80 := by
  rw [charsWeight]
  dsimp only
  split
  · next hsingle =>
    obtain ⟨hone, hsame⟩ := Bool.and_eq_true_iff.1 hsingle
    obtain ⟨⟨lo, hi⟩, hranges⟩ := List.length_eq_one_iff.1 (of_decide_eq_true hone)
    obtain rfl : lo = hi := by simpa [hranges] using hsame
    obtain rfl : s = .range lo lo := congrArg CharSet.mk hranges
    have hlo : lo < 0x80 := by simpa [CharSet.isAscii, CharSet.range] using hascii
    rw [byteRuns_single lo hlo]
    exact (by decide : stateWeight * 1 ≤ 2 * stateWeight + 8 * 0x80)
  · omega

end Members

end RecordText.Regex
