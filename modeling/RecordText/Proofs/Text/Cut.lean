import RecordText.Text.Basic

namespace RecordText.Text

def FirstBehind (word before : Text) : Prop :=
  ∀ s t, before ++ word = s ++ word ++ t → before.length ≤ s.length

theorem firstBehind_nil (word : Text) : FirstBehind word [] := fun _ _ _ => Nat.zero_le _

theorem firstBehind_cons_iff {word before : Text} {c : Char} :
    FirstBehind word (c :: before) ↔
      ¬ word <+: c :: (before ++ word) ∧ FirstBehind word before := by
  constructor
  · intro h
    constructor
    · rintro ⟨t, ht⟩
      exact Nat.not_succ_le_zero _ (h [] t ht.symm)
    · intro s t hs
      exact Nat.le_of_succ_le_succ (h (c :: s) t (by simp [hs]))
  · rintro ⟨hstart, h⟩ s t hs
    cases s with
    | nil => exact absurd ⟨t, hs.symm⟩ hstart
    | cons d s => exact Nat.succ_le_succ (h s t (List.cons.inj hs).2)

theorem firstBehind_singleton {word : Text} {c d : Char} (hd : word.head? = some d) (hne : c ≠ d) :
    FirstBehind word [c] := by
  refine firstBehind_cons_iff.2 ⟨?_, firstBehind_nil word⟩
  cases word with
  | nil => contradiction
  | cons e word =>
    obtain rfl : e = d := Option.some.inj hd
    exact fun hprefix => hne (List.cons_prefix_cons.1 hprefix).1.symm

-- An occurrence that begins inside `before` ends inside `before ++ word`, whatever comes behind.
theorem prefix_append_iff {word before : Text} {c : Char} (after : Text) :
    word <+: c :: (before ++ word ++ after) ↔ word <+: c :: (before ++ word) := by
  constructor
  · intro h
    exact List.prefix_of_prefix_length_le h (List.prefix_append (c :: (before ++ word)) after)
      (by simp; omega)
  · intro h
    exact h.trans (List.prefix_append (c :: (before ++ word)) after)

theorem cut?_append {word before : Text} (h : FirstBehind word before) (after : Text) :
    cut? word (before ++ word ++ after) = some (before, after) := by
  induction before with
  | nil => cases word <;> cases after <;> simp [cut?]
  | cons c before ih =>
    obtain ⟨hstart, h⟩ := firstBehind_cons_iff.1 h
    rw [← prefix_append_iff after, ← List.isPrefixOf_iff_prefix] at hstart
    simp only [List.cons_append, cut?, hstart, ih h]
    rfl

theorem firstBehind_of_cut? {word s before after : Text} (h : cut? word s = some (before, after)) :
    FirstBehind word before := by
  induction s generalizing before with
  | nil =>
    cases word with
    | nil =>
      cases h
      exact firstBehind_nil []
    | cons => contradiction
  | cons c s ih =>
    rw [cut?] at h
    split at h
    · cases h
      exact firstBehind_nil word
    · next hstart =>
      obtain ⟨⟨b, a⟩, hb, heq⟩ := Option.map_eq_some_iff.1 h
      cases heq
      rw [cut?_eq_some hb, List.isPrefixOf_iff_prefix, prefix_append_iff] at hstart
      exact firstBehind_cons_iff.2 ⟨hstart, ih hb⟩

theorem cut?_eq_some_iff {word s before after : Text} :
    cut? word s = some (before, after) ↔ s = before ++ word ++ after ∧ FirstBehind word before := by
  constructor
  · intro h
    exact ⟨cut?_eq_some h, firstBehind_of_cut? h⟩
  · rintro ⟨rfl, h⟩
    exact cut?_append h after

instance (word before : Text) : Decidable (FirstBehind word before) :=
  decidable_of_iff (cut? word (before ++ word) = some (before, [])) (by simp [cut?_eq_some_iff])

end RecordText.Text
