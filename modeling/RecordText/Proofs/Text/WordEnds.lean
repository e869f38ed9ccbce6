import Mathlib.Data.List.Basic
import RecordText.Proofs.Text.LowerCase

/-!
Lower case of a text inside another. All that the surroundings decide is which capital sigmas end a word,
so that a text is put into lower case by its list of word ends and character by character. A sigma looks at
most as far as the first character on each side that is not case-ignorable.
-/

namespace RecordText.Text

def firstCased? (s : Text) : Option Bool :=
  (s.find? (!CharSet.caseIgnorable.contains ·)).map CharSet.cased.contains

@[simp] theorem firstCased?_append (s t : Text) :
    firstCased? (s ++ t) = (firstCased? s).or (firstCased? t) := by
  rw [firstCased?, List.find?_append, Option.map_or]
  rfl

theorem firstCased?_cons {c : Char} {cased : Bool} (h : CharSet.caseIgnorable.contains c = false)
    (hcased : CharSet.cased.contains c = cased) (s : Text) : firstCased? (c :: s) = some cased := by
  rw [firstCased?, List.find?_cons_of_pos (by simp [h]), ← hcased]
  rfl

@[simp] theorem firstCased?_sigma (s : Text) : firstCased? ('Σ' :: s) = some true :=
  firstCased?_cons (by decide +kernel) (by decide +kernel) s

@[simp] theorem firstCased?_underscore (s : Text) : firstCased? ('_' :: s) = some false :=
  firstCased?_cons (by decide +kernel) (by decide +kernel) s

theorem firstCased?_eq_none_iff {s : Text} :
    firstCased? s = none ↔ ∀ c ∈ s, CharSet.caseIgnorable.contains c := by
  simp [firstCased?]

theorem sigma_notMem_of_firstCased? {s : Text} (h : firstCased? s = none) : 'Σ' ∉ s :=
  fun hmem => absurd (firstCased?_eq_none_iff.1 h _ hmem) (by decide +kernel)

theorem casedFirst_eq (s : Text) : casedFirst s = (firstCased? s == some true) := by
  have hhead : (s.dropWhile CharSet.caseIgnorable.contains).head? =
      s.find? (!CharSet.caseIgnorable.contains ·) := by
    induction s with
    | nil => rfl
    | cons c s ih => cases h : CharSet.caseIgnorable.contains c <;> simp [h, ih]
  rw [casedFirst, firstCased?, ← hhead]
  cases s.dropWhile CharSet.caseIgnorable.contains <;> simp

theorem endsWord_iff {before after : Text} :
    endsWord before after ↔ firstCased? before = some true ∧ firstCased? after ≠ some true := by
  simp [endsWord, casedFirst_eq]

theorem endsWord_congr {before after before' after' : Text}
    (hbefore : firstCased? before = firstCased? before') (hafter : firstCased? after = firstCased? after') :
    endsWord before after = endsWord before' after' := by
  rw [Bool.eq_iff_iff, endsWord_iff, endsWord_iff, hbefore, hafter]

/-- Whether a sigma between two texts keeps its form when more is put around them: the text before it,
which is given backwards, or the text after it settles that it is not final, or both settle that it is. -/
def settled (before after : Text) : Bool :=
  firstCased? after == some true || firstCased? before == some false ||
    (firstCased? before).isSome && (firstCased? after).isSome

theorem endsWord_append {before after : Text} (h : settled before after) (front back : Text) :
    endsWord (before ++ front) (after ++ back) = endsWord before after := by
  rw [Bool.eq_iff_iff, endsWord_iff, endsWord_iff, firstCased?_append, firstCased?_append]
  rw [settled] at h
  cases hbefore : firstCased? before <;> cases hafter : firstCased? after <;> simp_all

/-- For each capital sigma of a text between two others, whether it ends a word; the text before is given
backwards. -/
def wordEnds (before after : Text) : Text → List Bool
  | [] => []
  | c :: s =>
    if c = 'Σ' then endsWord before (s ++ after) :: wordEnds (c :: before) after s
    else wordEnds (c :: before) after s

def lowerWith : List Bool → Text → Text
  | _, [] => []
  | ends, c :: s =>
    lowerAs (ends.headD false) c ++ lowerWith (if c = 'Σ' then ends.tail else ends) s

section WordEnds

variable (before after : Text) (s t : Text) (ends : List Bool)

@[simp] theorem wordEnds_nil : wordEnds before after [] = [] := rfl

theorem wordEnds_cons_of_ne {c : Char} (h : c ≠ 'Σ') :
    wordEnds before after (c :: s) = wordEnds (c :: before) after s := if_neg h

theorem wordEnds_append : wordEnds before after (s ++ t) =
    wordEnds before (t ++ after) s ++ wordEnds (s.reverse ++ before) after t := by
  induction s generalizing before with
  | nil => rfl
  | cons c s ih =>
    rw [List.cons_append, wordEnds, wordEnds, ih, List.reverse_cons]
    split <;> simp

theorem length_wordEnds : (wordEnds before after s).length = s.count 'Σ' := by
  induction s generalizing before with
  | nil => rfl
  | cons c s ih =>
    rw [wordEnds]
    split
    · next h => rw [h, List.length_cons, ih, List.count_cons_self]
    · next h => rw [ih, List.count_cons_of_ne h]

theorem wordEnds_of_sigma_notMem (h : 'Σ' ∉ s) : wordEnds before after s = [] := by
  rw [← List.length_eq_zero_iff, length_wordEnds]
  exact List.count_eq_zero_of_not_mem h

theorem forall_sigma_cons {P : Text → Text → Prop} {c : Char} {s : Text} :
    (∀ u v, c :: s = u ++ 'Σ' :: v → P u v) ↔
      (c = 'Σ' → P [] s) ∧ ∀ u v, s = u ++ 'Σ' :: v → P (c :: u) v := by
  constructor
  · intro h
    refine ⟨?_, fun u v heq => h (c :: u) v (congrArg (c :: ·) heq)⟩
    rintro rfl
    exact h [] s rfl
  · rintro ⟨hhead, htail⟩ u v heq
    cases u with
    | nil =>
      obtain ⟨rfl, rfl⟩ := List.cons.inj heq
      exact hhead rfl
    | cons d u =>
      obtain ⟨rfl, rfl⟩ := List.cons.inj heq
      exact htail u v rfl

theorem wordEnds_eq_iff {before after front back s : Text} :
    wordEnds front back s = wordEnds before after s ↔ ∀ u v, s = u ++ 'Σ' :: v →
      endsWord (u.reverse ++ front) (v ++ back) = endsWord (u.reverse ++ before) (v ++ after) := by
  induction s generalizing front before with
  | nil => simp
  | cons c s ih =>
    rw [wordEnds, wordEnds, forall_sigma_cons]
    simp only [List.reverse_cons, List.append_assoc, List.singleton_append, ← ih]
    split <;> simp_all

@[simp] theorem lowerWith_nil : lowerWith ends [] = [] := by cases ends <;> rfl

theorem lowerWith_append : lowerWith ends (s ++ t) =
    lowerWith ends s ++ lowerWith (ends.drop (s.count 'Σ')) t := by
  induction s generalizing ends with
  | nil => simp
  | cons c s ih =>
    rw [List.cons_append, lowerWith, lowerWith, ih, List.append_assoc]
    split
    · next h => rw [h, List.count_cons_self, List.drop_tail]
    · next h => rw [List.count_cons_of_ne h]

theorem lowerWith_append_ends {s : Text} {ends : List Bool} (h : ends.length = s.count 'Σ')
    (more : List Bool) : lowerWith (ends ++ more) s = lowerWith ends s := by
  induction s generalizing ends with
  | nil => simp
  | cons c s ih =>
    rw [lowerWith, lowerWith]
    by_cases hc : c = 'Σ'
    · subst hc
      rw [List.count_cons_self] at h
      obtain ⟨final, ends, rfl⟩ := List.exists_cons_of_length_eq_add_one h
      simpa using ih (Nat.succ.inj h)
    · rw [List.count_cons_of_ne hc] at h
      rw [if_neg hc, if_neg hc, ih h, lowerAs_of_ne hc, lowerAs_of_ne hc]

theorem lowerWith_append_of_length {s : Text} {ends : List Bool} (h : ends.length = s.count 'Σ')
    (more : List Bool) (t : Text) :
    lowerWith (ends ++ more) (s ++ t) = lowerWith ends s ++ lowerWith more t := by
  rw [lowerWith_append, lowerWith_append_ends h, List.drop_left' h]

theorem lowerWith_inj {s : Text} {ends ends' : List Bool} (h : ends.length = s.count 'Σ')
    (h' : ends'.length = s.count 'Σ') : lowerWith ends s = lowerWith ends' s ↔ ends = ends' := by
  refine ⟨fun heq => ?_, fun heq => heq ▸ rfl⟩
  induction s generalizing ends ends' with
  | nil => rw [List.length_eq_zero_iff.1 h, List.length_eq_zero_iff.1 h']
  | cons c s ih =>
    rw [lowerWith, lowerWith] at heq
    by_cases hc : c = 'Σ'
    · subst hc
      rw [List.count_cons_self] at h h'
      obtain ⟨final, ends, rfl⟩ := List.exists_cons_of_length_eq_add_one h
      obtain ⟨final', ends', rfl⟩ := List.exists_cons_of_length_eq_add_one h'
      obtain ⟨hform, htail⟩ := List.cons.inj heq
      rw [show final = final' from smallSigma_inj.1 hform, ih (Nat.succ.inj h) (Nat.succ.inj h') htail]
    · rw [List.count_cons_of_ne hc] at h h'
      rw [if_neg hc, if_neg hc, lowerAs_of_ne hc, lowerAs_of_ne hc, List.append_cancel_left_eq] at heq
      exact ih h h' heq

theorem lowerFrom_eq : lowerFrom before s = lowerWith (wordEnds before [] s) s := by
  induction s generalizing before with
  | nil => rfl
  | cons c s ih =>
    rw [lowerFrom, lowerWith, wordEnds, ih]
    split
    · next h => simp [h, smallSigma]
    · next h => rw [lowerAs_of_ne h]

theorem lower_eq : s.lower = lowerWith (wordEnds [] [] s) s := lowerFrom_eq [] s

theorem lower_append_append : (before ++ s ++ after).lower =
    lowerWith (wordEnds [] (s ++ after) before) before ++
      lowerWith (wordEnds before.reverse after s) s ++
      lowerWith (wordEnds (s.reverse ++ before.reverse) [] after) after := by
  rw [lower_eq, wordEnds_append, wordEnds_append]
  rw [lowerWith_append_of_length (by simp [length_wordEnds]),
    lowerWith_append_of_length (length_wordEnds _ _ _)]
  simp

end WordEnds

end RecordText.Text
