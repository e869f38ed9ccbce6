import RecordText.Pattern.Parser
import RecordText.Pattern.Printer

namespace RecordText

namespace Text

structure IsArgument (s : Text) : Prop where
  closed : s.count '(' = s.count ')'
  opened : ∀ t, t <+: s → t.count ')' ≤ t.count '('
  commas : ∀ t, t ++ [','] <+: s → t.count ')' ≠ t.count '('

/-- The parentheses open behind a character, if it does not end an argument. -/
def nextDepth (depth : Nat) (c : Char) : Option Nat :=
  if c = '(' then some (depth + 1)
  else if c = ')' then (if depth = 0 then none else some (depth - 1))
  else if c = ',' ∧ depth = 0 then none
  else some depth

def depthAfter (depth : Nat) (s : Text) : Option Nat := s.foldlM nextDepth depth

theorem nextDepth_eq_none_iff {depth : Nat} {c : Char} :
    nextDepth depth c = none ↔ depth = 0 ∧ (c = ')' ∨ c = ',') := by
  unfold nextDepth
  grind

theorem nextDepth_eq_some_iff {depth d : Nat} {c : Char} :
    nextDepth depth c = some d ↔
      d + (if c == ')' then 1 else 0) = depth + (if c == '(' then 1 else 0) ∧
        (c = ',' → depth ≠ 0) := by
  unfold nextDepth
  grind

@[simp] theorem depthAfter_nil (depth : Nat) : depthAfter depth [] = some depth := rfl

@[simp] theorem depthAfter_cons (depth : Nat) (c : Char) (s : Text) :
    depthAfter depth (c :: s) = (nextDepth depth c).bind (depthAfter · s) := rfl

@[simp] theorem depthAfter_append (depth : Nat) (s t : Text) :
    depthAfter depth (s ++ t) = (depthAfter depth s).bind (depthAfter · t) :=
  List.foldlM_append

theorem forall_prefix_cons {p : Text → Prop} {c : Char} {s : Text} :
    (∀ t, t <+: c :: s → p t) ↔ p [] ∧ ∀ t, t <+: s → p (c :: t) := by
  constructor
  · intro h
    exact ⟨h [] List.nil_prefix, fun t ht => h (c :: t) (List.cons_prefix_cons.2 ⟨rfl, ht⟩)⟩
  · intro h t ht
    cases t with
    | nil => exact h.1
    | cons d t =>
      obtain ⟨rfl, hs⟩ := List.cons_prefix_cons.1 ht
      exact h.2 t hs

theorem forall_concat_prefix_cons {p : Text → Prop} {c d : Char} {s : Text} :
    (∀ t, t ++ [d] <+: c :: s → p t) ↔ (c = d → p []) ∧ ∀ t, t ++ [d] <+: s → p (c :: t) := by
  constructor
  · intro h
    refine ⟨fun hc => h [] (by simp [hc]), fun t ht => h (c :: t) ?_⟩
    exact List.cons_prefix_cons.2 ⟨rfl, ht⟩
  · intro h t ht
    cases t with
    | nil => exact h.1 (List.cons_prefix_cons.1 ht).1.symm
    | cons e t =>
      obtain ⟨rfl, hs⟩ := List.cons_prefix_cons.1 ht
      exact h.2 t hs

theorem depthAfter_eq_some_iff {s : Text} {depth e : Nat} :
    depthAfter depth s = some e ↔
      depth + s.count '(' = e + s.count ')' ∧ (∀ t, t <+: s → t.count ')' ≤ depth + t.count '(') ∧
        ∀ t, t ++ [','] <+: s → t.count ')' ≠ depth + t.count '(' := by
  induction s generalizing depth with
  | nil => simp
  | cons c s ih =>
    rw [depthAfter_cons, forall_prefix_cons, forall_concat_prefix_cons]
    simp only [List.count_cons, List.count_nil]
    cases hn : nextDepth depth c with
    | some d =>
      have hd := nextDepth_eq_some_iff.1 hn
      rw [Option.bind_some, ih]
      grind
    | none =>
      obtain ⟨rfl, rfl | rfl⟩ := nextDepth_eq_none_iff.1 hn
      · have h := List.nil_prefix (l := s)
        grind
      · simp

theorem isArgument_iff {s : Text} : s.IsArgument ↔ depthAfter 0 s = some 0 := by
  rw [depthAfter_eq_some_iff]
  simp only [Nat.zero_add]
  exact ⟨fun h => ⟨h.closed, h.opened, h.commas⟩, fun h => ⟨h.1, h.2.1, h.2.2⟩⟩

instance : DecidablePred IsArgument := fun _ => decidable_of_iff _ isArgument_iff.symm

theorem isArgument_nil : IsArgument [] := isArgument_iff.2 rfl

theorem depthAfter_add {s : Text} {depth e : Nat} (h : depthAfter depth s = some e) (n : Nat) :
    depthAfter (depth + n) s = some (e + n) := by
  rw [depthAfter_eq_some_iff] at h ⊢
  refine ⟨by omega, fun t ht => ?_, fun t ht => ?_⟩
  · have := h.2.1 t ht
    omega
  · have hle := h.2.1 t ((List.prefix_append t _).trans ht)
    have hne := h.2.2 t ht
    omega

theorem IsArgument.depthAfter {s : Text} (h : s.IsArgument) (depth : Nat) :
    depthAfter depth s = some depth := by
  simpa using depthAfter_add (isArgument_iff.1 h) depth

theorem depthAfter_intercalate {ps : List Text} (h : ∀ p ∈ ps, IsArgument p) (depth : Nat) :
    depthAfter (depth + 1) ([','].intercalate ps) = some (depth + 1) := by
  induction ps with
  | nil => rfl
  | cons p ps ih =>
    have ih := ih fun q hq => h q (by simp [hq])
    have hp := (h p (by simp)).depthAfter (depth + 1)
    cases ps with
    | nil => simpa using hp
    | cons q qs =>
      rw [List.intercalate_cons_cons]
      simp [hp, ih, nextDepth]

theorem infix_intercalate {p : Text} {ps : List Text} (h : p ∈ ps) :
    p <:+: [','].intercalate ps := by
  induction ps with
  | nil => contradiction
  | cons q qs ih =>
    cases qs with
    | nil => simp_all
    | cons r rs =>
      rw [List.intercalate_cons_cons]
      cases h with
      | head =>
        rw [List.append_assoc]
        exact (List.prefix_append p _).isInfix
      | tail _ h => exact (ih h).trans (List.suffix_append _ _).isInfix

end Text

namespace Node

open Text

theorem cutArguments_cons {depth e : Nat} {c : Char} (h : nextDepth depth c = some e) (s : Text) :
    cutArguments depth (c :: s) =
      (cutArguments e s).map fun (ps, r) => (growFirst c ps, r) := by
  unfold nextDepth at h
  split at h
  · next hc =>
    cases h
    rw [hc, cutArguments]
  split at h
  · next hc =>
    cases depth with
    | zero => contradiction
    | succ depth =>
      cases h
      rw [hc, cutArguments, Nat.add_one_sub_one]
  · split at h
    · contradiction
    · next hcomma =>
      cases h
      rw [cutArguments]
      · simp only [hcomma, Bool.and_eq_true, decide_eq_true_eq, if_false]
      all_goals simp_all

theorem growFirst_foldr (s p : Text) (ps : List Text) :
    s.foldr growFirst (p :: ps) = (s ++ p) :: ps := by
  induction s with
  | nil => rfl
  | cons c s ih => simp [ih, growFirst]

theorem cutArguments_append {depth e : Nat} {s : Text} (h : depthAfter depth s = some e)
    (u : Text) :
    cutArguments depth (s ++ u) =
      (cutArguments e u).map fun (ps, r) => (s.foldr growFirst ps, r) := by
  induction s generalizing depth with
  | nil =>
    cases h
    simp
  | cons c s ih =>
    obtain ⟨d, hd, hs⟩ := Option.bind_eq_some_iff.1 h
    rw [List.cons_append, cutArguments_cons hd, ih hs, Option.map_map]
    rfl

theorem cutArguments_close {s : Text} (h : s.IsArgument) (u : Text) :
    cutArguments 0 (s ++ ')' :: u) = some ([s], u) := by
  rw [cutArguments_append (h.depthAfter 0)]
  simp [cutArguments, growFirst_foldr]

theorem cutArguments_comma {s : Text} (h : s.IsArgument) (u : Text) :
    cutArguments 0 (s ++ ',' :: u) = (cutArguments 0 u).map fun (ps, r) => (s :: ps, r) := by
  rw [cutArguments_append (h.depthAfter 0), cutArguments, Option.map_map]
  · simp [Function.comp_def, growFirst_foldr]
  all_goals simp

theorem cutArguments_intercalate {ps : List Text} (hne : ps ≠ []) (h : ∀ p ∈ ps, IsArgument p)
    (u : Text) : cutArguments 0 ([','].intercalate ps ++ ')' :: u) = some (ps, u) := by
  induction ps with
  | nil => contradiction
  | cons p ps ih =>
    cases ps with
    | nil => simpa using cutArguments_close (h p (by simp)) u
    | cons q qs =>
      rw [List.intercalate_cons_cons, List.append_assoc, List.append_assoc, List.singleton_append,
        cutArguments_comma (h p (by simp)), ih (by simp) fun r hr => h r (by simp [hr])]
      rfl

theorem intercalate_growFirst (c : Char) {ps : List Text} (hne : ps ≠ []) :
    [','].intercalate (growFirst c ps) = c :: [','].intercalate ps := by
  cases ps with
  | nil => contradiction
  | cons p ps => cases ps <;> simp [growFirst]

/-- The first piece begins inside `depth` parentheses, all others outside of any. -/
theorem cutArguments_inv {depth : Nat} {s r : Text} {ps : List Text}
    (h : cutArguments depth s = some (ps, r)) :
    ∃ p qs, ps = p :: qs ∧ depthAfter depth p = some 0 ∧ (∀ q ∈ qs, IsArgument q) ∧
      s = [','].intercalate ps ++ ')' :: r := by
  induction s generalizing depth ps with
  | nil => simp [cutArguments] at h
  | cons c s ih =>
    cases hd : nextDepth depth c with
    | some e =>
      rw [cutArguments_cons hd] at h
      obtain ⟨⟨ps', r'⟩, hs, heq⟩ := Option.map_eq_some_iff.1 h
      cases heq
      obtain ⟨p, qs, rfl, hp, hqs, rfl⟩ := ih hs
      refine ⟨c :: p, qs, rfl, by simpa [hd] using hp, hqs, ?_⟩
      rw [intercalate_growFirst c (by simp), List.cons_append]
    | none =>
      obtain ⟨rfl, rfl | rfl⟩ := nextDepth_eq_none_iff.1 hd
      · cases h
        exact ⟨[], [], rfl, rfl, by simp, by simp⟩
      · rw [← List.nil_append (',' :: s), cutArguments_comma isArgument_nil] at h
        obtain ⟨⟨ps', r'⟩, hs, heq⟩ := Option.map_eq_some_iff.1 h
        cases heq
        obtain ⟨p, qs, rfl, hp, hqs, rfl⟩ := ih hs
        refine ⟨[], p :: qs, rfl, rfl, ?_, by simp⟩
        simpa using ⟨isArgument_iff.2 hp, hqs⟩

theorem cutArguments_eq_some_iff {s r : Text} {ps : List Text} :
    cutArguments 0 s = some (ps, r) ↔
      ps ≠ [] ∧ (∀ p ∈ ps, IsArgument p) ∧ s = [','].intercalate ps ++ ')' :: r := by
  constructor
  · intro h
    obtain ⟨p, qs, rfl, hp, hqs, rfl⟩ := cutArguments_inv h
    refine ⟨by simp, ?_, rfl⟩
    simpa using ⟨isArgument_iff.2 hp, hqs⟩
  · rintro ⟨hne, hps, rfl⟩
    exact cutArguments_intercalate hne hps r

theorem splitArguments_eq_some_iff {s r : Text} {args : List Text} :
    splitArguments s = some (args, r) ↔
      ∃ ps, ps ≠ [] ∧ (∀ p ∈ ps, IsArgument p) ∧ s = [','].intercalate ps ++ ')' :: r ∧
        args = dropEmptyLast ps := by
  simp only [splitArguments, Option.map_eq_some_iff, Prod.exists, Prod.mk.injEq,
    cutArguments_eq_some_iff]
  constructor
  · rintro ⟨ps, r', ⟨hne, hps, hs⟩, hargs, rfl⟩
    exact ⟨ps, hne, hps, hs, hargs.symm⟩
  · rintro ⟨ps, hne, hps, hs, hargs⟩
    exact ⟨ps, r, ⟨hne, hps, hs⟩, hargs.symm, rfl⟩

theorem splitArguments_append {s r : Text} {args : List Text}
    (h : splitArguments s = some (args, r)) (t : Text) :
    splitArguments (s ++ t) = some (args, r ++ t) := by
  obtain ⟨ps, hne, hps, rfl, hargs⟩ := splitArguments_eq_some_iff.1 h
  exact splitArguments_eq_some_iff.2 ⟨ps, hne, hps, by simp, hargs⟩

theorem splitArguments_intercalate {ps : List Text} (h : ∀ p ∈ ps, IsArgument p) (r : Text) :
    splitArguments ([','].intercalate ps ++ ')' :: r) = some (dropEmptyLast ps, r) := by
  cases ps with
  | nil => exact splitArguments_eq_some_iff.2 ⟨[[]], by simp, by simp [isArgument_nil], rfl, rfl⟩
  | cons p ps => exact splitArguments_eq_some_iff.2 ⟨p :: ps, by simp, h, rfl, rfl⟩

theorem dropEmptyLast_cons (p : Text) {ps : List Text} (hne : ps ≠ []) :
    dropEmptyLast (p :: ps) = p :: dropEmptyLast ps := by
  cases ps with
  | nil => contradiction
  | cons q qs => rfl

theorem eq_dropEmptyLast_or (ps : List Text) :
    ps = dropEmptyLast ps ∨ ps = dropEmptyLast ps ++ [[]] := by
  induction ps with
  | nil => simp [dropEmptyLast]
  | cons p ps ih =>
    cases ps with
    | nil => cases p <;> simp [dropEmptyLast]
    | cons q qs =>
      rw [dropEmptyLast_cons p (by simp)]
      simpa using ih

theorem mem_dropEmptyLast_or {p : Text} {ps : List Text} (h : p ∈ ps) :
    p ∈ dropEmptyLast ps ∨ p = [] := by
  cases eq_dropEmptyLast_or ps with
  | inl hps => exact .inl (hps ▸ h)
  | inr hps =>
    rw [hps] at h
    simpa using h

theorem mem_of_mem_dropEmptyLast {p : Text} {ps : List Text} (h : p ∈ dropEmptyLast ps) :
    p ∈ ps := by
  cases eq_dropEmptyLast_or ps with
  | inl hps => rwa [hps]
  | inr hps => rw [hps]; simp [h]

theorem isArgument_of_splitArguments {s r : Text} {args : List Text}
    (h : splitArguments s = some (args, r)) : ∀ a ∈ args, IsArgument a := by
  obtain ⟨ps, -, hps, -, rfl⟩ := splitArguments_eq_some_iff.1 h
  exact fun a ha => hps a (mem_of_mem_dropEmptyLast ha)

theorem joinArguments_cons (a : Text) {args : List Text} (hne : args ≠ []) :
    joinArguments (a :: args) = a ++ ',' :: joinArguments args := by
  cases args with
  | nil => contradiction
  | cons b args => rfl

theorem exists_joinArguments {args : List Text} (h : ∀ a ∈ args, IsArgument a) :
    ∃ ps, ps ≠ [] ∧ (∀ p ∈ ps, IsArgument p) ∧ joinArguments args = [','].intercalate ps ∧
      dropEmptyLast ps = args := by
  induction args with
  | nil => exact ⟨[[]], by simp, by simp [isArgument_nil], rfl, rfl⟩
  | cons a args ih =>
    cases args with
    | nil =>
      cases a with
      | nil => exact ⟨[[], []], by simp, by simp [isArgument_nil], rfl, rfl⟩
      | cons c a => exact ⟨[c :: a], by simp, h, by simp [joinArguments], rfl⟩
    | cons b args =>
      obtain ⟨ps, hne, hps, hjoin, hdrop⟩ := ih fun c hc => h c (by simp [hc])
      refine ⟨a :: ps, by simp, by simpa using ⟨h a (by simp), hps⟩, ?_, ?_⟩
      · rw [joinArguments_cons a (by simp), hjoin, List.intercalate_cons_of_ne_nil hne]
        simp
      · rw [dropEmptyLast_cons a hne, hdrop]

theorem splitArguments_joinArguments {args : List Text} (h : ∀ a ∈ args, IsArgument a) (r : Text) :
    splitArguments (joinArguments args ++ ')' :: r) = some (args, r) := by
  obtain ⟨ps, -, hps, hjoin, hdrop⟩ := exists_joinArguments h
  rw [hjoin, splitArguments_intercalate hps, hdrop]

theorem depthAfter_joinArguments {args : List Text} (h : ∀ a ∈ args, IsArgument a) (depth : Nat) :
    depthAfter (depth + 1) (joinArguments args) = some (depth + 1) := by
  obtain ⟨ps, -, hps, hjoin, -⟩ := exists_joinArguments h
  rw [hjoin]
  exact depthAfter_intercalate hps depth

theorem joinArguments_dropEmptyLast (ps : List Text) :
    joinArguments (dropEmptyLast ps) = [','].intercalate ps ∨
      ∃ s, [','].intercalate ps = s ++ [','] := by
  induction ps with
  | nil => exact .inl rfl
  | cons p ps ih =>
    cases ps with
    | nil => cases p <;> simp [dropEmptyLast, joinArguments]
    | cons q qs =>
      rw [dropEmptyLast_cons p (by simp), List.intercalate_cons_of_ne_nil (by simp)]
      by_cases hd : dropEmptyLast (q :: qs) = []
      · have hqs : q :: qs = [[]] := by simpa [hd] using eq_dropEmptyLast_or (q :: qs)
        exact .inr ⟨p, by simp [hqs]⟩
      · rw [joinArguments_cons p hd]
        cases ih with
        | inl ih => exact .inl (by simp [ih])
        | inr ih =>
          obtain ⟨s, hs⟩ := ih
          exact .inr ⟨p ++ ',' :: s, by simp [hs]⟩

end Node

end RecordText
