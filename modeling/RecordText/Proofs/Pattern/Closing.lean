import Mathlib.Data.List.Basic
import Mathlib.Data.List.Induction
import RecordText.Proofs.Pattern.Reading

namespace RecordText

namespace Text

def Overcloses (s : Text) : Prop := s.count '(' < (s ++ [')']).count ')'

theorem overcloses_iff {s : Text} : s.Overcloses ↔ s.count '(' ≤ s.count ')' := by
  rw [Overcloses, List.count_append]
  exact Nat.lt_add_one_iff

def NeverOvercloses (s : Text) : Prop := ∀ t, t ++ [')'] <+: s → ¬ Overcloses t

theorem neverOvercloses_iff {s : Text} :
    s.NeverOvercloses ↔ ∀ t, t <+: s → t.count ')' ≤ t.count '(' := by
  simp only [NeverOvercloses, overcloses_iff, Nat.not_le]
  constructor
  · intro h t ht
    induction t using List.reverseRecOn with
    | nil => exact Nat.le_refl 0
    | append_singleton t c ih =>
      have hle := ih ((List.prefix_append t [c]).trans ht)
      rw [List.count_append, List.count_append, List.count_singleton, List.count_singleton]
      by_cases hc : c = ')'
      · subst hc
        simpa [Nat.add_one_le_iff] using h t ht
      · rw [if_neg (by simpa using hc)]
        exact hle.trans (Nat.le_add_right _ _)
  · intro h t ht
    have hle := h _ ht
    rw [List.count_append, List.count_append] at hle
    exact Nat.lt_of_add_one_le hle

structure IsBalanced (s : Text) : Prop where
  closed : s.count '(' = s.count ')'
  opened : ∀ t, t <+: s → t.count ')' ≤ t.count '('

theorem IsArgument.isBalanced {s : Text} (h : s.IsArgument) : s.IsBalanced := ⟨h.closed, h.opened⟩

theorem isBalanced_nil : IsBalanced [] := isArgument_nil.isBalanced

theorem isBalanced_comma : IsBalanced [','] where
  closed := rfl
  opened := by simp [forall_prefix_cons]

theorem IsBalanced.append {s t : Text} (hs : s.IsBalanced) (ht : t.IsBalanced) :
    IsBalanced (s ++ t) where
  closed := by rw [List.count_append, List.count_append, hs.closed, ht.closed]
  opened u hu := by
    obtain hus | hsu := List.prefix_or_prefix_of_prefix hu (List.prefix_append s t)
    · exact hs.opened u hus
    · obtain ⟨v, rfl⟩ := hsu
      have hv := ht.opened v ((List.prefix_append_right_inj s).1 hu)
      rw [List.count_append, List.count_append, hs.closed]
      exact Nat.add_le_add_left hv _

theorem isBalanced_intercalate {ps : List Text} (h : ∀ p ∈ ps, IsBalanced p) :
    IsBalanced ([','].intercalate ps) := by
  induction ps with
  | nil => exact isBalanced_nil
  | cons p ps ih =>
    obtain ⟨hp, hps⟩ := List.forall_mem_cons.1 h
    cases ps with
    | nil => simpa using hp
    | cons q qs =>
      rw [List.intercalate_cons_cons]
      exact (hp.append isBalanced_comma).append (ih hps)

theorem IsBalanced.neverOvercloses {s : Text} (h : s.IsBalanced) : s.NeverOvercloses :=
  neverOvercloses_iff.2 h.opened

theorem IsArgument.getLast?_ne {s : Text} (h : s.IsArgument) : s.getLast? ≠ some ',' := by
  intro hlast
  obtain ⟨t, rfl⟩ := List.getLast?_eq_some_iff.1 hlast
  apply h.commas t (List.prefix_refl _)
  simpa using h.closed.symm

end Text

namespace Node

open Text

theorem cutArguments_eq_none_iff {depth : Nat} {s : Text} :
    cutArguments depth s = none ↔ ∀ t, t ++ [')'] <+: s → t.count ')' < depth + t.count '(' := by
  induction s generalizing depth with
  | nil => simp [cutArguments]
  | cons c s ih =>
    rw [forall_concat_prefix_cons]
    simp only [List.count_cons, List.count_nil]
    cases hd : nextDepth depth c with
    | some e =>
      have hnext := nextDepth_eq_some_iff.1 hd
      rw [cutArguments_cons hd, Option.map_eq_none_iff, ih]
      grind
    | none =>
      obtain ⟨rfl, rfl | rfl⟩ := nextDepth_eq_none_iff.1 hd
      · simp [cutArguments]
      · rw [← List.nil_append (',' :: s), cutArguments_comma isArgument_nil, Option.map_eq_none_iff, ih]
        simp

/-- Behind `t`, which is read with `depth` parentheses open, cutting goes on with `e` open. -/
def Reaches (depth : Nat) (t : Text) (e : Nat) : Prop :=
  ∃ f : List Text → List Text, ∀ s,
    cutArguments depth (t ++ s) = (cutArguments e s).map fun (ps, r) => (f ps, r)

theorem exists_reaches {depth : Nat} {t : Text} (h : ∀ u, u <+: t → u.count ')' ≤ depth + u.count '(') :
    ∃ e, t.count ')' + e = depth + t.count '(' ∧ Reaches depth t e := by
  induction t generalizing depth with
  | nil => exact ⟨depth, by simp, id, fun s => by simp⟩
  | cons c t ih =>
    obtain ⟨-, h⟩ := forall_prefix_cons.1 h
    simp only [List.count_cons] at h ⊢
    cases hd : nextDepth depth c with
    | some d =>
      have hnext := nextDepth_eq_some_iff.1 hd
      obtain ⟨e, he, f, hf⟩ := @ih d (by grind)
      refine ⟨e, by grind, fun ps => growFirst c (f ps), fun s => ?_⟩
      rw [List.cons_append, cutArguments_cons hd, hf, Option.map_map]
      rfl
    | none =>
      obtain ⟨rfl, rfl | rfl⟩ := nextDepth_eq_none_iff.1 hd
      -- a parenthesis here would close more than were opened
      · simpa using h [] List.nil_prefix
      · obtain ⟨e, he, f, hf⟩ := @ih 0 (by simpa using h)
        refine ⟨e, by simpa using he, fun ps => [] :: f ps, fun s => ?_⟩
        rw [List.cons_append, ← List.nil_append (',' :: (t ++ s)), cutArguments_comma isArgument_nil, hf,
          Option.map_map]
        rfl

theorem dropEmptyLast_eq_nil_iff {ps : List Text} (hne : ps ≠ []) :
    dropEmptyLast ps = [] ↔ [','].intercalate ps = [] := by
  cases ps with
  | nil => contradiction
  | cons p ps =>
    cases ps with
    | nil => cases p <;> simp [dropEmptyLast]
    | cons q qs => simp [dropEmptyLast_cons, List.intercalate_cons_cons]

theorem intercalate_dropEmptyLast_or {ps : List Text} (h : ∀ p ∈ ps, IsArgument p) :
    ([','].intercalate ps = [','].intercalate (dropEmptyLast ps) ∧
        ([','].intercalate ps).getLast? ≠ some ',') ∨
      [','].intercalate ps = [','].intercalate (dropEmptyLast ps) ++ [','] := by
  induction ps with
  | nil => exact .inl ⟨rfl, by simp⟩
  | cons p ps ih =>
    obtain ⟨hp, hps⟩ := List.forall_mem_cons.1 h
    cases ps with
    | nil => cases p <;> simp [dropEmptyLast, hp.getLast?_ne]
    | cons q qs =>
      rw [dropEmptyLast_cons p (by simp), List.intercalate_cons_of_ne_nil (by simp)]
      by_cases hd : dropEmptyLast (q :: qs) = []
      · have hnil := (dropEmptyLast_eq_nil_iff (by simp)).1 hd
        exact .inr (by simp [hd, hnil])
      · rw [List.intercalate_cons_of_ne_nil hd]
        have hbody := mt (dropEmptyLast_eq_nil_iff (by simp)).2 hd
        obtain ⟨heq, hlast⟩ | heq := ih hps
        · exact .inl ⟨by rw [heq], by rwa [List.getLast?_append_of_ne_nil _ hbody]⟩
        · exact .inr (by rw [heq]; simp)

theorem parseNodes_call_unclosed {name s : Text} (h : isName name) (hcut : splitArguments s = none)
    (read : Text → Except PatternError Node) :
    parseNodes (some read) ('$' :: (name ++ '(' :: s)) = .error (.unclosedArguments name) := by
  rw [parseNodes_call h]
  simp only [hcut]

/-- The arguments of a call end at the first parenthesis that closes more than were opened in front of it,
and without one the call is not closed. What stands in front of that parenthesis are the arguments with
commas between them, each balanced and without a comma outside its parentheses, and one more comma where
that text ends with a comma outside all parentheses. As far as no such parenthesis is read, the ones that are
counted as open are those opened and not closed. -/
theorem splitArguments_closing (s : Text) :
    (splitArguments s = none ↔ s.NeverOvercloses) ∧
      (splitArguments s = none → ∀ name, isName name → ∀ read,
        parseNodes (some read) ('$' :: (name ++ '(' :: s)) = .error (.unclosedArguments name)) ∧
      (∀ args rest, splitArguments s = some (args, rest) → ∃ body, s = body ++ ')' :: rest ∧
        body.Overcloses ∧ body.NeverOvercloses ∧ (∀ a ∈ args, a.IsArgument) ∧
        (body = [','].intercalate args ∨ body = [','].intercalate args ++ [',']) ∧
        (body = [','].intercalate args ++ [','] ↔ ∃ t, body = t ++ [','] ∧ t.count '(' = t.count ')') ∧
        (args = [] ↔ body = [])) ∧
      ∀ t, t <+: s → NeverOvercloses t →
        ∃ depth, t.count ')' + depth = t.count '(' ∧ Reaches 0 t depth := by
  refine ⟨?_, fun hcut name hname read => parseNodes_call_unclosed hname hcut read, fun args rest hcut => ?_, ?_⟩
  · rw [splitArguments, Option.map_eq_none_iff, cutArguments_eq_none_iff]
    simp only [NeverOvercloses, overcloses_iff, Nat.zero_add, Nat.not_le]
  · obtain ⟨ps, hne, hps, rfl, rfl⟩ := splitArguments_eq_some_iff.1 hcut
    have hargs : ∀ a ∈ dropEmptyLast ps, IsArgument a := fun a ha => hps a (mem_of_mem_dropEmptyLast ha)
    have hbody : IsBalanced ([','].intercalate ps) := isBalanced_intercalate fun p hp => (hps p hp).isBalanced
    have hjoined : IsBalanced ([','].intercalate (dropEmptyLast ps)) :=
      isBalanced_intercalate fun a ha => (hargs a ha).isBalanced
    have hform := intercalate_dropEmptyLast_or hps
    refine ⟨_, rfl, overcloses_iff.2 hbody.closed.le, hbody.neverOvercloses, hargs, hform.imp_left And.left, ?_,
      dropEmptyLast_eq_nil_iff hne⟩
    constructor
    · exact fun hcomma => ⟨_, hcomma, hjoined.closed⟩
    · rintro ⟨t, ht, -⟩
      refine hform.resolve_left fun h => h.2 ?_
      rw [ht, List.getLast?_concat]
  · intro t _ ht
    obtain ⟨depth, hdepth, hreaches⟩ := @exists_reaches 0 t fun u hu =>
      (neverOvercloses_iff.1 ht u hu).trans (Nat.le_add_left _ _)
    exact ⟨depth, by simpa using hdepth, hreaches⟩

example : splitArguments "$b(x,y),,)z)".toList = some (["$b(x,y)".toList, []], "z)".toList) := by decide

end Node

end RecordText
