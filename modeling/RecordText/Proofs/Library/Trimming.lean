import RecordText.Library.Builtin
import RecordText.Proofs.Regex.PlainClass
import RecordText.Proofs.Regex.Replacing

/-!
Trimming by a set of characters. The set is written into a regular expression between brackets as it stands,
so it is a set as long as it does not close them itself: the expression is then a repeated class that is tied
to an end of the text, and what it matches is stripped there. A set of letters and digits strips these. A set
that closes the brackets makes another expression, which may match anywhere.
-/

namespace RecordText

namespace Builtin

namespace Ends

open Regex

def ast (set : Ast) : Ends → Ast
  | left => .front set
  | right => .back set
  | both => .choice [.front set, .back set]

def expr (members : CharSet) : Ends → Expr
  | left => .front members
  | right => .back members
  | both => .alt (.front members) (.back members)

variable (ends : Ends)

theorem readGroup_pattern {set : Text} {s : ClassSet} {negated : Bool}
    (h : classBody? set = some (s, negated)) :
    readGroup ((ends.pattern set).length + 1) false [] [] [] (ends.pattern set) =
      some (ends.ast (.bracketed s negated), [], []) := by
  cases ends with
  | left =>
    have hpattern : left.pattern set = '^' :: '[' :: (set ++ [']', '+']) := rfl
    have hlength : (left.pattern set).length + 1 = set.length + 2 + 3 := by simp [hpattern]
    rw [hlength, hpattern, readGroup_front _ _ _ h (by simp)]
    rfl
  | right =>
    have hpattern : right.pattern set = '[' :: (set ++ [']', '+', '$']) := rfl
    have hlength : (right.pattern set).length + 1 = set.length + 1 + 4 := by simp [hpattern]
    rw [hlength, hpattern, readGroup_back _ _ _ h]
    rfl
  | both =>
    have hpattern : both.pattern set =
        '^' :: '[' :: (set ++ ']' :: '+' :: '|' :: '[' :: (set ++ [']', '+', '$'])) := by
      simp [pattern]
    have hlength : (both.pattern set).length + 1 = 2 * set.length + 2 + 4 + 1 + 3 := by
      simp only [hpattern, List.length_cons, List.length_append, List.length_nil]
      omega
    rw [hlength, hpattern, readGroup_front _ _ _ h (by simp)]
    exact readGroup_back _ _ _ h

theorem expr?_ast_of_none {set : Ast} (h : set.expr? .initial = none) :
    (ends.ast set).expr? .initial = none := by
  cases ends <;> simp [ast, Ast.front, Ast.back, Ast.expr?, Ast.exprs?, h]

theorem expr?_ast_of_chars {set : Ast} {members : CharSet}
    (h : set.expr? .initial = some (.chars members, .initial)) :
    (ends.ast set).expr? .initial = some (ends.expr members, .initial) := by
  cases ends <;> simp [ast, expr, Ast.front, Ast.back, Ast.expr?, Ast.exprs?, h, Anchor.look] <;> rfl

/-- The characters that a set stands for at these ends. There are none if the set is no inside of a class or
the expression that it makes is refused. -/
def chars? (set : Text) : Option CharSet := do
  let (s, negated) ← classBody? set
  if (ends.ast (.bracketed s negated)).depth ≤ maxDepth then
    let members ← s.members? negated
    if (ends.expr members).fits then some members else none
  else none

theorem compile?_pattern {set : Text} (h : (classBody? set).isSome) :
    Regex.compile? (ends.pattern set) = (ends.chars? set).map fun members => .mk (ends.expr members) := by
  obtain ⟨⟨s, negated⟩, hbody⟩ := Option.isSome_iff_exists.1 h
  rw [Regex.compile?, Ast.read, readGroup_pattern ends hbody, chars?, hbody]
  simp only [Option.bind_eq_bind, Option.bind_some]
  split
  · have hset := expr?_bracketed s negated
    rw [Option.bind_some]
    cases hmembers : s.members? negated with
    | none =>
      rw [hmembers] at hset
      rw [expr?_ast_of_none ends hset]
      rfl
    | some members =>
      rw [hmembers] at hset
      rw [expr?_ast_of_chars ends hset, Option.bind_some, Option.bind_some]
      split <;> rfl
  · rfl

theorem fits_expr {members : CharSet} (h : charsWeight members ≤ 2 * stateWeight + 8 * 0x80) :
    (ends.expr members).fits := by
  rw [Expr.fits, decide_eq_true_iff]
  simp only [stateWeight] at h
  cases ends with
  | left =>
    rw [expr, weight_front, Expr.frameWeight, stateWeight, maxWeight]
    omega
  | right =>
    rw [expr, weight_back, Expr.frameWeight, stateWeight, maxWeight]
    omega
  | both =>
    have halt : (Expr.back members).isAlt = false := rfl
    rw [expr, Expr.weight, weight_front, weight_back, halt, Expr.frameWeight, stateWeight, maxWeight]
    simp only [Bool.false_eq_true, if_false]
    omega

theorem depth_ast_le (set : Ast) : (ends.ast set).depth ≤ set.depth + 3 := by
  cases ends <;> simp [ast, Ast.front, Ast.back, Ast.depth, Ast.depthAll]

theorem replaceEach_expr (members : CharSet) (s : Text) :
    (Regex.mk (ends.expr members)).replaceEach [] s = ends.strip members.contains s := by
  cases ends with
  | left => exact replaceEachAt_lengths_front members s
  | right => exact replaceEachAt_lengths_back members s
  | both => exact replaceEachAt_lengths_alt members s

/-- What is left of a text that is cut at these ends and nowhere else. -/
def IsCut : Ends → (result s : Text) → Prop
  | left, result, s => result <:+ s
  | right, result, s => result <+: s
  | both, result, s => result <:+: s

variable {ends} in
theorem IsCut.sublist {result s : Text} (h : ends.IsCut result s) : result.Sublist s := by
  cases ends with
  | left => exact List.IsSuffix.sublist h
  | right => exact List.IsPrefix.sublist h
  | both => exact List.IsInfix.sublist h

theorem strip_isCut (p : Char → Bool) (s : Text) : ends.IsCut (ends.strip p s) s := by
  cases ends with
  | left => exact Text.stripStart_isSuffix p s
  | right => exact Text.stripEnd_isPrefix p s
  | both => exact Text.strip_isInfix p s

end Ends

open Regex

def invalidSet (set : Text) : Text := "ERR: invalid character set ".toList ++ set

variable (ends : Ends) (set s : Text)

theorem trimSet_eq_replaceEach {r : Regex} (h : Regex.compile? (ends.pattern set) = some r) :
    trimSet ends set s = r.replaceEach [] s := by
  rw [trimSet, h]

theorem trimSet_eq_invalidSet (h : Regex.compile? (ends.pattern set) = none) :
    trimSet ends set s = invalidSet set := by
  rw [trimSet, h]
  rfl

theorem trimSet_sublist : trimSet ends set s = invalidSet set ∨ (trimSet ends set s).Sublist s := by
  cases h : Regex.compile? (ends.pattern set) with
  | none => exact .inl (trimSet_eq_invalidSet ends set s h)
  | some r =>
    rw [trimSet_eq_replaceEach ends set s h]
    exact .inr (replaceEachAt_sublist 0 false _ s)

variable {set} in
theorem trimSet_of_classBody? (h : (classBody? set).isSome) : trimSet ends set s =
    (ends.chars? set).elim (invalidSet set) fun members => ends.strip members.contains s := by
  have hcompile := ends.compile?_pattern h
  cases hchars : ends.chars? set with
  | none =>
    rw [hchars] at hcompile
    exact trimSet_eq_invalidSet ends set s hcompile
  | some members =>
    rw [hchars] at hcompile
    rw [trimSet_eq_replaceEach ends set s hcompile, ends.replaceEach_expr]
    rfl

theorem trimAt_eq_trimSet (hset : set ≠ []) : trimAt ends [s, set] = trimSet ends set s := by
  cases set with
  | nil => contradiction
  | cons c set => rfl

theorem trimAt_sublist : trimAt ends [s, set] = invalidSet set ∨ (trimAt ends [s, set]).Sublist s := by
  by_cases hset : set = []
  · subst hset
    exact .inr (ends.strip_isCut isBlank s).sublist
  · rw [trimAt_eq_trimSet ends set s hset]
    exact trimSet_sublist ends set s

variable {set} in
theorem trimAt_of_classBody? (h : (classBody? set).isSome) : trimAt ends [s, set] =
    (ends.chars? set).elim (invalidSet set) fun members => ends.strip members.contains s := by
  have hne : set ≠ [] := by
    rintro rfl
    contradiction
  rw [trimAt_eq_trimSet ends set s hne, trimSet_of_classBody? ends s h]

variable {set} in
theorem trimAt_isCut (h : set = [] ∨ (classBody? set).isSome) :
    trimAt ends [s, set] = invalidSet set ∨ ends.IsCut (trimAt ends [s, set]) s := by
  obtain rfl | hbody := h
  · exact .inr (ends.strip_isCut isBlank s)
  · rw [trimAt_of_classBody? ends s hbody]
    cases ends.chars? set with
    | none => exact .inl rfl
    | some members => exact .inr (ends.strip_isCut members.contains s)

/-- Whatever the set, characters are taken away and none are moved or put in. They are taken away at the
ends alone if the set does not close the brackets around it, and are then those that it stands for. -/
theorem trimAt_cuts :
    (trimAt ends [s, set] = invalidSet set ∨ (trimAt ends [s, set]).Sublist s) ∧
      (set = [] ∨ (classBody? set).isSome →
        trimAt ends [s, set] = invalidSet set ∨ ends.IsCut (trimAt ends [s, set]) s) ∧
      ((classBody? set).isSome → trimAt ends [s, set] =
        (ends.chars? set).elim (invalidSet set) fun members => ends.strip members.contains s) :=
  ⟨trimAt_sublist ends set s, trimAt_isCut ends s, trimAt_of_classBody? ends s⟩

theorem trimAt_cuts_digits : (classBody? "0-9".toList).isSome ∧
    trimAt .right ["abc123".toList, "0-9".toList] = "abc".toList ∧
    (trimAt .right ["abc123".toList, "0-9".toList] = invalidSet "0-9".toList ∨
      trimAt .right ["abc123".toList, "0-9".toList] <+: "abc123".toList) := by
  have hbody : (classBody? "0-9".toList).isSome := by decide +kernel
  have hchars : Ends.right.chars? "0-9".toList = some (.range 0x30 0x39) := by decide +kernel
  obtain ⟨-, hcut, hstrip⟩ := trimAt_cuts .right "0-9".toList "abc123".toList
  refine ⟨hbody, ?_, hcut (.inr hbody)⟩
  rw [hstrip hbody, hchars]
  decide

theorem not_forall_trimAt_isCut : ¬ ∀ (ends : Ends) (set s : Text),
    trimAt ends [s, set] = invalidSet set ∨ ends.IsCut (trimAt ends [s, set]) s := by
  intro h
  have htrim : trimAt .left ["xbx".toList, "a]|[b".toList] = "xx".toList := by decide +kernel
  have hcut := h .left "a]|[b".toList "xbx".toList
  rw [htrim] at hcut
  obtain hinvalid | hsuffix := hcut
  · exact absurd hinvalid (by decide)
  · exact absurd hsuffix (by decide : ¬ "xx".toList <:+ "xbx".toList)

theorem trimAt_plain (hne : set ≠ []) (hset : ∀ c ∈ set, isAsciiLetter c ∨ isAsciiDigit c) :
    trimAt ends [s, set] = ends.strip (· ∈ set) s := by
  have hbody := classBody?_plain hne fun c hc => standsForItself_of_isAscii (hset c hc)
  have hdepth : (ends.ast (.bracketed (.items (set.map .literal)) false)).depth ≤ maxDepth := by
    have hitems := depth_literals_le set
    have hast := ends.depth_ast_le (.bracketed (.items (set.map .literal)) false)
    rw [Ast.depth] at hast
    rw [maxDepth]
    omega
  obtain ⟨hbound, hlength⟩ :=
    CharSet.unions_single_bounds set fun c hc => toNat_lt_of_isAscii (hset c hc)
  have hascii : (CharSet.unions (set.map .single)).isAscii := by
    simpa [CharSet.isAscii] using hbound
  have hfits := ends.fits_expr (charsWeight_le hascii hlength)
  have hmembers : (CharSet.unions (set.map .single)).contains = fun c => decide (c ∈ set) := by
    funext c
    rw [Bool.eq_iff_iff, CharSet.contains_unions_single, decide_eq_true_iff]
  have hchars : ends.chars? set = some (.unions (set.map .single)) := by
    rw [Ends.chars?, hbody]
    simp only [Option.bind_eq_bind, Option.bind_some]
    rw [if_pos hdepth, members?_literals, Option.bind_some, if_pos hfits]
  rw [trimAt_of_classBody? ends s (by rw [hbody]; rfl), hchars, Option.elim_some, hmembers]

theorem trim_plain (hne : set ≠ []) (hset : ∀ c ∈ set, isAsciiLetter c ∨ isAsciiDigit c) :
    ltrim [s, set] = s.dropWhile (· ∈ set) ∧ rtrim [s, set] = s.rdropWhile (· ∈ set) ∧
      trim [s, set] = rtrim [ltrim [s, set], set] ∧ trim [s, set] = ltrim [rtrim [s, set], set] ∧
      ((∀ c ∈ s, c ∈ set) → trim [s, set] = []) := by
  have hleft (t : Text) : ltrim [t, set] = Text.stripStart (· ∈ set) t := trimAt_plain .left set t hne hset
  have hright (t : Text) : rtrim [t, set] = Text.stripEnd (· ∈ set) t := trimAt_plain .right set t hne hset
  have hboth : trim [s, set] = Text.strip (· ∈ set) s := trimAt_plain .both set s hne hset
  refine ⟨hleft s, hright s, ?_, ?_, fun hall => ?_⟩
  · rw [hboth, hleft, hright]
    rfl
  · rw [hboth, hleft, hright, Text.strip_eq_stripStart_stripEnd]
  · rw [hboth, Text.strip_eq_stripStart_stripEnd, Text.stripEnd_eq_nil (by simpa using hall)]
    rfl

theorem trim_plain_letters : ltrim ["abcba".toList, "ab".toList] = "cba".toList ∧
    rtrim ["abcba".toList, "ab".toList] = "abc".toList ∧ trim ["abcba".toList, "ab".toList] = "c".toList := by
  have hset : ∀ c ∈ "ab".toList, isAsciiLetter c ∨ isAsciiDigit c := by simp [isAsciiLetter]
  obtain ⟨hleft, hright, hboth, -, -⟩ := trim_plain "ab".toList "abcba".toList (by decide) hset
  obtain ⟨-, hlast, -, -, -⟩ := trim_plain "ab".toList "cba".toList (by decide) hset
  have hstart : ltrim ["abcba".toList, "ab".toList] = "cba".toList := hleft
  exact ⟨hstart, hright, by rw [hboth, hstart, hlast]; rfl⟩

end Builtin

end RecordText
