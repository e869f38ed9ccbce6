import RecordText.Proofs.Regex.PlainClass
import RecordText.Proofs.Regex.Replacing

namespace RecordText.Regex

def marks : List Char := [')', '|', '(', '[', '?', '*', '+', '\x7b', '\\', '.', '^', '$']

theorem notMem_marks {c : Char} (h : isAsciiLetter c ∨ isAsciiDigit c) : c ∉ marks := by
  intro hmem
  have hnone : ∀ d ∈ marks, ¬ (isAsciiLetter d ∨ isAsciiDigit d) := by
    simp [marks, isAsciiLetter, isAsciiDigit]
  exact hnone c hmem h

section Reading

theorem readGroup_literal {c : Char} (hc : c ∉ marks) (fuel : Nat) (names : List Text)
    (branches items : List Ast) (s : Text) :
    readGroup (fuel + 1) false names branches items (c :: s) =
      readGroup fuel false names branches (.literal c false :: items) s := by
  simp only [marks, List.mem_cons, List.not_mem_nil, or_false, not_or] at hc
  obtain ⟨hclose, hbar, hopen, hclass, hopt, hstar, hplus, hbrace, hescape, hdot, hstart, hend⟩ := hc
  simp [readGroup, readPart, skip_false, *]

theorem readGroup_word {word : Text} (hword : ∀ c ∈ word, c ∉ marks) (names : List Text)
    (branches items : List Ast) :
    readGroup (word.length + 1) false names branches items word =
      some (closeGroup branches ((word.map (.literal · false)).reverse ++ items), names, []) := by
  induction word generalizing items with
  | nil => simp [readGroup, skip_false]
  | cons c word ih =>
    obtain ⟨hc, hword⟩ := List.forall_mem_cons.1 hword
    rw [List.length_cons, readGroup_literal hc, ih hword]
    simp

theorem depthAll_word (word : Text) : Ast.depthAll (word.map (.literal · false)) = 0 := by
  induction word with
  | nil => rfl
  | cons c word ih => rw [List.map_cons, Ast.depthAll, ih]; rfl

theorem depth_word_le : (word : Text) → (Ast.ofSequence (word.map (.literal · false))).depth ≤ 1
  | [] => Nat.zero_le 1
  | [_] => Nat.zero_le 1
  | c :: d :: word => Nat.le_of_eq (congrArg Nat.succ (depthAll_word (c :: d :: word)))

theorem read_word {word : Text} (hword : ∀ c ∈ word, c ∉ marks) :
    Ast.read word = some (.ofSequence (word.map (.literal · false))) := by
  have hgroup : closeGroup [] ((word.map (.literal · false)).reverse ++ []) =
      .ofSequence (word.map (.literal · false)) := by
    simp [closeGroup, Ast.ofChoice]
  rw [Ast.read, readGroup_word hword, hgroup]
  exact if_pos ((depth_word_le word).trans (by decide))

end Reading

def Expr.word : Text → Expr
  | [] => .empty
  | [c] => .chars (.single c)
  | c :: d :: word => .cat (.chars (.single c)) (Expr.word (d :: word))

section Meaning

theorem exprs?_word (word : Text) : Ast.exprs? .initial (word.map (.literal · false)) =
    some (word.map fun c => .chars (.single c), .initial) := by
  induction word with
  | nil => rfl
  | cons c word ih =>
    have hc : (Ast.literal c false).expr? .initial = some (.chars (.single c), .initial) := rfl
    rw [List.map_cons, Ast.exprs?, hc, Option.bind_eq_bind, Option.bind_some]
    dsimp only
    rw [ih]
    rfl

theorem sequence_chars (set : CharSet) {as : List Expr} (h : Expr.sequence as ≠ .empty) :
    Expr.sequence (.chars set :: as) = .cat (.chars set) (Expr.sequence as) := by
  rw [Expr.sequence.eq_def]
  dsimp only
  split
  · contradiction
  · next hempty _ => exact absurd hempty h
  · rfl

theorem word_ne_empty (c : Char) : (word : Text) → Expr.word (c :: word) ≠ .empty
  | [] => nofun
  | _ :: _ => nofun

theorem sequence_word : (word : Text) →
    Expr.sequence (word.map fun c => .chars (.single c)) = Expr.word word
  | [] => rfl
  | [c] => rfl
  | c :: d :: word => by
    have hrest := sequence_word (d :: word)
    rw [List.map_cons, sequence_chars _ (hrest ▸ word_ne_empty d word), hrest]
    rfl

theorem expr?_word : (word : Text) →
    (Ast.ofSequence (word.map (.literal · false))).expr? .initial = some (Expr.word word, .initial)
  | [] => rfl
  | [c] => rfl
  | c :: d :: word => by
    have hsequence : Ast.ofSequence ((c :: d :: word).map (.literal · false)) =
        .sequence ((c :: d :: word).map (.literal · false)) := rfl
    rw [hsequence, Ast.expr?, exprs?_word]
    exact congrArg (fun e => some (e, Flags.initial)) (sequence_word (c :: d :: word))

end Meaning

section Weight

theorem charsWeight_single {c : Char} (hc : c.toNat < 0x80) : charsWeight (.single c) = stateWeight := by
  have hruns : (CharSet.single c).byteRuns = [[(c.toNat, c.toNat)]] := byteRuns_single c.toNat hc
  have hranges : (CharSet.single c).ranges = [(c.toNat, c.toNat)] := rfl
  rw [charsWeight, hruns, hranges]
  simp

theorem weight_word {word : Text} (hne : word ≠ []) (hword : ∀ c ∈ word, c.toNat < 0x80) :
    (Expr.word word).weight = stateWeight * word.length := by
  induction word with
  | nil => contradiction
  | cons c word ih =>
    obtain ⟨hc, hword⟩ := List.forall_mem_cons.1 hword
    cases word with
    | nil => exact charsWeight_single hc
    | cons d word =>
      have hrest := ih (by simp) hword
      rw [Expr.word, Expr.weight, hrest, Expr.weight, charsWeight_single hc, Nat.add_comm]
      rfl

def maxWordLength : Nat := (maxWeight - Expr.frameWeight) / stateWeight

theorem fits_word_iff {word : Text} (hne : word ≠ []) (hword : ∀ c ∈ word, c.toNat < 0x80) :
    (Expr.word word).fits ↔ word.length ≤ maxWordLength := by
  rw [Expr.fits, decide_eq_true_iff, weight_word hne hword, maxWordLength, maxWeight, stateWeight,
    Expr.frameWeight]
  omega

example : maxWordLength = 327673 := by decide

end Weight

theorem compile?_word {word : Text} (hne : word ≠ []) (hword : ∀ c ∈ word, isAsciiLetter c ∨ isAsciiDigit c) :
    Regex.compile? word = if word.length ≤ maxWordLength then some (.mk (Expr.word word)) else none := by
  have hfits := fits_word_iff hne fun c hc => toNat_lt_of_isAscii (hword c hc)
  rw [Regex.compile?, read_word fun c hc => notMem_marks (hword c hc), Option.bind_eq_bind,
    Option.bind_some, expr?_word]
  simp only [Option.bind_eq_bind, Option.bind_some, hfits]

def wordLength? (s word : Text) : Option Nat := if word.isPrefixOf s then some word.length else none

namespace Matcher

open Outlook

/-- The characters of a word one after another. Each remembers what `next` tells of the rest behind it. -/
def word (next : Text → Option Nat) : Text → Matcher
  | [] => done
  | [c] => chars (.single c) (next [])
  | c :: d :: w => cat (chars (.single c) (next (d :: w))) (word next (d :: w))

theorem ofExpr_word : (w : Text) → ofExpr (Expr.word w) = word (fun _ => none) w
  | [] => rfl
  | [_] => rfl
  | _ :: d :: w => congrArg (cat _) (ofExpr_word (d :: w))

def wordAt (p : Place) (next : Text → Option Nat) : Text → Option Nat
  | [] => some 0
  | c :: w => consume p (.single c) (next w)

-- The rest of a word takes a character wherever it is entered, so that nothing passes through it and what is
-- behind the word counts at its last character alone.
theorem step_word (p : Place) (next : Text → Option Nat) {w : Text} (hne : w ≠ []) :
    (word next w).step p (fixed (some 0)) = (word (wordAt p next) w, fixed (wordAt p next w)) := by
  induction w with
  | nil => contradiction
  | cons _ w ih =>
    cases w with
    | nil => rfl
    | cons d w =>
      rw [word, step, comp, ih (by simp)]
      rfl

theorem consume_single (before : Option Char) (c d : Char) (next : Option Nat) :
    consume (.mk before (some c)) (.single d) next = if d = c then next.map (· + 1) else none := by
  have hbefore : (Place.mk before (some c)).isBefore (.single d) = decide (d = c) := by
    rw [Bool.eq_iff_iff, decide_eq_true_iff]
    exact CharSet.contains_single_iff
  rw [consume, hbefore]
  cases next <;> by_cases h : d = c <;> simp [h]

theorem wordAt_end (before : Option Char) : wordAt (.mk before none) (fun _ => none) = wordLength? [] := by
  funext w
  cases w <;> rfl

theorem wordAt_cons (before : Option Char) (c : Char) (s : Text) :
    wordAt (.mk before (some c)) (wordLength? s) = wordLength? (c :: s) := by
  funext w
  cases w with
  | nil => rfl
  | cons d w =>
    rw [wordAt, consume_single, wordLength?, wordLength?, List.isPrefixOf]
    by_cases h : d = c <;> by_cases hw : w.isPrefixOf s <;> simp [h, hw]

theorem lengths_word {w : Text} (hne : w ≠ []) (s : Text) :
    (word (fun _ => none) w).lengths s = atPlaces (fun _ t => wordLength? t w) none s := by
  refine lengths_eq (fun t => word (wordLength? t) w) _ (fun before => ?_) (fun before c t => ?_) s
  · rw [step_word _ _ hne, wordAt_end]
  · rw [step_word _ _ hne, wordAt_cons]

end Matcher

def exchangeFirst (word replacement s : Text) : Text :=
  match Text.cut? word s with
  | none => s
  | some (before, after) => before ++ replacement ++ after

theorem replaceFirstAt_word {w : Text} (hne : w ≠ []) (replacement : Text) (before : Option Char) (s : Text) :
    replaceFirstAt replacement (atPlaces (fun _ t => wordLength? t w) before s) s =
      exchangeFirst w replacement s := by
  induction s generalizing before with
  | nil =>
    cases w with
    | nil => contradiction
    | cons d w => rfl
  | cons c s ih =>
    rw [atPlaces, exchangeFirst, Text.cut?, wordLength?]
    split
    · rfl
    · rw [replaceFirstAt, ih, exchangeFirst]
      cases Text.cut? w s <;> rfl

theorem replaceFirst_word {w : Text} (hne : w ≠ []) (replacement s : Text) :
    (Regex.mk (Expr.word w)).replaceFirst replacement s = exchangeFirst w replacement s := by
  rw [Regex.replaceFirst, Regex.lengths, Matcher.ofExpr_word, Matcher.lengths_word hne,
    replaceFirstAt_word hne]

end RecordText.Regex
