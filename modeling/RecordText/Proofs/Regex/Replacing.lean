import RecordText.Proofs.Text.Stripping
import RecordText.Regex.Replace

/-!
Replacing the matches at the ends of a text. A matcher goes over a text from its end, so that what it has
become in front of a place is a function of the text behind it. A repeated set of characters that is tied to
the start of the text, to its end, or to either, strips these characters there.
-/

namespace RecordText.Regex

theorem replaceEachAt_sublist (skip : Nat) (adjacent : Bool) (ls : List (Option Nat)) (s : Text) :
    (replaceEachAt [] skip adjacent ls s).Sublist s := by
  induction ls generalizing skip adjacent s with
  | nil => cases skip <;> exact List.nil_sublist s
  | cons l ls ih =>
    match skip, l, s with
    | 0, some 0, [] => cases adjacent <;> exact List.nil_sublist []
    | 0, some 0, c :: s => cases adjacent <;> exact (ih 0 false s).cons_cons c
    | 0, some (_ + 1), [] => exact List.nil_sublist []
    | 0, some (n + 1), c :: s => exact (ih n true s).cons c
    | 0, none, [] => exact List.nil_sublist []
    | 0, none, c :: s => exact (ih 0 false s).cons_cons c
    | _ + 1, _, [] => exact List.nil_sublist []
    | skip + 1, _, c :: s => exact (ih skip true s).cons c

/-- What the places of a text give, by the character in front of each and the text behind it. -/
def atPlaces {α : Type} (value : Option Char → Text → α) : Option Char → Text → List α
  | before, [] => [value before []]
  | before, c :: s => value before (c :: s) :: atPlaces value (some c) s

namespace Matcher

open Outlook

/-- A matcher that is `state s` when it has gone over `s`, and gives one length at each place, gives these
lengths for a text. -/
theorem lengths_eq {m : Matcher} (state : Text → Matcher) (value : Option Char → Text → Option Nat)
    (hend : ∀ before, m.step (.mk before none) (fixed (some 0)) = (state [], fixed (value before [])))
    (hstep : ∀ before c s, (state s).step (.mk before (some c)) (fixed (some 0)) =
      (state (c :: s), fixed (value before (c :: s)))) (s : Text) :
    m.lengths s = atPlaces value none s := by
  have hfrom (before : Option Char) : lengthsFrom before s m = (state s, atPlaces value before s) := by
    induction s generalizing before with
    | nil => simp only [lengthsFrom, lengthAt, hend, Outlook.value, atPlaces]
    | cons c s ih => simp only [lengthsFrom, ih, lengthAt, hstep, Outlook.value, atPlaces]
  rw [lengths, hfrom]

end Matcher

section Replacing

variable {replacement : Text} {value : Option Char → Text → Option Nat} {before : Option Char}
  {s : Text} {adjacent : Bool}

theorem replaceEachAt_nil (h : value before [] = none) :
    replaceEachAt replacement 0 adjacent (atPlaces value before []) [] = [] := by
  rw [atPlaces, h]
  rfl

theorem replaceEachAt_of_none {c : Char} (h : value before (c :: s) = none) :
    replaceEachAt replacement 0 adjacent (atPlaces value before (c :: s)) (c :: s) =
      c :: replaceEachAt replacement 0 false (atPlaces value (some c) s) s := by
  rw [atPlaces, h]
  rfl

theorem replaceEachAt_skip (u s : Text) (before : Option Char) (adjacent : Bool) :
    replaceEachAt replacement u.length adjacent (atPlaces value before (u ++ s)) (u ++ s) =
      replaceEachAt replacement 0 (adjacent || !u.isEmpty) (atPlaces value (u.getLast?.or before) s) s := by
  induction u generalizing before adjacent with
  | nil => simp
  | cons c u ih =>
    rw [List.cons_append, atPlaces, List.length_cons, replaceEachAt, ih]
    simp [List.getLast?_cons]

theorem replaceEachAt_of_match {c : Char} {u : Text}
    (h : value before (c :: u ++ s) = some (u.length + 1)) :
    replaceEachAt replacement 0 adjacent (atPlaces value before (c :: u ++ s)) (c :: u ++ s) =
      replacement ++
        replaceEachAt replacement 0 true (atPlaces value (some (u.getLast?.getD c)) s) s := by
  rw [List.cons_append] at h ⊢
  rw [atPlaces, h, replaceEachAt, replaceEachAt_skip, Bool.true_or, Option.or_some]

theorem replaceEachAt_eq_self (hbehind : ∀ c t, value (some c) t = none) (h : value before s = none) :
    replaceEachAt replacement 0 adjacent (atPlaces value before s) s = s := by
  induction s generalizing before adjacent with
  | nil => exact replaceEachAt_nil h
  | cons c s ih => rw [replaceEachAt_of_none h, ih (hbehind c s)]

end Replacing

def frontLength? (p : Char → Bool) (s : Text) : Option Nat :=
  if s.head?.any p then some (s.takeWhile p).length else none

def backLength? (p : Char → Bool) (s : Text) : Option Nat :=
  if s.head?.any p && s.all p then some s.length else none

section Stripping

variable {p : Char → Bool} {value : Option Char → Text → Option Nat} {before : Option Char} {s : Text}
  {adjacent : Bool}

theorem replaceEachAt_back (hbehind : ∀ c t, value (some c) t = backLength? p t)
    (h : value before s = backLength? p s) :
    replaceEachAt [] 0 adjacent (atPlaces value before s) s = Text.stripEnd p s := by
  induction s generalizing before adjacent with
  | nil => exact replaceEachAt_nil h
  | cons c s ih =>
    by_cases hall : ∀ d ∈ c :: s, p d
    · have hmatch : value before (c :: s ++ []) = some (s.length + 1) := by
        rw [List.append_nil, h, backLength?, if_pos (by simpa using hall)]
        rfl
      have hreplaced : replaceEachAt [] 0 adjacent (atPlaces value before (c :: s ++ [])) (c :: s ++ []) =
          [] ++ replaceEachAt [] 0 true (atPlaces value (some (s.getLast?.getD c)) []) [] :=
        replaceEachAt_of_match hmatch
      rw [List.append_nil, replaceEachAt_nil (hbehind _ [])] at hreplaced
      rw [hreplaced, Text.stripEnd_eq_nil hall]
      rfl
    · have hnone : value before (c :: s) = none := by
        rw [h, backLength?, if_neg]
        simpa using hall
      rw [replaceEachAt_of_none hnone, ih (hbehind c s), Text.stripEnd_cons_of_not_forall hall]

theorem replaceEachAt_front {p : Char → Bool} {c : Char} (hc : p c) (s : Text) (adjacent : Bool)
    (value : Option Char → Text → Option Nat) (hfront : value none (c :: s) = frontLength? p (c :: s)) :
    ∃ d, replaceEachAt [] 0 adjacent (atPlaces value none (c :: s)) (c :: s) =
      replaceEachAt [] 0 true (atPlaces value (some d) (Text.stripStart p (c :: s)))
        (Text.stripStart p (c :: s)) := by
  have hsplit : c :: s = c :: s.takeWhile p ++ Text.stripStart p (c :: s) := by
    rw [Text.stripStart_cons_of_pos hc, List.cons_append, Text.stripStart, List.takeWhile_append_dropWhile]
  have hmatch : value none (c :: s.takeWhile p ++ Text.stripStart p (c :: s)) =
      some ((s.takeWhile p).length + 1) := by
    rw [← hsplit, hfront, frontLength?, if_pos (by simpa using hc), List.takeWhile_cons_of_pos hc]
    rfl
  refine ⟨(s.takeWhile p).getLast?.getD c, ?_⟩
  conv_lhs => rw [hsplit]
  exact replaceEachAt_of_match hmatch

end Stripping

namespace Matcher

open Outlook

/-- A repeated set at the start of the text. What it remembers is the match that goes on in it. -/
def front (set : CharSet) (next : Option Nat) : Matcher :=
  .cat (.look .textStart) (.plus true (.chars set next))

def back (set : CharSet) (next : Option Nat) : Matcher :=
  .cat (.plus true (.chars set next)) (.look .textEnd)

theorem step_front (p : Place) (set : CharSet) (next : Option Nat) :
    (front set next).step p (fixed (some 0)) =
      (front set (consume p set next <|> some 0),
        fixed (if p.before.isNone then consume p set next else none)) := by
  cases h : p.before <;> simp [front, step, comp, prefer, Outlook.pass, orElse, value, Look.holds, h]

theorem step_back (p : Place) (set : CharSet) (next : Option Nat) :
    (back set next).step p (fixed (some 0)) =
      (back set (consume p set next <|> if p.after.isNone then some 0 else none),
        fixed (consume p set next)) := by
  cases h : p.after <;> simp [back, step, comp, prefer, Outlook.pass, orElse, value, Look.holds, h]

theorem orElse_fixed (v w : Option Nat) : (fixed v).orElse (fixed w) = fixed (v <|> w) := by
  cases v <;> rfl

theorem step_alt {p : Place} {a b a' b' : Matcher} {v w : Option Nat}
    (ha : a.step p (fixed (some 0)) = (a', fixed v)) (hb : b.step p (fixed (some 0)) = (b', fixed w)) :
    (alt a b).step p (fixed (some 0)) = (alt a' b', fixed (v <|> w)) := by
  rw [← orElse_fixed]
  simp only [step, comp, ha, hb]

def frontAt (set : CharSet) (before : Option Char) (s : Text) : Option Nat :=
  if before.isNone then frontLength? set.contains s else none

def frontNext (set : CharSet) (s : Text) : Option Nat := some (s.takeWhile set.contains).length

def backNext (set : CharSet) (s : Text) : Option Nat :=
  if s.all set.contains then some s.length else none

variable (set : CharSet) (before : Option Char) (c : Char) (s : Text)

theorem consume_end (next : Option Nat) : consume (.mk before none) set next = none := by
  cases next <;> rfl

theorem consume_front :
    consume (.mk before (some c)) set (frontNext set s) = frontLength? set.contains (c :: s) := by
  rw [consume, frontNext, Option.bind_some, frontLength?, Place.isBefore]
  cases h : set.contains c <;> simp [h]

theorem consume_back :
    consume (.mk before (some c)) set (backNext set s) = backLength? set.contains (c :: s) := by
  rw [consume, backNext, backLength?, Place.isBefore]
  cases h : set.contains c <;> cases hs : s.all set.contains <;> simp [h, hs]

theorem frontNext_cons :
    (frontLength? set.contains (c :: s) <|> some 0) = frontNext set (c :: s) := by
  rw [frontLength?, frontNext]
  cases h : set.contains c <;> simp [h]

theorem backNext_cons : (backLength? set.contains (c :: s) <|> none) = backNext set (c :: s) := by
  rw [backLength?, backNext]
  cases h : set.contains c <;> simp [h]

theorem step_front_end : (front set none).step (.mk before none) (fixed (some 0)) =
    (front set (frontNext set []), fixed (frontAt set before [])) := by
  rw [step_front, consume_end]
  cases before <;> rfl

theorem step_front_cons : (front set (frontNext set s)).step (.mk before (some c)) (fixed (some 0)) =
    (front set (frontNext set (c :: s)), fixed (frontAt set before (c :: s))) := by
  rw [step_front, consume_front, frontNext_cons, frontAt]

theorem step_back_end : (back set none).step (.mk before none) (fixed (some 0)) =
    (back set (backNext set []), fixed (backLength? set.contains [])) := by
  rw [step_back, consume_end]
  rfl

theorem step_back_cons : (back set (backNext set s)).step (.mk before (some c)) (fixed (some 0)) =
    (back set (backNext set (c :: s)), fixed (backLength? set.contains (c :: s))) := by
  rw [step_back, consume_back]
  exact congrArg (fun next => (back set next, _)) (backNext_cons set c s)

theorem lengths_front : (front set none).lengths s = atPlaces (frontAt set) none s :=
  lengths_eq (fun t => front set (frontNext set t)) _ (step_front_end set) (step_front_cons set) s

theorem lengths_back : (back set none).lengths s = atPlaces (fun _ => backLength? set.contains) none s :=
  lengths_eq (fun t => back set (backNext set t)) _ (step_back_end set) (step_back_cons set) s

theorem lengths_alt : (alt (front set none) (back set none)).lengths s =
    atPlaces (fun before t => frontAt set before t <|> backLength? set.contains t) none s :=
  lengths_eq (fun t => alt (front set (frontNext set t)) (back set (backNext set t))) _
    (fun before => step_alt (step_front_end set before) (step_back_end set before))
    (fun before c t => step_alt (step_front_cons set before c t) (step_back_cons set before c t)) s

end Matcher

theorem frontLength?_of_neg {p : Char → Bool} {c : Char} (hc : p c = false) (s : Text) :
    frontLength? p (c :: s) = none := by
  rw [frontLength?, if_neg]
  simp [hc]

theorem orElse_frontLength? {p : Char → Bool} {c : Char} (hc : p c) (s : Text) (v : Option Nat) :
    (frontLength? p (c :: s) <|> v) = frontLength? p (c :: s) := by
  rw [frontLength?, if_pos (by simpa using hc)]
  rfl

variable (set : CharSet) (s : Text)

theorem replaceEachAt_lengths_front :
    replaceEachAt [] 0 false ((Matcher.front set none).lengths s) s = Text.stripStart set.contains s := by
  rw [Matcher.lengths_front]
  cases s with
  | nil => rfl
  | cons c s =>
    cases hc : set.contains c with
    | true =>
      obtain ⟨d, hfront⟩ := replaceEachAt_front hc s false (Matcher.frontAt set) rfl
      rw [hfront]
      exact replaceEachAt_eq_self (fun _ _ => rfl) rfl
    | false =>
      rw [Text.stripStart_cons_of_neg hc]
      exact replaceEachAt_eq_self (fun _ _ => rfl) (frontLength?_of_neg hc s)

theorem replaceEachAt_lengths_back :
    replaceEachAt [] 0 false ((Matcher.back set none).lengths s) s = Text.stripEnd set.contains s := by
  rw [Matcher.lengths_back]
  exact replaceEachAt_back (fun _ _ => rfl) rfl

theorem replaceEachAt_lengths_alt :
    replaceEachAt [] 0 false ((Matcher.alt (.front set none) (.back set none)).lengths s) s =
      Text.strip set.contains s := by
  rw [Matcher.lengths_alt, Text.strip]
  cases s with
  | nil => rfl
  | cons c s =>
    cases hc : set.contains c with
    | true =>
      obtain ⟨d, hfront⟩ := replaceEachAt_front hc s false
        (fun before t => Matcher.frontAt set before t <|> backLength? set.contains t)
        (orElse_frontLength? hc s _)
      rw [hfront]
      exact replaceEachAt_back (fun _ _ => rfl) rfl
    | false =>
      rw [Text.stripStart_cons_of_neg hc]
      refine replaceEachAt_back (fun _ _ => rfl) ?_
      rw [Matcher.frontAt, frontLength?_of_neg hc]
      rfl

end RecordText.Regex
