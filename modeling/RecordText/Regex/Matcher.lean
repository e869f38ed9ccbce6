import RecordText.Regex.Expr
import RecordText.Regex.Outlook
import RecordText.Text.Basic

/-!
Matching with preference: at a choice the first branch that leads to a match wins, a greedy
repetition prefers another round and a lazy one prefers to leave.

A matcher reads a text from its end. Each of its character sets remembers how long the match is that
goes on behind it, from the place that was read last; so one step per place gives the length of the
preferred match from every place. Lengths are `none` where there is no match.

No place is passed twice in the same part. A round of a loop that stays empty leads nowhere: it comes
back to a part that is being tried already, and what that part still has to offer comes later.
-/

namespace RecordText.Regex

inductive Matcher where
  | done
  | chars (s : CharSet) (next : Option Nat)
  | look (l : Look)
  | cat (a b : Matcher)
  | alt (a b : Matcher)
  | opt (greedy : Bool) (a : Matcher)
  | star (greedy : Bool) (a : Matcher)
  | plus (greedy : Bool) (a : Matcher)
  deriving Repr

namespace Matcher

open Outlook

def consume (p : Place) (s : CharSet) (next : Option Nat) : Option Nat :=
  next.bind fun n => if p.isBefore s then some (n + 1) else none

/-- The length of a match that enters the matcher at `p`, as it hangs on the length behind it. -/
def outlook (p : Place) : Matcher → Outlook
  | done => pass
  | chars s next => fixed (consume p s next)
  | look l => if l.holds p then pass else fixed none
  | cat a b => (a.outlook p).comp (b.outlook p)
  | alt a b => (a.outlook p).orElse (b.outlook p)
  | opt greedy a => prefer greedy (a.outlook p) pass
  | star greedy a => prefer greedy (fixed ((a.outlook p).value none)) pass
  | plus _ a => a.outlook p

/-- The matcher for the place before `p`, and its outlook at `p`.

What its sets remember is the match that follows them at `p`, so it may come back to the matcher by
the loops around it. The length behind the matcher is `behind`, as it hangs on the length of a match
that comes back in this way; such a match cannot go on behind the matcher a second time, and neither
can it enter what lies between the set and the end of a loop. -/
def step (p : Place) : Matcher → (behind : Outlook) → Matcher × Outlook
  | done, _ => (done, pass)
  | chars s next, behind =>
    let v := consume p s next
    (chars s (behind.value v), fixed v)
  | look l, _ => (look l, if l.holds p then pass else fixed none)
  | cat a b, behind =>
    let (b, g) := b.step p (behind.comp (a.outlook p))
    let (a, f) := a.step p (g.comp behind)
    (cat a b, f.comp g)
  | alt a b, behind =>
    let first := fixed ((a.outlook p).value none)
    let (b, g) := b.step p (behind.comp (first.orElse pass))
    let (a, f) := a.step p (behind.comp (pass.orElse (fixed (g.value none))))
    (alt a b, f.orElse g)
  | opt greedy a, behind =>
    let (a, f) := a.step p behind
    (opt greedy a, prefer greedy f pass)
  | star greedy a, behind =>
    let (a, f) := a.step p (prefer greedy pass (fixed (behind.value none)))
    (star greedy a, prefer greedy (fixed (f.value none)) pass)
  | plus greedy a, behind =>
    let (a, f) := a.step p (prefer greedy pass behind)
    (plus greedy a, f)

def times : Nat → Matcher → Matcher
  | 0, _ => done
  | 1, a => a
  | n + 2, a => cat (times ((n + 2) / 2) a) (times (n + 2 - (n + 2) / 2) a)

def upTo (greedy : Bool) (a : Matcher) : Nat → Matcher
  | 0 => done
  | 1 => opt greedy a
  | n + 2 => opt greedy (cat a (upTo greedy a (n + 1)))

/-- A loop whose round may be empty is entered by a round or passed by, so that it stays in order
with what its first round prefers. -/
def loop (greedy nullable : Bool) (a : Matcher) : Matcher :=
  if nullable then opt greedy (plus greedy a) else star greedy a

def ofExpr : Expr → Matcher
  | .empty => done
  | .chars s => chars s none
  | .look l => look l
  | .capture a => ofExpr a
  | .cat a b => cat (ofExpr a) (ofExpr b)
  | .alt a b => alt (ofExpr a) (ofExpr b)
  | .repeated 0 none greedy a => loop greedy a.isNullable (ofExpr a)
  | .repeated 1 none greedy a => plus greedy (ofExpr a)
  | .repeated (n + 2) none greedy a => cat (times (n + 1) (ofExpr a)) (plus greedy (ofExpr a))
  | .repeated min (some max) greedy a =>
    if min = max then times min (ofExpr a)
    else cat (times min (ofExpr a)) (upTo greedy (ofExpr a) (max - min))

def lengthAt (m : Matcher) (p : Place) : Matcher × Option Nat :=
  let (m, f) := m.step p (fixed (some 0))
  (m, f.value (some 0))

def lengthsFrom (before : Option Char) : Text → Matcher → Matcher × List (Option Nat)
  | [], m =>
    let (m, v) := m.lengthAt (.mk before none)
    (m, [v])
  | c :: s, m =>
    let (m, vs) := lengthsFrom (some c) s m
    let (m, v) := m.lengthAt (.mk before (some c))
    (m, v :: vs)

def lengths (m : Matcher) (s : Text) : List (Option Nat) := (lengthsFrom none s m).2

end Matcher

end RecordText.Regex
