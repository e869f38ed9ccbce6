import RecordText.CharSet.ByteRuns
import RecordText.Regex.Expr

/-!
How much room an expression takes as an automaton on bytes that has a state for each character and
for each fork. A repetition counts as often as it is unrolled, so a short expression can be heavy;
one that weighs more than `maxWeight` is refused.
-/

namespace RecordText.Regex

def maxWeight : Nat := 10 * 1024 * 1024

def stateWeight : Nat := 32

/-- The steps that the runs of bytes have in common with the runs before them count once. -/
def byteSteps (previous : List (Nat × Nat)) : CharSet.ByteRuns → Nat
  | [] => 0
  | run :: runs =>
    let shared := ((run.zip previous).takeWhile fun (r, p) => r == p).length
    run.length - shared + byteSteps run runs

def charsWeight (s : CharSet) : Nat :=
  let runs := s.byteRuns
  let single := s.ranges.all fun (lo, hi) => lo == hi
  if s.ranges.length = 1 && single then stateWeight * runs.flatten.length
  else if s.isAscii then 2 * stateWeight + 8 * s.ranges.length
  else stateWeight * (2 + byteSteps [] runs) + 4 * runs.length

namespace Expr

def isAlt : Expr → Bool
  | alt _ _ => true
  | _ => false

def weight : Expr → Nat
  | empty => stateWeight
  | chars s => charsWeight s
  | look _ => stateWeight
  | capture a => a.weight + 2 * stateWeight
  | cat a b => a.weight + b.weight
  | alt a b => a.weight + b.weight + (if b.isAlt then 4 else 2 * stateWeight + 8)
  | repeated min none _ a =>
    let fork := if min = 0 && a.isNullable then 3 * stateWeight + 16 else stateWeight + 8
    Nat.max min 1 * a.weight + fork
  | repeated min (some max) _ a =>
    if min = max then min * a.weight
    else min * a.weight + stateWeight + (max - min) * (a.weight + stateWeight + 8)

/-- The frame of every automaton: finding where a match starts, and what it covers. -/
def frameWeight : Nat := 200

def fits (e : Expr) : Bool := e.weight + frameWeight ≤ maxWeight

end Expr

end RecordText.Regex
