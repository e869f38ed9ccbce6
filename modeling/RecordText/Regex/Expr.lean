import RecordText.Regex.Look

namespace RecordText.Regex

inductive Expr where
  | empty
  | chars (s : CharSet)
  | look (l : Look)
  | capture (a : Expr)
  | cat (a b : Expr)
  | alt (a b : Expr)
  | repeated (min : Nat) (max : Option Nat) (greedy : Bool) (a : Expr)
  deriving DecidableEq, Repr

namespace Expr

def fail : Expr := .chars .empty

/-- Whether an expression may match the empty text; conditions on the place count as met. -/
def isNullable : Expr → Bool
  | empty => true
  | chars _ => false
  | look _ => true
  | capture a => a.isNullable
  | cat a b => a.isNullable && b.isNullable
  | alt a b => a.isNullable || b.isNullable
  | repeated min _ _ a => min == 0 || a.isNullable

def isBlank : Expr → Bool
  | empty => true
  | chars _ => false
  | look _ => true
  | capture a => a.isBlank
  | cat a b => a.isBlank && b.isBlank
  | alt a b => a.isBlank && b.isBlank
  | repeated _ _ _ a => a.isBlank

def rounds (min : Nat) (max : Option Nat) (greedy : Bool) (a : Expr) : Expr :=
  let min := if a.isBlank then Nat.min min 1 else min
  let max := if a.isBlank then some (Nat.min (max.getD 1) 1) else max
  if min = 0 && max = some 0 then empty
  else if min = 1 && max = some 1 then a
  else repeated min max greedy a

def sequence : List Expr → Expr
  | [] => empty
  | a :: as =>
    match a, sequence as with
    | empty, b => b
    | a, empty => a
    | a, b => cat a b

def branches : List Expr → Expr
  | [] => fail
  | [a] => a
  | a :: as =>
    match a, branches as with
    | chars s, chars t => chars (s.union t)
    | a, b => alt a b

def hasCapture : Expr → Bool
  | empty => false
  | chars _ => false
  | look _ => false
  | capture _ => true
  | cat a b => a.hasCapture || b.hasCapture
  | alt a b => a.hasCapture || b.hasCapture
  | repeated _ _ _ a => a.hasCapture

def parts : Expr → List Expr
  | empty => []
  | cat a b => a.parts ++ b.parts
  | a => [a]

/-- What two sequences begin with alike. Every capture is one of its own, so it is never shared. -/
def alike : List Expr → List Expr → List Expr
  | a :: as, b :: bs => if !a.hasCapture && a = b then a :: alike as bs else []
  | _, _ => []

def shared : List Expr → List Expr
  | a :: b :: as =>
    if (a :: b :: as).all (2 ≤ ·.parts.length)
    then (b :: as).foldl (fun p c => alike p c.parts) a.parts else []
  | _ => []

/-- Branches that begin alike share what they begin with, so that its preference comes before the
choice between them. -/
def choice (as : List Expr) : Expr :=
  match shared as with
  | [] => branches as
  | p => sequence (p ++ [branches (as.map fun a => sequence (a.parts.drop p.length))])

end Expr

end RecordText.Regex
