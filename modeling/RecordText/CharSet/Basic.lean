/-!
Sets of characters as runs of code points. The operations keep the runs in order, apart and not
touching when their arguments are so; `ofRanges` brings any list of runs into that form.
-/

namespace RecordText

structure CharSet where
  ranges : List (Nat × Nat)
  deriving DecidableEq, Repr

namespace CharSet

def maxCode : Nat := 0x10FFFF

def covers (s : CharSet) (n : Nat) : Bool := s.ranges.any fun (lo, hi) => lo ≤ n && n ≤ hi

def contains (s : CharSet) (c : Char) : Bool := s.covers c.toNat

def empty : CharSet := .mk []

def full : CharSet := .mk [(0, maxCode)]

def range (lo hi : Nat) : CharSet := .mk [(lo, hi)]

def single (c : Char) : CharSet := range c.toNat c.toNat

/-- Runs ordered by their first code point, joined where they overlap or touch; `(lo, hi)` is open. -/
def joinFrom (lo hi : Nat) : List (Nat × Nat) → List (Nat × Nat)
  | [] => [(lo, hi)]
  | (a, b) :: rest =>
    if a ≤ hi + 1 then joinFrom lo (max hi b) rest else (lo, hi) :: joinFrom a b rest

def join : List (Nat × Nat) → List (Nat × Nat)
  | [] => []
  | (lo, hi) :: rest => joinFrom lo hi rest

def ofRanges (rs : List (Nat × Nat)) : CharSet := .mk (join (rs.mergeSort fun r s => r.1 ≤ s.1))

def ofCodes (ns : List Nat) : CharSet := ofRanges (ns.map fun n => (n, n))

def union (s t : CharSet) : CharSet := ofRanges (s.ranges ++ t.ranges)

def unions (ss : List CharSet) : CharSet := ofRanges (ss.flatMap ranges)

def gaps (next : Nat) : List (Nat × Nat) → List (Nat × Nat)
  | [] => if next ≤ maxCode then [(next, maxCode)] else []
  | (lo, hi) :: rest =>
    if next < lo then (next, lo - 1) :: gaps (hi + 1) rest else gaps (hi + 1) rest

def complement (s : CharSet) : CharSet := .mk (gaps 0 s.ranges)

def inter (s t : CharSet) : CharSet := (s.complement.union t.complement).complement

def diff (s t : CharSet) : CharSet := s.inter t.complement

def symmDiff (s t : CharSet) : CharSet := (s.union t).diff (s.inter t)

def isAscii (s : CharSet) : Bool := s.ranges.all fun (_, hi) => hi < 0x80

end CharSet

end RecordText
