import RecordText.CharSet.Basic

namespace RecordText.CharSet

abbrev ByteRuns := List (List (Nat × Nat))

def allDigits (digits : Nat) : List (Nat × Nat) := List.replicate digits (0, 63)

def digitRuns : (digits : Nat) → (lo hi : Nat) → ByteRuns
  | 0, lo, hi => [[(lo, hi)]]
  | digits + 1, lo, hi =>
    let size := 64 ^ (digits + 1)
    let (a, b) := (lo / size, hi / size)
    if a = b then (digitRuns digits (lo % size) (hi % size)).map ((a, a) :: ·)
    else
      let first := if lo % size = 0 then [] else
        (digitRuns digits (lo % size) (size - 1)).map ((a, a) :: ·)
      let last := if hi % size = size - 1 then [] else
        (digitRuns digits 0 (hi % size)).map ((b, b) :: ·)
      let a := if first.isEmpty then a else a + 1
      let b := if last.isEmpty then b + 1 else b
      first ++ (if a < b then [(a, b - 1) :: allDigits (digits + 1)] else []) ++ last

/-- The code points that are written with the same number of bytes, surrogates left out. -/
def byteWidths : List (Nat × Nat × Nat) :=
  [(0, 0x00, 0x7F), (1, 0x80, 0x7FF), (2, 0x800, 0xD7FF), (2, 0xE000, 0xFFFF), (3, 0x10000, maxCode)]

def byteRuns (s : CharSet) : ByteRuns :=
  s.ranges.flatMap fun (lo, hi) =>
    byteWidths.flatMap fun (digits, start, stop) =>
      if max lo start ≤ min hi stop then digitRuns digits (max lo start) (min hi stop) else []

end RecordText.CharSet
