import RecordText.CharSet.Basic

/-!
Tables of character properties. An entry gives the names of a set and its runs of code points in
hexadecimal, such as `41-5a aa b5`. Names and runs stand apart by blanks and ends of lines.
-/

namespace RecordText.CharSet

structure Entry where
  names : String
  runs : String

def hexDigit? (c : Char) : Option Nat :=
  if '0' ≤ c && c ≤ '9' then some (c.toNat - '0'.toNat)
  else if 'a' ≤ c && c ≤ 'f' then some (c.toNat - 'a'.toNat + 10)
  else if 'A' ≤ c && c ≤ 'F' then some (c.toNat - 'A'.toNat + 10)
  else none

def ofHex (s : List Char) : Nat := s.foldl (fun n c => n * 16 + (hexDigit? c).getD 0) 0

def parseRun (s : List Char) : Nat × Nat :=
  match s.span (· != '-') with
  | (lo, _ :: hi) => (ofHex lo, ofHex hi)
  | (lo, []) => (ofHex lo, ofHex lo)

def words (s : String) : List (List Char) :=
  (s.toList.splitOnP fun c => c = ' ' || c = '\n').filter (!·.isEmpty)

def parseRuns (s : String) : CharSet := .mk ((words s).map parseRun)

namespace Entry

def chars (e : Entry) : CharSet := parseRuns e.runs

def isNamed (e : Entry) (name : List Char) : Bool := (words e.names).contains name

end Entry

def find? (table : List Entry) (name : List Char) : Option CharSet :=
  (table.find? (·.isNamed name)).map Entry.chars

def named (table : List Entry) (names : List String) : CharSet :=
  unions (names.filterMap fun n => find? table n.toList)

end RecordText.CharSet
