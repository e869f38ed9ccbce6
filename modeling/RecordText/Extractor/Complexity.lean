import RecordText.Extractor.Basic
import RecordText.Text.Case

namespace RecordText

structure Complexity where
  arguments : Nat
  verifiers : Nat
  deriving DecidableEq, Repr

namespace Extractor

def complexity (e : Extractor) : Complexity :=
  let names := e.slots.map Text.lower
  .mk names.eraseDups.length (names.eraseDups.countP fun n => 1 < names.count n)

def sumOverLiterals (e : Extractor) (count : Text → Nat) : Nat :=
  e.literals.foldr (fun s n => count s + n) 0

end Extractor

end RecordText
