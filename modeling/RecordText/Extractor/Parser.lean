import RecordText.Extractor.Basic

/-!
Reading extraction patterns. Percent signs divide a pattern into literals and slots by turns; nothing
between two of them is an escaped percent sign, which begins the literal that follows. Reading always
gives an extractor: when the last slot is not closed, its text is kept as a literal.
-/

namespace RecordText

structure UnclosedSlot where
  pattern : Text
  deriving DecidableEq, Repr

def UnclosedSlot.message (e : UnclosedSlot) : Text :=
  "Format error: unclosed slot in ".toList ++ e.pattern

namespace Extractor

/-- Adds what stands between percent signs, the first part being the rest of a literal that begins
with `lead`. Tells whether the last slot is closed. -/
def addParts (e : Extractor) (lead : Text) : List Text → Extractor × Bool
  | [] => (e, true)
  | [s] => (e.addText (lead ++ s), true)
  | [s, name] => ((e.addText (lead ++ s)).addText name, false)
  | s :: name :: rest =>
    if name.isEmpty then addParts (e.addText (lead ++ s)) ['%'] rest
    else addParts ((e.addText (lead ++ s)).addSlot name) [] rest

def compile (pattern : Text) (mode : Mode) : Extractor × Option UnclosedSlot :=
  let (e, closed) := (empty mode).addParts [] (pattern.splitOn '%')
  (e, if closed then none else some (.mk pattern))

end Extractor

end RecordText
