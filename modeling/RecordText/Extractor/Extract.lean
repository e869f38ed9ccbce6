import RecordText.Extractor.Agreement
import RecordText.Extractor.Basic
import RecordText.Record

/-!
Matching a text from left to right. Each literal is looked for behind the one before it, and the text
that is passed over belongs to the slot between them; a slot at the end takes what is left. Captures
of one name have to agree, and the last of them is kept.
-/

namespace RecordText

inductive Failure where
  | notFound (literal rest : Text)
  | conflict (value slot : Text)
  | inseparable (first second : Text)
  deriving DecidableEq, Repr

def Failure.message : Failure → Text
  | notFound literal rest => "Unable to find ".toList ++ literal ++ " in ".toList ++ rest
  | conflict value slot => "Unable to apply <".toList ++ value ++ "> to ".toList ++ slot
  | inseparable first second =>
    "Unable to separate ".toList ++ first ++ " from ".toList ++ second
      ++ ": no text between them".toList

structure Extraction where
  captures : Record
  failure : Option Failure
  deriving DecidableEq, Repr

namespace Extraction

def isOk (x : Extraction) : Bool := x.failure.isNone

def message? (x : Extraction) : Option Text := x.failure.map Failure.message

end Extraction

def Record.capture? (r : Record) (name value : Text) : Option Record :=
  if (r.get? name).all (Text.agrees · value) then some (r.set name value) else none

def Record.fill (r : Record) (pending : Option Text) (value : Text) (next : Record → Extraction) :
    Extraction :=
  match pending with
  | none => next r
  | some name =>
    match r.capture? name value with
    | some r => next r
    | none => .mk r (some (.conflict value name))

namespace Extractor

/-- Matches pieces; `pending` is a slot that waits for the literal behind it. -/
def scan (r : Record) (pending : Option Text) : List Piece → Text → Extraction
  | [], s => r.fill pending s fun r => .mk r none
  | .literal l :: ps, s =>
    match Text.cut? l s with
    | none => .mk r (some (.notFound l s))
    | some (value, rest) => r.fill pending value fun r => scan r none ps rest
  | .slot name :: ps, s =>
    match pending with
    | none => scan r (some name) ps s
    | some first => .mk r (some (.inseparable first name))

def extract (e : Extractor) (s : Text) : Extraction := scan .empty none e.pieces s

end Extractor

end RecordText
