import RecordText.Extractor.Mode

namespace RecordText

inductive Piece where
  | literal (s : Text)
  | slot (name : Text)
  deriving DecidableEq, Repr

namespace Piece

def literal? : Piece → Option Text
  | literal s => some s
  | slot _ => none

def slot? : Piece → Option Text
  | literal _ => none
  | slot name => some name

@[simp] theorem literal?_literal (s : Text) : (literal s).literal? = some s := rfl

@[simp] theorem literal?_slot (name : Text) : (slot name).literal? = none := rfl

@[simp] theorem slot?_literal (s : Text) : (literal s).slot? = none := rfl

@[simp] theorem slot?_slot (name : Text) : (slot name).slot? = some name := rfl

end Piece

def isSeparator (c : Char) : Bool := c = '/' || c = '\\'

structure Extractor where
  pieces : List Piece
  separators : Nat
  mode : Mode
  deriving DecidableEq, Repr

namespace Extractor

def empty (mode : Mode) : Extractor := .mk [] 0 mode

def addText (e : Extractor) (s : Text) : Extractor :=
  if s.isEmpty then e
  else { e with pieces := e.pieces ++ [.literal s], separators := e.separators + s.countP isSeparator }

def addSlot (e : Extractor) (name : Text) : Extractor :=
  { e with pieces := e.pieces ++ [.slot name] }

def literals (e : Extractor) : List Text := e.pieces.filterMap Piece.literal?

def slots (e : Extractor) : List Text := e.pieces.filterMap Piece.slot?

def slotNames (e : Extractor) : List Text := e.slots.eraseDups

@[simp] theorem addText_nil (e : Extractor) : e.addText [] = e := rfl

@[simp] theorem addText_cons (e : Extractor) (c : Char) (s : Text) :
    e.addText (c :: s) =
      .mk (e.pieces ++ [.literal (c :: s)]) (e.separators + (c :: s).countP isSeparator) e.mode := rfl

@[simp] theorem slots_addText (e : Extractor) (s : Text) : (e.addText s).slots = e.slots := by
  cases s <;> simp [slots, Piece.slot?]

@[simp] theorem slots_addSlot (e : Extractor) (name : Text) :
    (e.addSlot name).slots = e.slots ++ [name] := by
  simp [slots, addSlot, Piece.slot?]

@[simp] theorem literals_addSlot (e : Extractor) (name : Text) :
    (e.addSlot name).literals = e.literals := by
  simp [literals, addSlot, Piece.literal?]

end Extractor

end RecordText
