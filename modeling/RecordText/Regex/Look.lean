import RecordText.CharSet.Property

namespace RecordText.Regex

structure Place where
  before : Option Char
  after : Option Char

inductive Look where
  | textStart
  | textEnd
  | lineStart (crlf : Bool)
  | lineEnd (crlf : Bool)
  | boundary (word : CharSet)
  | notBoundary (word : CharSet)
  | wordStart (word : CharSet)
  | wordEnd (word : CharSet)
  | wordStartHalf (word : CharSet)
  | wordEndHalf (word : CharSet)
  deriving DecidableEq, Repr

namespace Place

def isBefore (p : Place) (s : CharSet) : Bool := p.after.any s.contains

def isAfter (p : Place) (s : CharSet) : Bool := p.before.any s.contains

def isLineStart (p : Place) : (crlf : Bool) → Bool
  | false => p.before = none || p.before = some '\n'
  | true => p.before = none || p.before = some '\n' || (p.before = some '\r' && p.after != some '\n')

def isLineEnd (p : Place) : (crlf : Bool) → Bool
  | false => p.after = none || p.after = some '\n'
  | true => p.after = none || p.after = some '\r' || (p.after = some '\n' && p.before != some '\r')

end Place

def Look.holds (p : Place) : Look → Bool
  | textStart => p.before.isNone
  | textEnd => p.after.isNone
  | lineStart crlf => p.isLineStart crlf
  | lineEnd crlf => p.isLineEnd crlf
  | boundary w => p.isAfter w != p.isBefore w
  | notBoundary w => p.isAfter w == p.isBefore w
  | wordStart w => !p.isAfter w && p.isBefore w
  | wordEnd w => p.isAfter w && !p.isBefore w
  | wordStartHalf w => !p.isAfter w
  | wordEndHalf w => !p.isBefore w

end RecordText.Regex
