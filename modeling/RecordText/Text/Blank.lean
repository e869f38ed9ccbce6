import RecordText.Text.Basic

namespace RecordText

def isBlank (c : Char) : Bool :=
  let n := c.toNat
  (0x09 ≤ n && n ≤ 0x0D) || n == 0x20 || n == 0x85 || n == 0xA0 || n == 0x1680
    || (0x2000 ≤ n && n ≤ 0x200A) || n == 0x2028 || n == 0x2029 || n == 0x202F || n == 0x205F
    || n == 0x3000

namespace Text

def stripStart (p : Char → Bool) (s : Text) : Text := s.dropWhile p

def stripEnd (p : Char → Bool) (s : Text) : Text := (s.reverse.dropWhile p).reverse

def strip (p : Char → Bool) (s : Text) : Text := stripEnd p (stripStart p s)

end Text

end RecordText
