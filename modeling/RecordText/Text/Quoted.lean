import RecordText.CharSet.Property
import RecordText.Text.Basic

namespace RecordText

def unprintable : CharSet :=
  ((CharSet.assigned.diff (CharSet.category ["cc", "cf", "co", "zs", "zl", "zp"])).union
    (.single ' ')).complement

def codePointEscape (c : Char) : Text :=
  "\\u\x7b".toList ++ Nat.toDigits 16 c.toNat ++ ['\x7d']

def escapeChar (mark c : Char) : Text :=
  match c with
  | '\x00' => ['\\', '0']
  | '\t' => ['\\', 't']
  | '\r' => ['\\', 'r']
  | '\n' => ['\\', 'n']
  | '\\' => ['\\', '\\']
  | c =>
    if c = mark then ['\\', c]
    else if CharSet.graphemeExtend.contains c || unprintable.contains c then codePointEscape c
    else [c]

def quoteChar (c : Char) : Text := ['\''] ++ escapeChar '\'' c ++ ['\'']

def Text.quoted (s : Text) : Text := ['"'] ++ s.flatMap (escapeChar '"') ++ ['"']

end RecordText
