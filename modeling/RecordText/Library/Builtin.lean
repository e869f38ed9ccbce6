import RecordText.Library.Basic
import RecordText.Regex.Replace
import RecordText.Text.Case

/-!
The functions that every library has from the start. They never fail: a call that cannot be answered
gives a text that begins with `ERR:`, and arguments beyond the last that a function knows are ignored.
-/

namespace RecordText

namespace Builtin

def missingArguments : Text := "ERR: missing required arguments".toList

def capitalize : Function
  | [] => missingArguments
  | s :: _ => Text.capitalize s

def lower : Function
  | [] => missingArguments
  | s :: _ => Text.lower s

def upper : Function
  | [] => missingArguments
  | s :: _ => Text.upper s

inductive Ends where
  | left
  | right
  | both
  deriving DecidableEq, Repr

namespace Ends

def strip : Ends → (Char → Bool) → Text → Text
  | left => Text.stripStart
  | right => Text.stripEnd
  | both => Text.strip

def pattern (set : Text) : Ends → Text
  | left => "^[".toList ++ set ++ "]+".toList
  | right => "[".toList ++ set ++ "]+$".toList
  | both => "^[".toList ++ set ++ "]+|[".toList ++ set ++ "]+$".toList

end Ends

def trimSet (ends : Ends) (set s : Text) : Text :=
  match Regex.compile? (ends.pattern set) with
  | some r => r.replaceEach [] s
  | none => "ERR: invalid character set ".toList ++ set

def trimAt (ends : Ends) : Function
  | [] => missingArguments
  | s :: [] => ends.strip isBlank s
  | s :: [] :: _ => ends.strip isBlank s
  | s :: set :: _ => trimSet ends set s

def ltrim : Function := trimAt .left

def rtrim : Function := trimAt .right

def trim : Function := trimAt .both

def maxWidth : Nat := 1024

def maxNumber : Nat := 0xFFFFFFFFFFFFFFFF

def leadingNumber? (s : Text) : Option Nat :=
  let digits := (Text.stripStart isBlank s).takeWhile isAsciiDigit
  if digits.isEmpty || maxNumber < Text.toNat digits then none else some (Text.toNat digits)

def pad (width : Nat) (s : Text) : Text := List.replicate (width - s.length) '0' ++ s

def zfillTo (width s : Text) : Text :=
  match leadingNumber? width with
  | none => s
  | some n =>
    if n > maxWidth then "ERR: width ".toList ++ Text.ofNat n ++ " too large".toList else pad n s

def zfill : Function
  | [] => missingArguments
  | [s] => zfillTo ['3'] s
  | s :: width :: _ => zfillTo width s

def replaceMatch (pattern replacement s : Text) : Text :=
  match Regex.compile? pattern with
  | some r => r.replaceFirst replacement s
  | none => "ERR: invalid pattern ".toList ++ pattern

def replace : Function
  | s :: pattern :: [] => replaceMatch pattern [] s
  | s :: pattern :: replacement :: _ => replaceMatch pattern replacement s
  | _ => missingArguments

end Builtin

namespace Library

def builtin : Library := ofList [
  ("capitalize".toList, Builtin.capitalize), ("lower".toList, Builtin.lower),
  ("ltrim".toList, Builtin.ltrim), ("replace".toList, Builtin.replace),
  ("rtrim".toList, Builtin.rtrim), ("trim".toList, Builtin.trim),
  ("upper".toList, Builtin.upper), ("zfill".toList, Builtin.zfill)]

end Library

end RecordText
