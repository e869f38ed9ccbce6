import RecordText.CharSet.Query

namespace RecordText.Regex

inductive Flag where
  | ignoreCase
  | multiLine
  | dotAll
  | swapGreed
  | unicode
  | crlf
  | spaced
  deriving DecidableEq, Repr

namespace Flag

def ofChar? : Char → Option Flag
  | 'i' => some ignoreCase
  | 'm' => some multiLine
  | 's' => some dotAll
  | 'U' => some swapGreed
  | 'u' => some unicode
  | 'R' => some crlf
  | 'x' => some spaced
  | _ => none

end Flag

abbrev FlagChange := List (Flag × Bool)

inductive Anchor where
  | lineStart
  | lineEnd
  | textStart
  | textEnd
  | boundary
  | notBoundary
  | wordStart
  | wordEnd
  | wordStartHalf
  | wordEndHalf
  deriving DecidableEq, Repr

inductive Shorthand where
  | digit
  | space
  | word
  deriving DecidableEq, Repr

inductive SetOp where
  | intersection
  | difference
  | symmetricDifference
  deriving DecidableEq, Repr

mutual

inductive ClassItem where
  | literal (c : Char)
  | range (lo hi : Char)
  | named (s : CharSet) (negated : Bool)
  | shorthand (k : Shorthand) (negated : Bool)
  | property (q : CharSet.Query) (negated : Bool)
  | nested (s : ClassSet) (negated : Bool)

inductive ClassSet where
  | items (l : List ClassItem)
  | op (o : SetOp) (s t : ClassSet)

end

/-- `byte` marks a literal given by two hexadecimal digits. -/
inductive Ast where
  | empty
  | flags (f : FlagChange)
  | literal (c : Char) (byte : Bool)
  | dot
  | anchor (a : Anchor)
  | shorthand (k : Shorthand) (negated : Bool)
  | property (q : CharSet.Query) (negated : Bool)
  | bracketed (s : ClassSet) (negated : Bool)
  | repeated (min : Nat) (max : Option Nat) (greedy : Bool) (a : Ast)
  | capture (a : Ast)
  | group (f : FlagChange) (a : Ast)
  | sequence (as : List Ast)
  | choice (as : List Ast)
  deriving Inhabited

namespace Ast

def ofSequence : List Ast → Ast
  | [] => empty
  | [a] => a
  | as => sequence as

def ofChoice : List Ast → Ast
  | [a] => a
  | as => choice as

end Ast

end RecordText.Regex
