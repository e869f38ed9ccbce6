import RecordText.CharSet.Fold
import RecordText.Regex.Ast
import RecordText.Regex.Expr

/-!
The meaning of a regular expression as it is written. Flags hold from where they are set to the end
of the group around them, across its branches. Without the Unicode flag only ASCII has classes and
cases, and what could match part of a character is refused.
-/

namespace RecordText.Regex

structure Flags where
  ignoreCase : Bool
  multiLine : Bool
  dotAll : Bool
  swapGreed : Bool
  unicode : Bool
  crlf : Bool
  deriving DecidableEq, Repr

namespace Flags

def initial : Flags := .mk false false false false true false

def set (f : Flags) : Flag × Bool → Flags
  | (.ignoreCase, b) => { f with ignoreCase := b }
  | (.multiLine, b) => { f with multiLine := b }
  | (.dotAll, b) => { f with dotAll := b }
  | (.swapGreed, b) => { f with swapGreed := b }
  | (.unicode, b) => { f with unicode := b }
  | (.crlf, b) => { f with crlf := b }
  | (.spaced, _) => f

def change (f : Flags) (c : FlagChange) : Flags := c.foldl set f

def fold (f : Flags) (s : CharSet) : CharSet :=
  if !f.ignoreCase then s else if f.unicode then s.fold else s.foldAscii

def negate? (f : Flags) (negated : Bool) (s : CharSet) : Option CharSet :=
  let s := if negated then s.complement else s
  if f.unicode || s.isAscii then some s else none

def word (f : Flags) : CharSet := if f.unicode then .word else .asciiWord

end Flags

def Shorthand.chars (f : Flags) : Shorthand → CharSet
  | digit => if f.unicode then .decimalDigit else .asciiDigit
  | space => if f.unicode then .whiteSpace else .asciiSpace
  | word => f.word

/-- A set with a name. It is closed under case before it is negated. -/
def propertyChars? (f : Flags) (q : CharSet.Query) (negated : Bool) : Option CharSet :=
  if f.unicode then do f.negate? negated (f.fold (← q.chars?)) else none

def SetOp.apply : SetOp → CharSet → CharSet → CharSet
  | intersection => CharSet.inter
  | difference => CharSet.diff
  | symmetricDifference => CharSet.symmDiff

mutual

def ClassItem.chars? (f : Flags) : ClassItem → Option CharSet
  | .literal c => if f.unicode || c.toNat < 0x80 then some (.single c) else none
  | .range lo hi => if f.unicode || hi.toNat < 0x80 then some (.range lo.toNat hi.toNat) else none
  | .named s negated => f.negate? negated (f.fold s)
  | .shorthand k negated => f.negate? negated (k.chars f)
  | .property q negated => propertyChars? f q negated
  | .nested s negated => do f.negate? negated (f.fold (← s.chars? f))

/-- The operands of an operation are closed under case before it is applied. -/
def ClassSet.chars? (f : Flags) : ClassSet → Option CharSet
  | .items l => return .unions (← ClassSet.eachChars? f l)
  | .op o s t => return o.apply (f.fold (← s.chars? f)) (f.fold (← t.chars? f))

def ClassSet.eachChars? (f : Flags) : List ClassItem → Option (List CharSet)
  | [] => some []
  | i :: l => return (← i.chars? f) :: (← ClassSet.eachChars? f l)

end

def Anchor.look (f : Flags) : Anchor → Look
  | lineStart => if f.multiLine then .lineStart f.crlf else .textStart
  | lineEnd => if f.multiLine then .lineEnd f.crlf else .textEnd
  | textStart => .textStart
  | textEnd => .textEnd
  | boundary => .boundary f.word
  | notBoundary => .notBoundary f.word
  | wordStart => .wordStart f.word
  | wordEnd => .wordEnd f.word
  | wordStartHalf => .wordStartHalf f.word
  | wordEndHalf => .wordEndHalf f.word

def literalChars? (f : Flags) (c : Char) (byte : Bool) : Option CharSet :=
  if !f.unicode && byte && c.toNat ≥ 0x80 then none else some (f.fold (.single c))

def dotChars? (f : Flags) : Option CharSet :=
  if !f.unicode then none
  else if f.dotAll then some .full
  else if f.crlf then some ((CharSet.ofCodes [0x0A, 0x0D]).complement)
  else some ((CharSet.single '\n').complement)

mutual

def Ast.expr? (f : Flags) : Ast → Option (Expr × Flags)
  | .empty => some (.empty, f)
  | .flags c => some (.empty, f.change c)
  | .literal c byte => return (.chars (← literalChars? f c byte), f)
  | .dot => return (.chars (← dotChars? f), f)
  | .anchor a => some (.look (a.look f), f)
  | .shorthand k negated => return (.chars (← f.negate? negated (k.chars f)), f)
  | .property q negated => return (.chars (← propertyChars? f q negated), f)
  | .bracketed s negated => return (.chars (← f.negate? negated (f.fold (← s.chars? f))), f)
  | .repeated min max greedy a => do
    let (e, f) ← a.expr? f
    return (.rounds min max (greedy != f.swapGreed) e, f)
  | .capture a => do
    let (e, _) ← a.expr? f
    return (.capture e, f)
  | .group c a => do
    let (e, _) ← a.expr? (f.change c)
    return (e, f)
  | .sequence as => do
    let (es, f) ← Ast.exprs? f as
    return (.sequence es, f)
  | .choice as => do
    let (es, f) ← Ast.exprs? f as
    return (.choice es, f)

def Ast.exprs? (f : Flags) : List Ast → Option (List Expr × Flags)
  | [] => some ([], f)
  | a :: as => do
    let (e, f) ← a.expr? f
    let (es, f) ← Ast.exprs? f as
    return (e :: es, f)

end

end RecordText.Regex
