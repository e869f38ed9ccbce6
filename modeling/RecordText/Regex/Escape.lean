import RecordText.Regex.Ast
import RecordText.Text.Blank

namespace RecordText.Regex

def dropSpace : (inComment : Bool) → Text → Text
  | _, [] => []
  | true, c :: s => dropSpace (c != '\n') s
  | false, c :: s =>
    if isBlank c then dropSpace false s else if c = '#' then dropSpace true s else c :: s

def skip (spaced : Bool) (s : Text) : Text := if spaced then dropSpace false s else s

def readBraced (spaced : Bool) : (fuel : Nat) → Text → Option (Text × Text)
  | 0, _ => none
  | fuel + 1, s =>
    match skip spaced s with
    | [] => none
    | c :: r =>
      if c = '\x7d' then some ([], r)
      else (readBraced spaced fuel r).map fun (name, rest) => (c :: name, rest)

def readHexDigits (spaced : Bool) : Nat → Text → Option (Text × Text)
  | 0, s => some ([], s)
  | n + 1, s =>
    match skip spaced s with
    | [] => none
    | c :: r => (readHexDigits spaced n r).map fun (ds, rest) => (c :: ds, rest)

def charOfHex? (ds : Text) : Option Char :=
  if ds.isEmpty || !ds.all (fun c => (CharSet.hexDigit? c).isSome) then none
  else
    let n := CharSet.ofHex ds
    if n.isValidChar then some (Char.ofNat n) else none

def readHex (spaced : Bool) (digits : Nat) (s : Text) : Option (Ast × Text) := do
  match skip spaced s with
  | [] => none
  | c :: r =>
    if c = '\x7b' then
      let (ds, rest) ← readBraced spaced (r.length + 1) r
      return (.literal (← charOfHex? ds) false, rest)
    else
      let (ds, rest) ← readHexDigits spaced digits (c :: r)
      return (.literal (← charOfHex? ds) (digits == 2), rest)

def cutAt (word : String) (s : Text) : Option (Text × Text) := Text.cut? word.toList s

/-- `name!=value`, `name:value` or `name=value`, the first that is found in this order; else a name.
The first of them asks for the characters that the other two leave out. -/
def queryOf (s : Text) : CharSet.Query × Bool :=
  match cutAt "!=" s with
  | some (name, value) => (.value name value, true)
  | none =>
    match cutAt ":" s <|> cutAt "=" s with
    | some (name, value) => (.value name value, false)
    | none => (.name s, false)

def readProperty (spaced negated : Bool) (s : Text) : Option (Ast × Text) := do
  match skip spaced s with
  | [] => none
  | c :: r =>
    if c = '\x7b' then
      let (name, rest) ← readBraced spaced (r.length + 1) r
      let (query, differs) := queryOf name
      return (.property query (negated != differs), rest)
    else if c = '\\' then none
    else return (.property (.name [c]) negated, r)

def isBoundaryNameChar (c : Char) : Bool :=
  ('A' ≤ c && c ≤ 'Z') || ('a' ≤ c && c ≤ 'z') || c = '-'

/-- After `\b`: a boundary named in braces. Braces that begin with something other than a letter or
a hyphen are left for a repetition. -/
def readBoundary (spaced : Bool) (s : Text) : Option (Ast × Text) :=
  match s with
  | '\x7b' :: r =>
    match skip spaced r with
    | [] => none
    | c :: _ =>
      if !isBoundaryNameChar c then some (.anchor .boundary, s)
      else do
        let (name, rest) ← readBraced spaced (r.length + 1) r
        match String.ofList name with
        | "start" => return (.anchor .wordStart, rest)
        | "end" => return (.anchor .wordEnd, rest)
        | "start-half" => return (.anchor .wordStartHalf, rest)
        | "end-half" => return (.anchor .wordEndHalf, rest)
        | _ => none
  | _ => some (.anchor .boundary, s)

def isEscapable (c : Char) : Bool :=
  c.toNat < 0x80 && !c.isAlphanum && c != '<' && c != '>'

def readEscape (spaced : Bool) : Text → Option (Ast × Text)
  | [] => none
  | c :: s =>
    match c with
    | 'x' => readHex spaced 2 s
    | 'u' => readHex spaced 4 s
    | 'U' => readHex spaced 8 s
    | 'p' => readProperty spaced false s
    | 'P' => readProperty spaced true s
    | 'd' => some (.shorthand .digit false, s)
    | 'D' => some (.shorthand .digit true, s)
    | 's' => some (.shorthand .space false, s)
    | 'S' => some (.shorthand .space true, s)
    | 'w' => some (.shorthand .word false, s)
    | 'W' => some (.shorthand .word true, s)
    | 'a' => some (.literal '\x07' false, s)
    | 'f' => some (.literal '\x0c' false, s)
    | 't' => some (.literal '\t' false, s)
    | 'n' => some (.literal '\n' false, s)
    | 'r' => some (.literal '\r' false, s)
    | 'v' => some (.literal '\x0b' false, s)
    | 'A' => some (.anchor .textStart, s)
    | 'z' => some (.anchor .textEnd, s)
    | 'b' => readBoundary spaced s
    | 'B' => some (.anchor .notBoundary, s)
    | '<' => some (.anchor .wordStart, s)
    | '>' => some (.anchor .wordEnd, s)
    | c => if isEscapable c then some (.literal c false, s) else none

end RecordText.Regex
