import RecordText.CharSet.Category
import RecordText.Regex.Class
import RecordText.Regex.Nesting

namespace RecordText.Regex

/-- The flags of a group, up to the colon or parenthesis that ends them. A flag is given once, the
sign that takes off the flags after it too, and it is not the last. -/
def readFlags (off : Bool) (change : FlagChange) : Text → Option (FlagChange × Char × Text)
  | [] => none
  | '-' :: c :: s => if off || c = ':' || c = ')' then none else readFlags true change (c :: s)
  | c :: s =>
    if c = ':' || c = ')' then some (change.reverse, c, s)
    else do
      let f ← Flag.ofChar? c
      if change.any (·.1 == f) then none else readFlags off ((f, !off) :: change) s

def FlagChange.spaced (change : FlagChange) (spaced : Bool) : Bool :=
  ((change.find? (·.1 == .spaced)).map (·.2)).getD spaced

def isNameStart (c : Char) : Bool := c = '_' || CharSet.alphabetic.contains c

def isNamePart (c : Char) : Bool :=
  c = '_' || c = '.' || c = '[' || c = ']' || CharSet.alphabetic.contains c
    || (CharSet.category ["nd", "nl", "no"]).contains c

def readGroupName (s : Text) : Option (Text × Text) :=
  match s.span (· != '>') with
  | (c :: name, '>' :: rest) =>
    if isNameStart c && name.all isNamePart then some (c :: name, rest) else none
  | _ => none

inductive Opening where
  | capture (name : Option Text)
  | group (f : FlagChange)
  | flags (f : FlagChange)

def readGroupOpening : Text → Option (Opening × Text)
  -- Groups that look around are refused.
  | '?' :: '=' :: _ => none
  | '?' :: '!' :: _ => none
  | '?' :: '<' :: '=' :: _ => none
  | '?' :: '<' :: '!' :: _ => none
  | '?' :: 'P' :: '<' :: s => (readGroupName s).map fun (name, rest) => (.capture (some name), rest)
  | '?' :: '<' :: s => (readGroupName s).map fun (name, rest) => (.capture (some name), rest)
  | '?' :: s => do
    match ← readFlags false [] s with
    | (f, ':', rest) => return (.group f, rest)
    | ([], _, _) => none
    | (f, _, rest) => return (.flags f, rest)
  | s => some (.capture none, s)

def readDigits (spaced : Bool) : (fuel : Nat) → Text → Text × Text
  | fuel + 1, c :: s =>
    if isAsciiDigit c then
      let (ds, rest) := readDigits spaced fuel (skip spaced s)
      (c :: ds, rest)
    else ([], c :: s)
  | _, s => ([], s)

def dropBlanks (spaced : Bool) : (fuel : Nat) → Text → Text
  | fuel + 1, c :: s => if isBlank c then dropBlanks spaced fuel (skip spaced s) else c :: s
  | _, s => s

def maxCount : Nat := 0xFFFFFFFF

def readCount (spaced : Bool) (s : Text) : Option (Nat × Text) :=
  let (ds, rest) := readDigits spaced s.length (s.dropWhile isBlank)
  let n := Text.toNat ds
  if ds.isEmpty || maxCount < n then none else some (n, dropBlanks spaced rest.length rest)

def readBounds (spaced : Bool) (s : Text) : Option (Nat × Option Nat × Text) := do
  let (min, r) ← readCount spaced (skip spaced s)
  match r with
  | '\x7d' :: rest => return (min, some min, rest)
  | ',' :: r =>
    match skip spaced r with
    | '\x7d' :: rest => return (min, none, rest)
    | r =>
      match ← readCount spaced r with
      | (max, '\x7d' :: rest) => if min ≤ max then return (min, some max, rest) else none
      | _ => none
  | _ => none

def readGreed : Text → Bool × Text
  | '?' :: s => (false, s)
  | s => (true, s)

def repeatLatest (min : Nat) (max : Option Nat) (greedy : Bool) : List Ast → Option (List Ast)
  | [] => none
  | .flags _ :: _ => none
  | a :: items => some (.repeated min max greedy a :: items)

def readPart (spaced : Bool) : Text → Option (Ast × Text)
  | [] => none
  | '\\' :: s => readEscape spaced s
  | '.' :: s => some (.dot, s)
  | '^' :: s => some (.anchor .lineStart, s)
  | '$' :: s => some (.anchor .lineEnd, s)
  | c :: s => some (.literal c false, s)

def closeGroup (branches items : List Ast) : Ast :=
  .ofChoice (.ofSequence items.reverse :: branches).reverse

/-- What a group contains, up to its closing parenthesis or the end of the text. The names of groups
that were read are carried along, since a name is given once. -/
def readGroup : (fuel : Nat) → (spaced : Bool) → (names : List Text) → (branches items : List Ast) →
    Text → Option (Ast × List Text × Text)
  | 0, _, _, _, _, _ => none
  | fuel + 1, spaced, names, branches, items, s =>
    match skip spaced s with
    | [] => some (closeGroup branches items, names, [])
    | ')' :: r => some (closeGroup branches items, names, ')' :: r)
    | '|' :: r => readGroup fuel spaced names (.ofSequence items.reverse :: branches) [] r
    | '(' :: r => do
      match ← readGroupOpening (skip spaced r) with
      | (.flags f, r) =>
        readGroup fuel (f.spaced spaced) names branches (.flags f :: items) r
      | (.group f, r) =>
        match ← readGroup fuel (f.spaced spaced) names [] [] r with
        | (a, names, ')' :: rest) => readGroup fuel spaced names branches (.group f a :: items) rest
        | _ => none
      | (.capture name, r) =>
        if name.any names.contains then none
        else
          match ← readGroup fuel spaced (name.toList ++ names) [] [] r with
          | (a, names, ')' :: rest) => readGroup fuel spaced names branches (.capture a :: items) rest
          | _ => none
    | '[' :: r => do
      let (set, negated, rest) ← readClass spaced (2 * r.length + 2) r
      readGroup fuel spaced names branches (.bracketed set negated :: items) rest
    | '?' :: r => do
      let (greedy, rest) := readGreed r
      readGroup fuel spaced names branches (← repeatLatest 0 (some 1) greedy items) rest
    | '*' :: r => do
      let (greedy, rest) := readGreed r
      readGroup fuel spaced names branches (← repeatLatest 0 none greedy items) rest
    | '+' :: r => do
      let (greedy, rest) := readGreed r
      readGroup fuel spaced names branches (← repeatLatest 1 none greedy items) rest
    | '\x7b' :: r => do
      let (min, max, r) ← readBounds spaced r
      let (greedy, rest) := readGreed (skip spaced r)
      readGroup fuel spaced names branches (← repeatLatest min max greedy items) rest
    | r => do
      let (a, rest) ← readPart spaced r
      readGroup fuel spaced names branches (a :: items) rest

def Ast.read (s : Text) : Option Ast :=
  match readGroup (s.length + 1) false [] [] [] s with
  | some (a, _, []) => if a.depth ≤ maxDepth then some a else none
  | _ => none

end RecordText.Regex
