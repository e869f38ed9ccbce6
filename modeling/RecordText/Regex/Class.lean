import RecordText.Regex.Escape

/-!
Reading bracketed classes: characters, ranges, escapes, nested classes, classes named between colons,
and set operations, which are taken from the left. A hyphen stands for itself where no range can be
meant, and a closing bracket does so as the first member.
-/

namespace RecordText.Regex

def namedClass? : String → Option CharSet
  | "alnum" => some (.ofRanges [(0x30, 0x39), (0x41, 0x5A), (0x61, 0x7A)])
  | "alpha" => some (.ofRanges [(0x41, 0x5A), (0x61, 0x7A)])
  | "ascii" => some (.ofRanges [(0x00, 0x7F)])
  | "blank" => some (.ofRanges [(0x09, 0x09), (0x20, 0x20)])
  | "cntrl" => some (.ofRanges [(0x00, 0x1F), (0x7F, 0x7F)])
  | "digit" => some .asciiDigit
  | "graph" => some (.ofRanges [(0x21, 0x7E)])
  | "lower" => some (.ofRanges [(0x61, 0x7A)])
  | "print" => some (.ofRanges [(0x20, 0x7E)])
  | "punct" => some (.ofRanges [(0x21, 0x2F), (0x3A, 0x40), (0x5B, 0x60), (0x7B, 0x7E)])
  | "space" => some .asciiSpace
  | "upper" => some (.ofRanges [(0x41, 0x5A)])
  | "word" => some .asciiWord
  | "xdigit" => some (.ofRanges [(0x30, 0x39), (0x41, 0x46), (0x61, 0x66)])
  | _ => none

/-- A named class, read behind its opening bracket. Blanks are not skipped inside it, and what is not
such a class is left to be read as a nested one. -/
def readNamedClass : Text → Option (ClassItem × Text)
  | ':' :: s =>
    let (negated, s) := match s with
      | '^' :: t => (true, t)
      | t => (false, t)
    match s.span (· != ':') with
    | (name, ':' :: ']' :: rest) =>
      (namedClass? (String.ofList name)).map fun set => (.named set negated, rest)
    | _ => none
  | _ => none

def readMember (spaced : Bool) : Text → Option (ClassItem × Text)
  | [] => none
  | '\\' :: s => do
    match ← readEscape spaced s with
    | (.literal c _, rest) => return (.literal c, rest)
    | (.shorthand k negated, rest) => return (.shorthand k negated, rest)
    | (.property q negated, rest) => return (.property q negated, rest)
    | _ => none
  | c :: s => some (.literal c, s)

/-- The character that decides whether the hyphen before `s` means a range. In spaced mode blanks and
one number sign are passed over; when nothing follows them, it is the next character after all. -/
def afterHyphen? (spaced : Bool) (s : Text) : Option Char :=
  if !spaced then s.head?
  else
    match s.dropWhile isBlank with
    | '#' :: r => (r.dropWhile isBlank).head? <|> s.head?
    | r => r.head? <|> s.head?

def ClassItem.rangeTo? : ClassItem → ClassItem → Option ClassItem
  | .literal lo, .literal hi => if lo ≤ hi then some (.range lo hi) else none
  | _, _ => none

def readRange (spaced : Bool) (s : Text) : Option (ClassItem × Text) := do
  let (first, r) ← readMember spaced s
  match skip spaced r with
  | '-' :: t =>
    let next := afterHyphen? spaced t
    if next = some ']' || next = some '-' then return (first, '-' :: t)
    else
      let (last, rest) ← readMember spaced (skip spaced t)
      return (← first.rangeTo? last, rest)
  | r => return (first, r)

def readHyphens (spaced : Bool) : (fuel : Nat) → List ClassItem → Text → List ClassItem × Text
  | fuel + 1, items, '-' :: s => readHyphens spaced fuel (.literal '-' :: items) (skip spaced s)
  | _, items, s => (items, s)

def readOpening (spaced : Bool) (s : Text) : Bool × List ClassItem × Text :=
  let (negated, s) := match skip spaced s with
    | '^' :: t => (true, skip spaced t)
    | t => (false, t)
  match readHyphens spaced s.length [] s with
  | ([], ']' :: t) => (negated, [.literal ']'], skip spaced t)
  | (items, t) => (negated, items, t)

def ClassSet.close (pending : Option (SetOp × ClassSet)) (items : List ClassItem) : ClassSet :=
  match pending with
  | none => .items items.reverse
  | some (o, s) => .op o s (.items items.reverse)

mutual

def readClass (spaced : Bool) : (fuel : Nat) → Text → Option (ClassSet × Bool × Text)
  | 0, _ => none
  | fuel + 1, s => do
    let (negated, items, t) := readOpening spaced s
    let (set, rest) ← readMembers spaced fuel none items t
    return (set, negated, rest)

def readMembers (spaced : Bool) :
    (fuel : Nat) → Option (SetOp × ClassSet) → List ClassItem → Text → Option (ClassSet × Text)
  | 0, _, _, _ => none
  | fuel + 1, pending, items, s =>
    match skip spaced s with
    | ']' :: t => some (.close pending items, t)
    | '[' :: t =>
      match readNamedClass t with
      | some (item, rest) => readMembers spaced fuel pending (item :: items) rest
      | none => do
        let (set, negated, rest) ← readClass spaced fuel t
        readMembers spaced fuel pending (.nested set negated :: items) rest
    | '&' :: '&' :: t => readMembers spaced fuel (some (.intersection, .close pending items)) [] t
    | '-' :: '-' :: t => readMembers spaced fuel (some (.difference, .close pending items)) [] t
    | '~' :: '~' :: t =>
      readMembers spaced fuel (some (.symmetricDifference, .close pending items)) [] t
    | t => do
      let (item, rest) ← readRange spaced t
      readMembers spaced fuel pending (item :: items) rest

end

end RecordText.Regex
