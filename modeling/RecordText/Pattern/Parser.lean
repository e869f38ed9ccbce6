import RecordText.Pattern.Error
import RecordText.Pattern.Node

/-!
Reading display patterns. The text after `$name(` is first cut into raw arguments by counting
parentheses, and each argument is then read as a pattern one level deeper, so a percent sign protects
neither a comma nor a parenthesis. Calls nest at most `maxNesting` deep.
-/

namespace RecordText

def isNameChar (c : Char) : Bool := isAsciiLetter c || isAsciiDigit c

def isPlain (c : Char) : Bool := c != '%' && c != '$'

namespace Node

def growFirst (c : Char) : List Text → List Text
  | [] => [[c]]
  | p :: ps => (c :: p) :: ps

/-- Cuts the text of an argument list at the commas outside parentheses, `depth` of which are open,
up to the parenthesis that closes the list. The rest of the text comes second. -/
def cutArguments : (depth : Nat) → Text → Option (List Text × Text)
  | _, [] => none
  | depth, '(' :: s => (cutArguments (depth + 1) s).map fun (ps, r) => (growFirst '(' ps, r)
  | 0, ')' :: s => some ([[]], s)
  | depth + 1, ')' :: s => (cutArguments depth s).map fun (ps, r) => (growFirst ')' ps, r)
  | depth, c :: s =>
    (cutArguments depth s).map fun (ps, r) =>
      if c = ',' && depth = 0 then ([] :: ps, r) else (growFirst c ps, r)

def dropEmptyLast : List Text → List Text
  | [] => []
  | [p] => if p.isEmpty then [] else [p]
  | p :: ps => p :: dropEmptyLast ps

def splitArguments (s : Text) : Option (List Text × Text) :=
  (cutArguments 0 s).map fun (ps, r) => (dropEmptyLast ps, r)

theorem cutArguments_length {depth : Nat} {s : Text} {ps : List Text} {r : Text}
    (h : cutArguments depth s = some (ps, r)) : r.length < s.length := by
  induction s generalizing depth ps r with
  | nil => simp [cutArguments] at h
  | cons c s ih =>
    unfold cutArguments at h
    split at h <;> simp_all only [Option.map_eq_some_iff, Option.some.injEq, Prod.mk.injEq,
      List.cons.injEq, List.length_cons, reduceCtorEq]
    · obtain ⟨⟨qs, t⟩, ht, hp⟩ := h
      have := ih ht
      grind
    · grind
    · obtain ⟨⟨qs, t⟩, ht, hp⟩ := h
      have := ih ht
      grind
    · obtain ⟨⟨qs, t⟩, ht, hp⟩ := h
      have := ih ht
      grind

theorem splitArguments_length {s : Text} {args : List Text} {r : Text}
    (h : splitArguments s = some (args, r)) : r.length < s.length := by
  obtain ⟨⟨ps, t⟩, ht, hp⟩ := Option.map_eq_some_iff.1 h
  have := cutArguments_length ht
  simp_all

/-- The nodes of a pattern; `readArgument` reads the arguments of its calls, and is missing where no
call may stand. -/
def parseNodes (readArgument : Option (Text → Except PatternError Node)) :
    Text → Except PatternError (List Node)
  | [] => .ok []
  | '%' :: s =>
    match _h : s.dropWhile (· != '%') with
    | [] => .error .unclosedAttribute
    | _ :: rest => do
      let name := s.takeWhile (· != '%')
      let nodes ← parseNodes readArgument rest
      return (if name.isEmpty then .text ['%'] else .attribute name) :: nodes
  | ['$'] => .error .emptyFunctionName
  | '$' :: c :: s =>
    if !isAsciiLetter c then .error .emptyFunctionName
    else
      let name := c :: s.takeWhile isNameChar
      match _h : s.dropWhile isNameChar with
      | [] => .error (.missingArguments name)
      | '(' :: rest =>
        match readArgument with
        | none => .error .tooDeeplyNested
        | some read =>
          match _cut : splitArguments rest with
          | none => .error (.unclosedArguments name)
          | some (args, rest') => do
            let args ← args.mapM read
            let nodes ← parseNodes (some read) rest'
            return .call name args :: nodes
      | c :: _ => .error (.invalidFunctionName c)
  | c :: s => do
    let nodes ← parseNodes readArgument (s.dropWhile isPlain)
    return .text (c :: s.takeWhile isPlain) :: nodes
termination_by s => s.length
decreasing_by
  · have := (List.dropWhile_sublist (l := s) (· != '%')).length_le
    grind
  · have := splitArguments_length _cut
    have := (List.dropWhile_sublist (l := s) isNameChar).length_le
    grind
  · have := (List.dropWhile_sublist (l := s) isPlain).length_le
    grind

def parseWithin : (levels : Nat) → Text → Except PatternError Node
  | 0, s => .list <$> parseNodes none s
  | levels + 1, s => .list <$> parseNodes (some (parseWithin levels)) s

def parse (s : Text) : Except PatternError Node := parseWithin maxNesting s

end Node

end RecordText
