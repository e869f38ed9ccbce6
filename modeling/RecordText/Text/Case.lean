import RecordText.Text.Basic
import RecordText.Text.CaseTable
import RecordText.CharSet.Cased

/-!
Upper and lower case of texts. The image of a character may be several characters, and the lower
case of a capital sigma depends on where it stands: at the end of a word it is the final form.
-/

namespace RecordText

def mapCase (expansions : List (Nat × List Nat)) (runs : List CaseRun) (c : Char) : Text :=
  match expansions.lookup c.toNat with
  | some ns => ns.map Char.ofNat
  | none =>
    match runs.findSome? (·.image? c.toNat) with
    | some n => [Char.ofNat n]
    | none => [c]

def lowerChar (c : Char) : Text := mapCase lowerExpansions CaseRun.lower c

def upperChar (c : Char) : Text := mapCase upperExpansions CaseRun.upper c

namespace Text

def upper (s : Text) : Text := s.flatMap upperChar

def casedFirst (s : Text) : Bool :=
  match s.dropWhile CharSet.caseIgnorable.contains with
  | [] => false
  | c :: _ => CharSet.cased.contains c

/-- Whether a sigma between two texts ends a word; the text before it is given backwards. -/
def endsWord (before after : Text) : Bool := casedFirst before && !casedFirst after

def lowerFrom (before : Text) : Text → Text
  | [] => []
  | c :: s =>
    (if c = 'Σ' then [if endsWord before s then 'ς' else 'σ'] else lowerChar c)
      ++ lowerFrom (c :: before) s

def lower (s : Text) : Text := lowerFrom [] s

def capitalize : Text → Text
  | [] => []
  | c :: s => upperChar c ++ s

end Text

end RecordText
