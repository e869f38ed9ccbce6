import RecordText.Regex.Matcher
import RecordText.Regex.Reader
import RecordText.Regex.Meaning
import RecordText.Regex.Weight

namespace RecordText

structure Regex where
  expr : Regex.Expr

namespace Regex

def compile? (s : Text) : Option Regex := do
  let (e, _) ← (← Ast.read s).expr? .initial
  if e.fits then some (.mk e) else none

def lengths (r : Regex) (s : Text) : List (Option Nat) := (Matcher.ofExpr r.expr).lengths s

def replaceFirstAt (replacement : Text) : List (Option Nat) → Text → Text
  | some n :: _, s => replacement ++ s.drop n
  | none :: ls, c :: s => c :: replaceFirstAt replacement ls s
  | _, s => s

/-- Replaces every match, from the left and without overlap. `skip` characters belong to the last
match; an empty match directly behind a match, which `adjacent` tells of, does not count. -/
def replaceEachAt (replacement : Text) :
    (skip : Nat) → (adjacent : Bool) → List (Option Nat) → Text → Text
  | skip + 1, _, _ :: ls, _ :: s => replaceEachAt replacement skip true ls s
  | 0, _, some (n + 1) :: ls, _ :: s => replacement ++ replaceEachAt replacement n true ls s
  | 0, adjacent, some 0 :: ls, s =>
    (if adjacent then [] else replacement) ++
      match s with
      | [] => []
      | c :: s => c :: replaceEachAt replacement 0 false ls s
  | 0, _, none :: ls, c :: s => c :: replaceEachAt replacement 0 false ls s
  | _, _, _, _ => []

def replaceFirst (r : Regex) (replacement s : Text) : Text :=
  replaceFirstAt replacement (r.lengths s) s

def replaceEach (r : Regex) (replacement s : Text) : Text :=
  replaceEachAt replacement 0 false (r.lengths s) s

end Regex

end RecordText
