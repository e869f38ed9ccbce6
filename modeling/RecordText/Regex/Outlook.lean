/-!
Lengths of matches that hang on one that is not known yet. Where a match is preferred to another, the
first that exists counts, so such a length is either fixed, or the open one with something to fall
back on.
-/

namespace RecordText.Regex

inductive Outlook where
  | fixed (v : Option Nat)
  | through (fallback : Option Nat)
  deriving DecidableEq, Repr

namespace Outlook

def pass : Outlook := through none

def value : Outlook → (k : Option Nat) → Option Nat
  | fixed v, _ => v
  | through v, k => k <|> v

def orElse : Outlook → Outlook → Outlook
  | fixed none, g => g
  | fixed (some n), _ => fixed (some n)
  | through v, fixed w => through (v <|> w)
  | through v, through w => through (v <|> w)

/-- One length as it hangs on another that hangs on the open one; a fixed one hangs on nothing, so
that the other is not asked for. -/
@[macro_inline] def comp (f g : Outlook) : Outlook :=
  match f with
  | fixed v => fixed v
  | through v =>
    match g with
    | fixed w => fixed (w <|> v)
    | through w => through (w <|> v)

def prefer (greedy : Bool) (round out : Outlook) : Outlook :=
  if greedy then round.orElse out else out.orElse round

@[simp] theorem value_pass (k : Option Nat) : pass.value k = k := by simp [pass, value]

@[simp] theorem value_orElse (f g : Outlook) (k : Option Nat) :
    (f.orElse g).value k = (f.value k <|> g.value k) := by
  rcases f with (_ | _) | _ <;> cases g <;> cases k <;> simp [orElse, value]

@[simp] theorem value_comp (f g : Outlook) (k : Option Nat) :
    (f.comp g).value k = f.value (g.value k) := by
  cases f <;> cases g <;> cases k <;> simp [comp, value]

@[simp] theorem value_prefer (greedy : Bool) (f g : Outlook) (k : Option Nat) :
    (prefer greedy f g).value k =
      if greedy then (f.value k <|> g.value k) else (g.value k <|> f.value k) := by
  cases greedy <;> simp [prefer]

end Outlook

end RecordText.Regex
