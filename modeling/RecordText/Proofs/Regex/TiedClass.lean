import RecordText.Proofs.Regex.ClassReading
import RecordText.Regex.Replace

namespace RecordText.Regex

def ClassSet.members? (s : ClassSet) (negated : Bool) : Option CharSet :=
  (s.chars? .initial).map fun members => if negated then members.complement else members

theorem expr?_bracketed (s : ClassSet) (negated : Bool) :
    (Ast.bracketed s negated).expr? .initial =
      (s.members? negated).map fun members => (.chars members, .initial) := by
  rw [Ast.expr?, ClassSet.members?]
  cases s.chars? .initial <;> rfl

def Ast.front (set : Ast) : Ast := .sequence [.anchor .lineStart, .repeated 1 none true set]

def Ast.back (set : Ast) : Ast := .sequence [.repeated 1 none true set, .anchor .lineEnd]

def Expr.front (members : CharSet) : Expr := .cat (.look .textStart) (.repeated 1 none true (.chars members))

def Expr.back (members : CharSet) : Expr := .cat (.repeated 1 none true (.chars members)) (.look .textEnd)

section Reading

variable (fuel : Nat) (names : List Text) (branches items : List Ast)

theorem readGroup_bracket (s : Text) : readGroup (fuel + 1) false names branches items ('[' :: s) =
    (readClass false (2 * s.length + 2) s).bind fun (set, negated, rest) =>
      readGroup fuel false names branches (.bracketed set negated :: items) rest := rfl

theorem readGroup_plus (set : ClassSet) (negated : Bool) (s : Text) :
    readGroup (fuel + 1) false names branches (.bracketed set negated :: items) ('+' :: s) =
      readGroup fuel false names branches
        (.repeated 1 none (readGreed s).1 (.bracketed set negated) :: items) (readGreed s).2 := rfl

theorem readGreed_of_ne {s : Text} (h : ∀ t, s ≠ '?' :: t) : readGreed s = (true, s) := by
  unfold readGreed
  split
  · next t => exact absurd rfl (h t)
  · rfl

theorem readGroup_class {set : Text} {s : ClassSet} {negated : Bool}
    (h : classBody? set = some (s, negated)) {rest : Text} (hrest : ∀ t, rest ≠ '?' :: t) :
    readGroup (fuel + 2) false names branches items ('[' :: (set ++ ']' :: '+' :: rest)) =
      readGroup fuel false names branches (.repeated 1 none true (.bracketed s negated) :: items) rest := by
  have hfuel : 2 * (set.length + 1) + 2 ≤ 2 * (set ++ ']' :: '+' :: rest).length + 2 := by
    simp only [List.length_append, List.length_cons]
    omega
  rw [readGroup_bracket, readClass_of_classBody? h hfuel, Option.bind_some]
  dsimp only
  rw [readGroup_plus, readGreed_of_ne hrest]

variable {set : Text} {s : ClassSet} {negated : Bool} (h : classBody? set = some (s, negated))

include h

theorem readGroup_front {rest : Text} (hrest : ∀ t, rest ≠ '?' :: t) :
    readGroup (fuel + 3) false names branches [] ('^' :: '[' :: (set ++ ']' :: '+' :: rest)) =
      readGroup fuel false names branches
        [.repeated 1 none true (.bracketed s negated), .anchor .lineStart] rest :=
  readGroup_class fuel names branches _ h hrest

theorem readGroup_back :
    readGroup (fuel + 4) false names branches [] ('[' :: (set ++ [']', '+', '$'])) =
      some (closeGroup branches [.anchor .lineEnd, .repeated 1 none true (.bracketed s negated)],
        names, []) :=
  readGroup_class (fuel + 2) names branches [] h nofun

end Reading

theorem weight_front (members : CharSet) :
    (Expr.front members).weight = charsWeight members + 2 * stateWeight + 8 := by
  simp [Expr.front, Expr.weight, stateWeight]
  omega

theorem weight_back (members : CharSet) :
    (Expr.back members).weight = charsWeight members + 2 * stateWeight + 8 := by
  simp [Expr.back, Expr.weight, stateWeight]

end RecordText.Regex
