import RecordText.Regex.Ast

/-!
How deep a regular expression is nested. Groups, repetitions, sequences, choices, bracketed classes
and their unions and operations each add a level; an expression may have `maxDepth` of them.
-/

namespace RecordText.Regex

def maxDepth : Nat := 250

mutual

def ClassItem.depth : ClassItem → Nat
  | .nested s _ => s.depth + 1
  | _ => 0

def ClassSet.depth : ClassSet → Nat
  | .items l => ClassSet.depthAll l + (if l.length < 2 then 0 else 1)
  | .op _ s t => max s.depth t.depth + 1

def ClassSet.depthAll : List ClassItem → Nat
  | [] => 0
  | i :: l => max i.depth (ClassSet.depthAll l)

end

mutual

def Ast.depth : Ast → Nat
  | .bracketed s _ => s.depth + 1
  | .repeated _ _ _ a => a.depth + 1
  | .capture a => a.depth + 1
  | .group _ a => a.depth + 1
  | .sequence as => Ast.depthAll as + 1
  | .choice as => Ast.depthAll as + 1
  | _ => 0

def Ast.depthAll : List Ast → Nat
  | [] => 0
  | a :: as => max a.depth (Ast.depthAll as)

end

end RecordText.Regex
