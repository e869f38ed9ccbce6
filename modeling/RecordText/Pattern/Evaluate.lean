import RecordText.Library.Basic
import RecordText.Pattern.Error
import RecordText.Pattern.Node
import RecordText.Record

/-!
Evaluating a display pattern on a record. An attribute that the record lacks is empty. A call looks
its function up before it evaluates its arguments, and the first error ends the evaluation.
-/

namespace RecordText.Node

mutual

def evaluate (l : Library) (r : Record) : Node → Except EvalError Text
  | .text s => .ok s
  | .attribute name => .ok ((r.get? name).getD [])
  | .call name args =>
    match l.get? name with
    | none => .error (.missingFunction name)
    | some f => f <$> evaluateAll l r args
  | .list nodes => List.flatten <$> evaluateAll l r nodes

def evaluateAll (l : Library) (r : Record) : List Node → Except EvalError (List Text)
  | [] => .ok []
  | n :: ns => do
    let s ← n.evaluate l r
    let rest ← evaluateAll l r ns
    return s :: rest

end

end RecordText.Node
