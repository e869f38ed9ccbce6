import RecordText.Pattern.Evaluate
import RecordText.Pattern.Parser
import RecordText.Text.Case

namespace RecordText.Node

def compile (s : Text) : Except EvalError Node := (parse s).mapError PatternError.toEvalError

def compileOrEmpty (s : Text) : Node × Option EvalError :=
  match compile s with
  | .ok n => (n, none)
  | .error e => (.list [], some e)

def display (l : Library) (r : Record) (n : Node) : Text :=
  match n.evaluate l r with
  | .ok s => s
  | .error e => e.kind

def isFound (l : Library) (r : Record) (term : Text) (n : Node) : Bool :=
  (n.display l r).lower.contains term.lower

end RecordText.Node
