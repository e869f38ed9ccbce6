import RecordText.Text.Quoted

namespace RecordText

def maxNesting : Nat := 64

inductive PatternError where
  | unclosedAttribute
  | emptyFunctionName
  | invalidFunctionName (c : Char)
  | missingArguments (name : Text)
  | unclosedArguments (name : Text)
  | tooDeeplyNested
  deriving DecidableEq, Repr

def PatternError.message : PatternError → Text
  | .unclosedAttribute => "Unclosed attribute '%' in pattern".toList
  | .emptyFunctionName => "Function name must begin with a letter".toList
  | .invalidFunctionName c =>
    "Unexpected character ".toList ++ quoteChar c
      ++ " in function name; names are alphanumeric and end with ()".toList
  | .missingArguments name =>
    "Function call '".toList ++ name ++ "' has no argument list".toList
  | .unclosedArguments name =>
    "Unclosed argument list for function '".toList ++ name ++ "'".toList
  | .tooDeeplyNested =>
    "Function calls nested more than ".toList ++ Text.ofNat maxNesting ++ " levels deep".toList

/-- `missingAttribute` and `invalidState` are for hosts; evaluation does not report them. -/
inductive EvalError where
  | missingFunction (name : Text)
  | missingAttribute (name : Text)
  | syntaxError (detail : Text)
  | invalidState
  deriving DecidableEq, Repr

namespace EvalError

def kind : EvalError → Text
  | .missingFunction _ => "MissingFunction".toList
  | .missingAttribute _ => "MissingAttribute".toList
  | .syntaxError _ => "SyntaxError".toList
  | .invalidState => "InvalidState".toList

def message : EvalError → Text
  | .missingFunction name => "Missing function ".toList ++ name
  | .missingAttribute name => "Missing attribute ".toList ++ name
  | .syntaxError detail => "Syntax error: ".toList ++ detail
  | .invalidState => "Invalid state".toList

end EvalError

def PatternError.toEvalError (e : PatternError) : EvalError := .syntaxError e.message

end RecordText
