import RecordText.Text.Basic

namespace RecordText

structure ValueOption where
  short : Char
  long : Text
  value : Text
  deriving DecidableEq, Repr

namespace ValueOption

def usage (o : ValueOption) : Text := "--".toList ++ o.long ++ " <".toList ++ o.value ++ ['>']

end ValueOption

inductive ArgumentError where
  | noCommand
  | unknownCommand (name : Text)
  | noPattern
  | unexpected (argument : Text)
  | noValue (o : ValueOption)
  | repeated (o : ValueOption)
  | invalidValue (o : ValueOption) (value reason : Text)
  deriving DecidableEq, Repr

def ArgumentError.message : ArgumentError → Text
  | noCommand => "error: a command is required: format, extract or functions".toList
  | unknownCommand name => "error: unrecognized subcommand '".toList ++ name ++ ['\'']
  | noPattern => "error: the following required arguments were not provided:".toList
  | unexpected argument => "error: unexpected argument '".toList ++ argument ++ "' found".toList
  | noValue o =>
    "error: a value is required for '".toList ++ o.usage ++ "' but none was supplied".toList
  | repeated o =>
    "error: the argument '".toList ++ o.usage ++ "' cannot be used multiple times".toList
  | invalidValue o value reason =>
    "error: invalid value '".toList ++ value ++ "' for '".toList ++ o.usage ++ "': ".toList ++ reason

end RecordText
