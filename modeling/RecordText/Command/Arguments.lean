import RecordText.Command.Error
import RecordText.Extractor.Mode
import RecordText.Text.Quoted

/-!
Reading the arguments of a command line: the name of a command, its pattern, and its options. A value
follows its option as the next argument, directly behind the short name, or behind an equals sign;
after `--` everything is taken as it is. The first argument that is refused, from the left, decides.
-/

namespace RecordText

inductive Command where
  | format (pattern : Text) (attributes : List (Text × Text))
  | extract (pattern : Text) (mode : Mode) (display : Option Text)
  | functions
  deriving DecidableEq, Repr

inductive Argument where
  | positional (s : Text)
  | option (o : ValueOption) (value : Text)

namespace Argument

def option? (options : List ValueOption) : Text → Option (ValueOption × Option Text)
  | '-' :: '-' :: s =>
    let (name, value) := match s.span (· != '=') with
      | (name, _ :: value) => (name, some value)
      | (name, []) => (name, none)
    (options.find? (·.long == name)).map fun o => (o, value)
  | '-' :: c :: s =>
    (options.find? (·.short == c)).map fun o =>
      (o, match s with
        | [] => none
        | '=' :: value => some value
        | value => some value)
  | _ => none

def isOptionLike (s : Text) : Bool := ['-'].isPrefixOf s && s != ['-']

def fold {σ : Type} (options : List ValueOption) (take : σ → Argument → Except ArgumentError σ) :
    σ → List Text → Except ArgumentError σ
  | a, [] => .ok a
  | a, ['-', '-'] :: rest => rest.foldlM (fun a s => take a (.positional s)) a
  | a, s :: rest =>
    if !isOptionLike s then do fold options take (← take a (.positional s)) rest
    else
      match option? options s with
      | none => .error (.unexpected s)
      | some (o, some value) => do fold options take (← take a (.option o value)) rest
      | some (o, none) =>
        match rest with
        | [] => .error (.noValue o)
        | value :: rest =>
          if isOptionLike value then .error (.noValue o)
          else do fold options take (← take a (.option o value)) rest

end Argument

def takePattern (pattern : Option Text) (s : Text) : Except ArgumentError (Option Text) :=
  if pattern.isSome then .error (.unexpected s) else .ok (some s)

namespace Command

def setOption : ValueOption := .mk 's' "set".toList "KEY=VALUE".toList

def modeOption : ValueOption := .mk 'm' "mode".toList "MODE".toList

def formatOption : ValueOption := .mk 'f' "format".toList "PATTERN".toList

def readAttribute (s : Text) : Except Text (Text × Text) :=
  match s.span (· != '=') with
  | (_, []) => .error ("expected KEY=VALUE, got ".toList ++ s.quoted)
  | ([], _) => .error ("attribute name is empty in ".toList ++ s.quoted)
  | (name, _ :: value) => .ok (name, value)

structure FormatArguments where
  pattern : Option Text
  attributes : List (Text × Text)

def FormatArguments.take (a : FormatArguments) : Argument → Except ArgumentError FormatArguments
  | .positional s => do return { a with pattern := ← takePattern a.pattern s }
  | .option o value =>
    match readAttribute value with
    | .ok field => .ok { a with attributes := a.attributes ++ [field] }
    | .error reason => .error (.invalidValue o value reason)

structure ExtractArguments where
  pattern : Option Text
  mode : Option Mode
  display : Option Text

def ExtractArguments.take (a : ExtractArguments) : Argument → Except ArgumentError ExtractArguments
  | .positional s => do return { a with pattern := ← takePattern a.pattern s }
  | .option o value =>
    if o = modeOption then
      if a.mode.isSome then .error (.repeated o)
      else match Mode.ofName value with
        | .ok mode => .ok { a with mode := some mode }
        | .error reason => .error (.invalidValue o value reason)
    else if a.display.isSome then .error (.repeated o)
    else .ok { a with display := some value }

def readFormat (args : List Text) : Except ArgumentError Command := do
  let a ← Argument.fold [setOption] FormatArguments.take (.mk none []) args
  match a.pattern with
  | none => .error .noPattern
  | some pattern => .ok (.format pattern a.attributes)

def readExtract (args : List Text) : Except ArgumentError Command := do
  let a ← Argument.fold [modeOption, formatOption] ExtractArguments.take (.mk none none none) args
  match a.pattern with
  | none => .error .noPattern
  | some pattern => .ok (.extract pattern (a.mode.getD .text) a.display)

def readFunctions : List Text → Except ArgumentError Command
  | [] => .ok .functions
  | s :: _ => .error (.unexpected s)

def read : List Text → Except ArgumentError Command
  | [] => .error .noCommand
  | name :: args =>
    if name = "format".toList then readFormat args
    else if name = "extract".toList then readExtract args
    else if name = "functions".toList then readFunctions args
    else if Argument.isOptionLike name then .error (.unexpected name)
    else .error (.unknownCommand name)

end Command

end RecordText
