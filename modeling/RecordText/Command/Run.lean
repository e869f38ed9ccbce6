import RecordText.Command.Arguments
import RecordText.Extractor.Batch
import RecordText.Extractor.Parser
import RecordText.Library.Builtin
import RecordText.Pattern.Display

namespace RecordText

structure Outcome where
  code : Nat
  output : Text
  error : Text
  deriving DecidableEq, Repr

namespace Outcome

def failed (message : Text) : Outcome := .mk 1 [] ("Error: ".toList ++ message ++ ['\n'])

end Outcome

def unlines (lines : List Text) : Text := lines.flatMap (· ++ ['\n'])

def readDisplay (pattern : Text) : Except Text Node :=
  (Node.parse pattern).mapError fun e =>
    "Invalid pattern ".toList ++ pattern.quoted ++ ": ".toList ++ e.message

def Extraction.cells (columns : List Text) (x : Extraction) : List Text :=
  (columns.filterMap fun c => (x.captures.get? c).map fun value => c ++ '=' :: value)
    ++ x.message?.toList

def Extraction.row (columns : List Text) (x : Extraction) : Text :=
  ['\t'].intercalate (x.cells columns)

def Extraction.line (columns : List Text) (display : Option Node) (x : Extraction) : Text :=
  match display with
  | none => x.row columns
  | some node => if x.isOk then node.display .builtin x.captures else x.row columns

def Batch.outcome (display : Option Node) (b : Batch) : Outcome :=
  .mk (if b.rows.all Extraction.isOk then 0 else 1)
    (unlines (b.rows.map (Extraction.line b.columns display))) []

namespace Command

def runFormat (pattern : Text) (attributes : List (Text × Text)) : Outcome :=
  match readDisplay pattern with
  | .error message => .failed message
  | .ok node =>
    match node.evaluate .builtin (.ofList attributes) with
    | .error e => .failed e.message
    | .ok s => .mk 0 (unlines [s]) []

def runExtract (pattern : Text) (mode : Mode) (display : Option Text) (input : ByteArray) : Outcome :=
  match Extractor.compile pattern mode with
  | (_, some e) => .failed e.message
  | (e, none) =>
    match display.mapM readDisplay with
    | .error message => .failed message
    | .ok node =>
      match String.fromUTF8? input with
      | none => .failed "Failed to read stdin: stream did not contain valid UTF-8".toList
      | some s => (e.extractLines s.toList).outcome node

def run (c : Command) (input : ByteArray) : Outcome :=
  match c with
  | .format pattern attributes => runFormat pattern attributes
  | .extract pattern mode display => runExtract pattern mode display input
  | .functions => .mk 0 (unlines Library.builtin.names) []

def readsInput : Command → Bool
  | .extract _ _ _ => true
  | _ => false

theorem run_eq_of_not_readsInput {c : Command} (h : ¬ c.readsInput) (input input' : ByteArray) :
    c.run input = c.run input' := by
  cases c with
  | format pattern attributes => rfl
  | extract pattern mode display => exact absurd rfl h
  | functions => rfl

end Command

def runArguments (args : List Text) (input : ByteArray) : Outcome :=
  match Command.read args with
  | .error e => .mk 2 [] (e.message ++ ['\n'])
  | .ok c => c.run input

def argumentsReadInput (args : List Text) : Bool :=
  match Command.read args with
  | .error _ => false
  | .ok c => c.readsInput

/-- Input that is not read need not be there. -/
theorem runArguments_eq_of_not_argumentsReadInput {args : List Text} (h : ¬ argumentsReadInput args)
    (input input' : ByteArray) : runArguments args input = runArguments args input' := by
  rw [argumentsReadInput] at h
  rw [runArguments, runArguments]
  cases hread : Command.read args with
  | error e => rfl
  | ok c =>
    rw [hread] at h
    exact c.run_eq_of_not_readsInput h input input'

end RecordText
