import RecordText.CharSet.AgeTable
import RecordText.CharSet.BreakTable
import RecordText.CharSet.Property
import RecordText.CharSet.ScriptExtensionTable
import RecordText.CharSet.ScriptTable

namespace RecordText.CharSet

inductive Query where
  | name (n : List Char)
  | value (property value : List Char)
  deriving DecidableEq, Repr

def asciiLower (c : Char) : Char :=
  if 'A' ≤ c && c ≤ 'Z' then Char.ofNat (c.toNat + 32) else c

/-- The form in which names are compared. Only ASCII characters count; `isc` keeps its prefix, since
it abbreviates a property of its own. -/
def looseName (s : List Char) : List Char :=
  let simple := fun (t : List Char) =>
    (t.filter fun c => c.toNat < 0x80 && c != ' ' && c != '_' && c != '-').map asciiLower
  match s with
  | i :: z :: rest =>
    if asciiLower i = 'i' && asciiLower z = 's' then
      if simple rest = ['c'] then "isc".toList else simple rest
    else simple s
  | _ => simple s

def derivedBreak? (kind value : String) : Option CharSet :=
  let georgian := parseRuns "10d0-10fa 10fd-10ff 1c90-1cba 1cbd-1cbf"
  let extend := graphemeExtend.union (category ["mc"])
  let sentenceLower := (lowercase.diff graphemeExtend).diff georgian
  let sentenceUpper := ((category ["lt"]).union uppercase).diff georgian
  let sentenceExtend := extend.union (parseRuns "200d")
  let syllables := ofCodes ((List.range 399).map fun i => 0xAC00 + 28 * i)
  match kind, value with
  | "gcb", "ex" | "gcb", "extend" => some (graphemeExtend.union (property ["emod"]))
  | "gcb", "lv" => some syllables
  | "gcb", "lvt" => some ((range 0xAC00 0xD7A3).diff syllables)
  | "wb", "extend" => some (extend.union (property ["emod"]))
  | "sb", "ex" | "sb", "extend" => some sentenceExtend
  | "sb", "lo" | "sb", "lower" => some sentenceLower
  | "sb", "up" | "sb", "upper" => some sentenceUpper
  | "sb", "le" | "sb", "oletter" =>
    some ((alphabetic.union (parseRuns "5f3")).diff
      (unions [sentenceLower, sentenceUpper, sentenceExtend]))
  | _, _ => none

def break? (kind : String) (table : List Entry) (value : List Char) : Option CharSet :=
  derivedBreak? kind (String.ofList value) <|> find? table value

/-- Everything that was a character in the named version: the sets of that version and before. -/
def age? (value : List Char) : Option CharSet :=
  let older := ageTable.takeWhile (!·.isNamed value)
  (ageTable.drop older.length).head?.map fun e => unions ((older ++ [e]).map Entry.chars)

def ofName? (name : List Char) : Option CharSet :=
  let general := category? name <|> find? scriptTable name
  if name = "cf".toList || name = "sc".toList || name = "lc".toList then general
  else property? name <|> general

def ofValue? (property value : List Char) : Option CharSet :=
  match String.ofList property with
  | "gc" | "generalcategory" => category? value
  | "sc" | "script" => find? scriptTable value
  | "scx" | "scriptextensions" => find? scriptExtensionTable value
  | "age" => age? value
  | "gcb" | "graphemeclusterbreak" => break? "gcb" graphemeBreakTable value
  | "wb" | "wordbreak" => break? "wb" wordBreakTable value
  | "sb" | "sentencebreak" => break? "sb" sentenceBreakTable value
  | _ => none

def Query.chars? : Query → Option CharSet
  | .name n => ofName? (looseName n)
  | .value p v => ofValue? (looseName p) (looseName v)

end RecordText.CharSet
