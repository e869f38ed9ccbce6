import RecordText.CharSet.Cased
import RecordText.CharSet.Category
import RecordText.CharSet.PropertyTable
import RecordText.Text.Blank
import RecordText.Text.CaseTable

namespace RecordText.CharSet

def property (names : List String) : CharSet := named propertyTable names

def whiteSpace : CharSet :=
  ofRanges [(0x09, 0x0D), (0x20, 0x20), (0x85, 0x85), (0xA0, 0xA0), (0x1680, 0x1680),
    (0x2000, 0x200A), (0x2028, 0x2029), (0x202F, 0x202F), (0x205F, 0x205F), (0x3000, 0x3000)]

def lowercase : CharSet := (category ["ll"]).union (property ["olower"])

def uppercase : CharSet := (category ["lu"]).union (property ["oupper"])

def alphabetic : CharSet :=
  unions [letter, category ["nl"], property ["olower", "oupper", "oalpha"]]

def graphemeExtend : CharSet := (category ["me", "mn"]).union (property ["ogrext"])

def graphemeBase : CharSet :=
  assigned.diff ((category ["cc", "cf", "co", "zl", "zp"]).union graphemeExtend)

def defaultIgnorable : CharSet :=
  (unions [property ["odi"], category ["cf"], property ["vs"]]).diff
    ((ofRanges [(0xFFF9, 0xFFFB), (0x13430, 0x1343F)]).union (property ["pcm"]))

def syntactic : CharSet := property ["patsyn", "patws"]

def idStart : CharSet :=
  (unions [letter, category ["nl"], property ["oids"]]).diff syntactic

def idContinue : CharSet :=
  (unions [idStart, category ["mn", "mc", "nd", "pc"], property ["oidc"]]).diff syntactic

/-- Members of an identifier that a compatibility normal form would take out of it. -/
def unstableContinue : CharSet :=
  parseRuns "37a 309b-309c fc5e-fc63 fdfa-fdfb fe70 fe72 fe74 fe76 fe78 fe7a fe7c fe7e"

def unstableStart : CharSet := unstableContinue.union (parseRuns "e33 eb3 ff9e-ff9f")

def mappedBy (expansions : List (Nat × List Nat)) (runs : List CaseRun) : CharSet :=
  ofCodes (expansions.map (·.1) ++ runs.flatMap fun r => r.pairs.map (·.1))

def changesWhenLowercased : CharSet := mappedBy lowerExpansions CaseRun.lower

def changesWhenUppercased : CharSet := mappedBy upperExpansions CaseRun.upper

/-- Title case differs from upper case for digraphs, for Greek letters with an iota and in Georgian. -/
def changesWhenTitlecased : CharSet :=
  (changesWhenUppercased.diff
    (parseRuns "1c5 1c8 1cb 1f2 10d0-10fa 10fd-10ff 1f88-1f8f 1f98-1f9f 1fa8-1faf 1fbc 1fcc 1ffc"))
    |>.union (parseRuns "1c4 1c7 1ca 1f1")

def derivedProperty? (name : List Char) : Option CharSet :=
  match String.ofList name with
  | "wspace" | "whitespace" | "space" => some whiteSpace
  | "cased" => some cased
  | "ci" | "caseignorable" => some caseIgnorable
  | "lower" | "lowercase" => some lowercase
  | "upper" | "uppercase" => some uppercase
  | "alpha" | "alphabetic" => some alphabetic
  | "math" => some ((category ["sm"]).union (property ["omath"]))
  | "grext" | "graphemeextend" => some graphemeExtend
  | "grbase" | "graphemebase" => some graphemeBase
  | "di" | "defaultignorablecodepoint" => some defaultIgnorable
  | "ids" | "idstart" => some idStart
  | "idc" | "idcontinue" => some idContinue
  | "xids" | "xidstart" => some (idStart.diff unstableStart)
  | "xidc" | "xidcontinue" => some (idContinue.diff unstableContinue)
  | "cwl" | "changeswhenlowercased" => some changesWhenLowercased
  | "cwu" | "changeswhenuppercased" => some changesWhenUppercased
  | "cwt" | "changeswhentitlecased" => some changesWhenTitlecased
  | "cwcm" | "changeswhencasemapped" =>
    some (unions [changesWhenLowercased, changesWhenUppercased, changesWhenTitlecased])
  | _ => none

def property? (name : List Char) : Option CharSet :=
  derivedProperty? name <|> find? propertyTable name

def word : CharSet :=
  unions [alphabetic, mark, decimalDigit, category ["pc"], property ["joinc"]]

def asciiDigit : CharSet := ofRanges [(0x30, 0x39)]

def asciiSpace : CharSet := ofRanges [(0x09, 0x0D), (0x20, 0x20)]

def asciiWord : CharSet := ofRanges [(0x30, 0x39), (0x41, 0x5A), (0x5F, 0x5F), (0x61, 0x7A)]

end RecordText.CharSet
