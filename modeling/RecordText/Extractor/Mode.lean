import RecordText.Text.Basic

namespace RecordText

inductive Mode where
  | path
  | text
  deriving DecidableEq, Repr

namespace Mode

def name : Mode → Text
  | path => "path".toList
  | text => "string".toList

def ofName (s : Text) : Except Text Mode :=
  if s = path.name then .ok path
  else if s = text.name then .ok text
  else .error ("unknown extract mode '".toList ++ s ++ "' (expected path or string)".toList)

end Mode

end RecordText
