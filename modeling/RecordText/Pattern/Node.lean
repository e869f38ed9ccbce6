import RecordText.Text.Basic

namespace RecordText

inductive Node where
  | text (s : Text)
  | attribute (name : Text)
  | call (name : Text) (args : List Node)
  | list (nodes : List Node)
  deriving Inhabited, Repr, BEq

end RecordText
