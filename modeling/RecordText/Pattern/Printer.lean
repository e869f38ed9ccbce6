import RecordText.Pattern.Node

/-!
Writing a tree as the text of a pattern. The text `%` is doubled, and a last argument that writes
nothing is followed by a comma, since an empty last argument is dropped when the text is read.
-/

namespace RecordText.Node

def joinArguments : List Text → Text
  | [] => []
  | [s] => if s.isEmpty then [','] else s
  | s :: rest => s ++ ',' :: joinArguments rest

mutual

def print : Node → Text
  | .text s => if s = ['%'] then ['%', '%'] else s
  | .attribute name => '%' :: name ++ ['%']
  | .call name args => '$' :: name ++ '(' :: joinArguments (printEach args) ++ [')']
  | .list nodes => (printEach nodes).flatten

def printEach : List Node → List Text
  | [] => []
  | n :: ns => n.print :: printEach ns

end

end RecordText.Node
