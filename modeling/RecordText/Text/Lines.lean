import RecordText.Text.Basic

/-!
Lines of a text: a line ends at a line feed or at the end of the text, one carriage return directly
before that line feed belongs to the line end, and no empty line follows a final line feed.
-/

namespace RecordText.Text

def endLine (line : Text) : Text :=
  if line.getLast? = some '\r' then line.dropLast else line

def lines (s : Text) : List Text :=
  let parts := s.splitOn '\n'
  parts.dropLast.map endLine ++ parts.getLast?.toList.filter (!·.isEmpty)

end RecordText.Text
