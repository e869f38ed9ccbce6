import RecordText.Text.Blank
import RecordText.Text.Case

namespace RecordText.Text

/-- The form in which captures are compared. -/
def normalize (s : Text) : Text :=
  strip isBlank (stripStart (· == '0') (s.lower.filter (· != '_')))

def agrees (s t : Text) : Bool := s.normalize == t.normalize

end RecordText.Text
