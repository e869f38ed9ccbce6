import RecordText.Library.Basic
import RecordText.Text.Quoted

namespace RecordText.Library

def describe (l : Library) : Text :=
  "FunctionLibrary \x7b functions: [".toList
    ++ ", ".toList.intercalate (l.names.map Text.quoted) ++ "] \x7d".toList

end RecordText.Library
