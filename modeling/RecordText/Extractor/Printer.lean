import RecordText.Extractor.Parser

namespace RecordText

def Piece.print : Piece → Text
  | literal s => s.flatMap fun c => if c = '%' then ['%', '%'] else [c]
  | slot name => '%' :: name ++ ['%']

namespace Extractor

def print (e : Extractor) : Text := e.pieces.flatMap Piece.print

def recompile (e : Extractor) : Extractor × Option UnclosedSlot := compile e.print e.mode

end Extractor

end RecordText
