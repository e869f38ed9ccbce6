import RecordText.Extractor.Path
import RecordText.Text.Lines

namespace RecordText

structure Batch where
  columns : List Text
  rows : List Extraction
  deriving DecidableEq, Repr

def Text.isBlankLine (s : Text) : Bool := s.all isBlank

def Batch.ofRows (names : List Text) (rows : List Extraction) : Batch :=
  .mk (names.filter fun n => rows.any (·.captures.has n)) rows

def Extractor.extractLines (e : Extractor) (s : Text) : Batch :=
  .ofRows e.slotNames ((s.lines.filter (!·.isBlankLine)).map e.extractFrom)

end RecordText
