import RecordText.Command.Run
import RecordText.Extractor.Complexity
import RecordText.Extractor.Printer
import RecordText.Library.Printer
import RecordText.Main
import RecordText.Pattern.Printer
import RecordText.Proofs.Pattern.Arguments
import RecordText.Proofs.Pattern.Reading
import RecordText.Proofs.Pattern.Canonical
import RecordText.Proofs.Pattern.RoundTrip
import RecordText.Proofs.Pattern.Grammar
import RecordText.Proofs.Extractor.Display
import RecordText.Proofs.Extractor.Recovery
import RecordText.Proofs.Extractor.Matching
import RecordText.Proofs.Extractor.Success
import RecordText.Proofs.Extractor.Reproduction
import RecordText.Proofs.Extractor.Serialization
import RecordText.Proofs.Extractor.Literals
import RecordText.Proofs.Pattern.Evaluation
import RecordText.Proofs.Pattern.Concatenation
import RecordText.Proofs.Extractor.Merging
import RecordText.Proofs.Extractor.Building
import RecordText.Proofs.Extractor.Construction
import RecordText.Proofs.Extractor.Paths
import RecordText.Proofs.Extractor.Separators
import RecordText.Proofs.Extractor.Batches
import RecordText.Proofs.Command.Extraction
import RecordText.Proofs.Extractor.Stopping
import RecordText.Proofs.Extractor.Captures
import RecordText.Proofs.Extractor.Collapsing
import RecordText.Proofs.Text.LowerCase
import RecordText.Proofs.Text.SingleLine
import RecordText.Proofs.Library.SingleLine
import RecordText.Proofs.Pattern.SingleLine
import RecordText.Proofs.Extractor.SingleLine
import RecordText.Proofs.Command.OutputLines
import RecordText.Proofs.Extractor.Continuation
import RecordText.Proofs.Text.WordEnds
import RecordText.Proofs.Pattern.Search
import RecordText.Proofs.Text.Stripping
import RecordText.Proofs.Extractor.Agreement
import RecordText.Proofs.Extractor.Underscores
import RecordText.Proofs.Extractor.Numerals
import RecordText.Proofs.Library.ZeroPadding
import RecordText.Proofs.Regex.Replacing
import RecordText.Proofs.CharSet.Members
import RecordText.Proofs.Regex.ClassReading
import RecordText.Proofs.Library.Trimming
import RecordText.Proofs.Regex.TiedClass
import RecordText.Proofs.Extractor.Reachable
import RecordText.Proofs.Extractor.Unclosed
import RecordText.Proofs.Pattern.Dependence
import RecordText.Proofs.Regex.PlainWord
import RecordText.Proofs.Library.Replacing
import RecordText.Proofs.Pattern.Closing
import RecordText.Proofs.Library.Insertion
import RecordText.Proofs.Extractor.CrossChecks
