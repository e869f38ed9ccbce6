import RecordText.Extractor.Extract

/-!
Matching file paths: the name of the file without its extension, behind as many of the directories
around it as the literals have separators. Both kinds of slash separate, and an empty directory name
counts but adds nothing.
-/

namespace RecordText

def stripExtension (file : Text) : Text :=
  match file.reverse.span (· != '.') with
  | (_ :: _, _ :: stem) => stem.reverse
  | _ => file

def pathTail (directories : Nat) (path : Text) : Text :=
  let parts := (path.map fun c => if isSeparator c then '/' else c).splitOn '/'
  let kept := (parts.dropLast.reverse.take directories).filter (!·.isEmpty)
  kept.foldl (fun tail d => d ++ '/' :: tail) (stripExtension (parts.getLastD []))

def Extractor.extractFrom (e : Extractor) (s : Text) : Extraction :=
  match e.mode with
  | .path => e.extract (pathTail e.separators s)
  | .text => e.extract s

end RecordText
