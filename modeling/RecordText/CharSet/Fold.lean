import RecordText.CharSet.FoldTable
import RecordText.CharSet.Basic

namespace RecordText.CharSet

def fold (s : CharSet) : CharSet :=
  s.union (ofCodes ((foldClasses.filter (·.any s.covers)).flatten))

def foldAscii (s : CharSet) : CharSet :=
  let letters := (List.range 26).map fun i => ['A'.toNat + i, 'a'.toNat + i]
  s.union (ofCodes ((letters.filter (·.any s.covers)).flatten))

end RecordText.CharSet
