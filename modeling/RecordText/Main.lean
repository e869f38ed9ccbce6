import RecordText.Command.Run

namespace RecordText

def readInput : IO ByteArray := do (← IO.getStdin).readBinToEnd

end RecordText

open RecordText in
def main (args : List String) : IO UInt32 := do
  let args := args.map String.toList
  let input ← if argumentsReadInput args then readInput else pure .empty
  let outcome := runArguments args input
  (← IO.getStdout).putStr (String.ofList outcome.output)
  (← IO.getStderr).putStr (String.ofList outcome.error)
  return outcome.code.toUInt32
