import SnippetCheck.Command.Run

namespace SnippetCheck.Command

/-- The cause of a failed reading, as far as the system tells it. -/
def readFault : IO.Error → ReadFault
  | .noFileOrDirectory .. => .missing
  | .permissionDenied .. => .denied
  | .inappropriateType _ 21 _ => .directory
  | .inappropriateType .. => .notDirectory
  | error => .other (toString error)

def decodeText (bytes : ByteArray) : Except ReadFault String :=
  match String.fromUTF8? bytes with
  | some text => .ok text
  | none => .error .notText

def readSource : Source → IO (Except ReadFault String)
  | .file name => do
    try
      return decodeText (← IO.FS.readBinFile name)
    catch error =>
      return .error (readFault error)
  | .standardInput => do
    return decodeText (← (← IO.getStdin).readBinToEnd)

end SnippetCheck.Command

open SnippetCheck.Command in
def main (arguments : List String) : IO UInt32 := do
  let outcome ← run readSource arguments
  IO.print outcome.printed
  if let some cause := outcome.error then
    IO.eprintln s!"Error: {cause}"
  if let some advice := outcome.advice then
    IO.eprintln advice
  return outcome.code.toUInt32
