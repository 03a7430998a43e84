import SyscallNames.Invocation
import SyscallNames.Surroundings

set_option autoImplicit false

namespace SyscallNames.Main

def osCode? : IO.Error → Option UInt32
  | .noFileOrDirectory _ code _ => some code
  | .inappropriateType _ code _ => some code
  | .invalidArgument _ code _ => some code
  | .resourceExhausted _ code _ => some code
  | .resourceVanished code _ => some code
  | .otherError code _ => some code
  | _ => none

def toIoError (e : IO.Error) : IoError :=
  match (osCode? e).bind fun code => Errno.ofNumber? (min code (0 - code)).toNat with
  | some errno => .system errno
  | none => .other (toString e)

def readStdin : IO ByteArray := do
  let stream ← IO.getStdin
  let mut content := ByteArray.empty
  repeat
    let chunk ← stream.read 65536
    if chunk.isEmpty then break
    content := content ++ chunk
  return content

def readSource (source : Source) : IO (Except IoError Bytes) := do
  try
    let content ← match source with
      | .stdin => readStdin
      | .file path => IO.FS.readBinFile (String.ofList (Utf8.decodeLossy path))
    return .ok content.toList
  catch e => return .error (toIoError e)

def printBytes (bytes : ByteArray) : IO Unit := do
  let stream ← IO.getStdout
  stream.write bytes
  stream.flush

/-- Ends without a run. That the text cannot be printed is no failure. -/
def stop (reason : CommandLine.Stop) : IO UInt32 := do
  if let .misuse m := reason then IO.eprintln m.message
  try printBytes reason.output.toUTF8 catch _ => pure ()
  return UInt32.ofNat reason.exitCode

def getEnvironment : IO Environment := do
  let logSpec := (← IO.getEnv "RUST_LOG").map fun value => value.toUTF8.toList
  let noColor := (← IO.getEnv "NO_COLOR").isSome
  let terminal ← (← IO.getStderr).isTty
  return { logSpec, noColor, terminal }

def surroundings (log : LogSetup) (view : View) : Surroundings IO where
  tell events := IO.eprint (Event.renderAll log.filter events view)
  read := readSource
  print bytes := do
    try
      printBytes ⟨bytes⟩
      return .ok ()
    catch e => return .error (toIoError e)

def run (options : Options) : IO UInt32 := do
  let environment ← getEnvironment
  let log := logSetup environment.logText options
  IO.eprint log.warnings
  return UInt32.ofNat (← (surroundings log environment.view).run options)

end SyscallNames.Main

open SyscallNames in
def main (arguments : List String) : IO UInt32 := do
  match CommandLine.parse (arguments.map fun a => a.toUTF8.toList) with
  | .ok options => Main.run options
  | .error reason => Main.stop reason
