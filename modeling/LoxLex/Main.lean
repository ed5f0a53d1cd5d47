import LoxLex.Command.Run

/-!
# The program

Reads arguments, environment, files and standard input, and writes what a run gives. At the prompt each turn
is written before the next line is read.
-/

namespace LoxLex

/-- The number of a system error, which some calls report as its negative. -/
def errorNumber (code : UInt32) : UInt32 := if code < 0x80000000 then code else 0 - code

def readFailure : IO.Error → ReadFailure
  | .noFileOrDirectory .. => .notFound
  | .permissionDenied .. => .permissionDenied
  | .invalidArgument _ code _ => if errorNumber code = 36 then .nameTooLong else .other "invalid argument"
  | .inappropriateType _ code _ => if errorNumber code = 21 then .isDirectory else .notDirectory
  | e => .other (toString e)

def readScript (path : String) : IO (Except ReadFailure (List UInt8)) := do
  try
    return .ok (← IO.FS.readBinFile path).toList
  catch e =>
    return .error (readFailure e)

def writeOutputs (outputs : List Output) : IO Unit := do
  let stdout ← IO.getStdout
  let stderr ← IO.getStderr
  for o in outputs do
    stdout.putStr o.toStdout
    stderr.putStr o.toStderr
  stdout.flush

partial def readLine (stdin : IO.FS.Stream) (line : List UInt8) : IO (List UInt8) := do
  match (← stdin.read 1).toList with
  | [b] => if b = lineFeed then return (b :: line).reverse else readLine stdin (b :: line)
  | _ => return line.reverse

/-- A line has a character at least, so that one without any is none. -/
def readLine? (stdin : IO.FS.Stream) : IO (Option (List UInt8)) := do
  let line ← readLine stdin []
  return if line.isEmpty then none else some line

def writeOutcome (o : Outcome) : IO Exit := do
  writeOutputs o.outputs
  return o.exit

partial def promptLoop (s : Settings) (stdin : IO.FS.Stream) : IO Exit := do
  writeOutputs [.prompt]
  match s.turn (← readLine? stdin) with
  | .next outputs => writeOutputs outputs; promptLoop s stdin
  | .last o => writeOutcome o

def perform (arguments : List String) : IO Exit := do
  match Job.ofArguments arguments (← IO.getEnv "RUST_LOG") with
  | .answer o => writeOutcome o
  | .run s (some path) => writeOutcome (s.script path (← readScript path))
  | .run s none => promptLoop s (← IO.getStdin)

end LoxLex

def main (arguments : List String) : IO UInt32 := do
  return (← LoxLex.perform arguments).code.toUInt32
