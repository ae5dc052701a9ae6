import FirstMatch.Session.Transcript

/-! The command: reads its arguments, files and standard input, and prints what the session says. -/

namespace FirstMatch.Session

/-- Prints the lines of a log that are shown to standard error. -/
def printLog (debug : Bool) (log : List Log.Line) : IO Unit := do
  for line in (Transcript.shown debug { log }).log do
    IO.eprintln line.render

def print (debug : Bool) (t : Transcript) : IO UInt32 := do
  IO.print t.output
  printLog debug t.log
  return t.exit.toUInt32

def readFile (path : String) : IO (Except String ByteArray) := do
  try
    return .ok (← IO.FS.readBinFile path)
  catch
    | .noFileOrDirectory .. => return .error ReadFailure.missing.message
    | .inappropriateType _ 21 _ => return .error ReadFailure.isDirectory.message
    | .inappropriateType _ 20 _ => return .error ReadFailure.notDirectory.message
    | .invalidArgument _ 36 _ => return .error ReadFailure.nameTooLong.message
    | error => return .error error.toString

/-- Reads a line; `some none` is a line that is not text, and `none` the end of the input. -/
def readLine (stdin : IO.FS.Stream) : IO (Option (Option String)) := do
  try
    let line ← stdin.getLine
    return if line.isEmpty then none else some (some line)
  catch _ => return some none

partial def prompt (options : Options) (stdin : IO.FS.Stream) (afterBlank : Bool) : IO UInt32 := do
  IO.print Prompt.mark
  (← IO.getStdout).flush
  match ← readLine stdin with
  | none => return 0
  | some line =>
    match Prompt.reply options.mode afterBlank line with
    | .more output log blank =>
      IO.print output
      printLog options.debug log
      prompt options stdin blank
    | .done last => print options.debug last

def command (args : List String) : IO UInt32 := do
  match Request.ofArguments {} args with
  | .help => print false { output := helpText }
  | .version => print false { output := versionText }
  | .misuse => print false { exit := 2 }
  | .run options =>
    match options.file with
    | some path => print options.debug (runFile options.mode path (← readFile path))
    | none =>
      IO.print Prompt.banner
      prompt options (← IO.getStdin) false

end FirstMatch.Session

def main (args : List String) : IO UInt32 := FirstMatch.Session.command args
