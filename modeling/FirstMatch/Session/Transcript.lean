import FirstMatch.Declarations.Language
import FirstMatch.Session.Arguments
import FirstMatch.Session.Folder

/-! Sessions: what a run of the command prints and logs, for a file or line by line at a prompt. -/

namespace FirstMatch.Session

open Text Declarations

inductive Mode where
  | tokens
  | tree
  deriving DecidableEq

/-- The printed form of one input, or the message of its failure, and what was logged on the way. -/
structure Answer where
  result : Except String String
  log : List Log.Line

namespace Answer

def ofInput (mode : Mode) (input : String) : Answer :=
  match mode with
  | .tokens =>
    let report := (lexer : Lexing.Config Unit).lex () input
    let shown := report.result.map fun tokens =>
      (Outline.list (tokens.map Token.outline)).indented 0 ++ "\n"
    ⟨shown.mapError Lexing.Error.message, report.log.map Lexing.Event.line⟩
  | .tree =>
    let report := (parser : Parsing.Parser Node Unit).parse () input
    let shown := report.result.map fun nodes => (File.mk nodes).outline.indented 0 ++ "\n"
    ⟨shown.mapError Parsing.Error.message, report.log⟩

end Answer

def errorLine (message : String) : Log.Line := ⟨.error, "parsekit::cli", message, []⟩

/-- A finished run. -/
structure Transcript where
  exit : UInt8 := 0
  output : String := ""
  log : List Log.Line := []

namespace Transcript

/-- A transcript with output and log lines put before it. -/
def after (output : String) (log : List Log.Line) (t : Transcript) : Transcript :=
  { t with output := output ++ t.output, log := log ++ t.log }

def failed (message : String) : Transcript := { exit := 1, log := [errorLine message] }

/-- The lines of the log that are shown: progress only when asked for, and never each attempt. -/
def shown (debug : Bool) (t : Transcript) : Transcript :=
  let visible (level : Log.Level) : Bool :=
    match level with
    | .trace => false
    | .debug => debug
    | .warn | .error => true
  { t with log := t.log.filter (visible ·.level) }

end Transcript

def notText : String := "stream did not contain valid UTF-8"

/-- Runs on the contents of a file. -/
def runFile (mode : Mode) (path : String) (contents : Except String ByteArray) : Transcript :=
  let text := contents.bind fun bytes =>
    match String.fromUTF8? bytes with
    | some text => .ok text
    | none => .error notText
  match text with
  | .error message => .failed ("cannot read " ++ path ++ ": " ++ message)
  | .ok text =>
    let answer := Answer.ofInput mode text
    let read : Log.Line :=
      ⟨.debug, "parsekit::cli", "read input",
        [("path", path), ("bytes", toString text.utf8ByteSize)]⟩
    Transcript.after "" (read :: answer.log) <|
      match answer.result with
      | .ok output => { output }
      | .error message => .failed message

namespace Prompt

def banner : String :=
  "Welcome to parsekit! To exit, either type \"exit\" or press enter twice.\n\n"

def mark : String := "> "

def farewell : String := "Detected two consecutive ENTER presses. Exiting.\n"

def trimEnd (line : String) : String :=
  String.ofList (line.toList.reverse.dropWhile isWhitespace).reverse

/-- The reaction to one line: the session goes on, with a note whether the line was blank, or it
ends. -/
inductive Reply where
  | more (output : String) (log : List Log.Line) (blank : Bool)
  | done (transcript : Transcript)

/-- Reacts to a line, where `afterBlank` says whether the line before it was blank.  A line that is
not text is none. -/
def reply (mode : Mode) (afterBlank : Bool) (line : Option String) : Reply :=
  match line.map trimEnd with
  | none => .done (.failed notText)
  | some "" => if afterBlank then .done { output := farewell } else .more "" [] true
  | some "exit" => .done {}
  | some text =>
    let answer := Answer.ofInput mode text
    match answer.result with
    | .ok output => .more output answer.log false
    | .error message => .more "" (answer.log ++ [errorLine message]) false

/-- Prompts for each line until one ends the session or there are no more. -/
def converse (mode : Mode) (afterBlank : Bool) : List (Option String) → Transcript
  | [] => { output := mark }
  | line :: rest =>
    match reply mode afterBlank line with
    | .more output log blank => (converse mode blank rest).after (mark ++ output) log
    | .done last => last.after mark []

/-- The pieces between line feeds; nothing follows a line feed at the end. -/
def splitLines : List UInt8 → List UInt8 → List (List UInt8)
  | piece, [] => if piece.isEmpty then [] else [piece.reverse]
  | piece, byte :: rest =>
    if byte = 10 then piece.reverse :: splitLines [] rest else splitLines (byte :: piece) rest

/-- The lines of a byte stream, with none for a line that is not text. -/
def lines (bytes : ByteArray) : List (Option String) :=
  (splitLines [] bytes.toList).map fun line => String.fromUTF8? ⟨line.toArray⟩

def run (mode : Mode) (lines : List (Option String)) : Transcript :=
  (converse mode false lines).after banner []

end Prompt

def Options.mode (o : Options) : Mode := if o.tree then .tree else .tokens

/-- Runs the command on its arguments, with what stands in its folder and what is typed at it. -/
def run (args : List String) (folder : Folder) (typed : ByteArray) : Transcript :=
  match Request.ofArguments {} args with
  | .help => { output := helpText }
  | .version => { output := versionText }
  | .misuse => { exit := 2 }
  | .run options =>
    Transcript.shown options.debug <|
      match options.file with
      | some path =>
        runFile options.mode path ((folder.read path).mapError ReadFailure.message)
      | none => Prompt.run options.mode (Prompt.lines typed)

end FirstMatch.Session
