/-! The command line: what its arguments ask for. -/

namespace FirstMatch.Session

/-- How to run: whether to report progress, whether to show trees instead of tokens, and the file
to read instead of prompting. -/
structure Options where
  debug : Bool := false
  tree : Bool := false
  file : Option String := none
  deriving DecidableEq

inductive Request where
  | help
  | version
  | misuse
  | run (options : Options)
  deriving DecidableEq

inductive Argument where
  | debug
  | tree
  | help
  | version
  /-- What follows is not read as options. -/
  | separator
  | file (name : String)
  | unknown
  deriving DecidableEq

namespace Argument

/-- Of short options written together only the first matters: both of them end the reading. -/
def ofString (arg : String) : Argument :=
  match arg with
  | "--" => separator
  | "--debug" => debug
  | "--parse" => tree
  | "--help" => help
  | "--version" => version
  | _ =>
    match arg.toList with
    | '-' :: 'h' :: _ => help
    | '-' :: 'V' :: _ => version
    | '-' :: _ :: _ => unknown
    | _ => file arg

end Argument

namespace Request

/-- A file may be named once, and not by an empty name. -/
def withFile (o : Options) (name : String) (go : Options → Request) : Request :=
  if name.isEmpty || o.file.isSome then misuse else go { o with file := some name }

def ofFiles (o : Options) : List String → Request
  | [] => run o
  | name :: rest => withFile o name (ofFiles · rest)

/-- Reads arguments from left to right; the first that ends the reading decides. -/
def ofArguments (o : Options) : List String → Request
  | [] => run o
  | arg :: rest =>
    match Argument.ofString arg with
    | .help => help
    | .version => version
    | .unknown => misuse
    | .separator => ofFiles o rest
    | .debug => if o.debug then misuse else ofArguments { o with debug := true } rest
    | .tree => if o.tree then misuse else ofArguments { o with tree := true } rest
    | .file name => withFile o name (ofArguments · rest)

end Request

def helpText : String :=
  "Tools to help with lexing and parsing languages\n\n" ++
  "Usage: parsekit [OPTIONS] [FILE]\n\n" ++
  "Arguments:\n" ++
  "  [FILE]  Source file to process. Starts an interactive prompt when omitted\n\n" ++
  "Options:\n" ++
  "      --debug    Run in debug mode\n" ++
  "      --parse    Print the syntax tree instead of the tokens\n" ++
  "  -h, --help     Print help\n" ++
  "  -V, --version  Print version\n"

def versionText : String := "parsekit 0.1.0\n"

end FirstMatch.Session
