/-
A run of the command line, as a function of the arguments and of the files.

`Outcome` is what the run leaves behind: the exit code and the two outputs. Standard output of a run that read a source
begins with the time that the reading took, which is not for this function to know; `Outcome.stdout` puts it in.
A run exits with 0 if it gave help or read the whole source, with 101 if a report could not be drawn, and with 1 otherwise.
-/
import VarDecl.CommandLine.Arguments
import VarDecl.Diagnostic.Report
import VarDecl.Session
import VarDecl.Tree.Outline

namespace VarDecl.CommandLine

/-! ## Files -/

inductive FileError where
  | missing
  | directory
  | notText
  | other (reason : Text)
deriving DecidableEq, Repr

def FileError.message : FileError → Text
  | missing => "No such file or directory (os error 2)".toList
  | directory => "Is a directory (os error 21)".toList
  | notText => "stream did not contain valid UTF-8".toList
  | other reason => reason

/-- the text of bytes in UTF-8 -/
def decode (bytes : ByteArray) : Except FileError Text :=
  match String.fromUTF8? bytes with
  | some s => .ok s.toList
  | none => .error .notText

/-! ## Outputs -/

/-- what a run leaves behind: `body` is standard output without the line on the time -/
structure Outcome where
  exitCode : Nat := 0
  timed : Bool := false
  body : Text := []
  stderr : Text := []
deriving DecidableEq, Repr

/-- standard output of a run, given the time that reading took -/
def Outcome.stdout (o : Outcome) (elapsed : Text) : Text :=
  if o.timed then "Parsed in ".toList ++ elapsed ++ '\n' :: o.body else o.body

/-- lines of text, each ended -/
def lines (l : List String) : Text := l.flatMap fun s => s.toList ++ ['\n']

def help : Text :=
  lines
    ["decl-parser - variable declaration parser",
     "",
     "USAGE:",
     "    decl-parser [OPTIONS] <file>",
     "    decl-parser [OPTIONS] --eval <source>",
     "",
     "OPTIONS:",
     "    -e, --eval <source>  Parse the given text instead of a file",
     "    -s, --strict         Only accept const/let/var and plain identifiers",
     "    -t, --tree           Print the full tree",
     "    -h, --help           Show this help message"]

def usage : Text :=
  lines ["Usage: decl-parser [OPTIONS] <file>", "       decl-parser [OPTIONS] --eval <source>"]

/-! ## Listing -/

/-- the line of a listing on one declaration: number, keyword, name and value in columns -/
def listingLine (number : Nat) (d : Declaration) : Text :=
  let value := d.declarator.literal.value
  List.leftpad 4 ' ' (Text.Decimal.ofNat number) ++ ": ".toList ++ List.rightpad 6 ' ' d.keyword ++ ' ' ::
    List.rightpad 12 ' ' d.declarator.name.identifier ++ " : ".toList ++
    List.rightpad 10 ' ' (d.declarator.name.typeName.getD "-".toList) ++ " = ".toList ++ value.kindName ++
    '(' :: value.source ++ ")\n".toList

/-- all declarations of a program, numbered from 0 -/
def listing (p : Program) : Text := p.body.zipIdx.flatMap fun e => listingLine e.2 e.1

/-! ## Runs -/

/-- the outcome of reading a source under a label -/
def respond (options : Options) (label source : Text) : Outcome :=
  match Program.read ⟨label, options.strictness⟩ source with
  | .ok p =>
    { timed := true, body := if options.showTree then p.outline (.indented 0) ++ ['\n'] else listing p }
  | .error (.rejected d) =>
    match d.report source with
    | .ok report => { exitCode := 1, timed := true, stderr := report ++ ['\n'] }
    | .error fault => { exitCode := 101, timed := true, stderr := fault.message ++ ['\n'] }
  | .error (.fault fault) => { exitCode := 101, stderr := fault.message ++ ['\n'] }

/-- the outcome of a request for a source -/
def answer (files : Text → Except FileError ByteArray) (options : Options) : Outcome :=
  match options.input with
  | .inline source => respond options shellLabel source
  | .file path =>
    match files path >>= decode with
    | .ok source => respond options path source
    | .error e =>
      { exitCode := 1,
        stderr := "Failed to read file '".toList ++ path ++ "': ".toList ++ e.message ++ ['\n'] }

def run (files : Text → Except FileError ByteArray) (arguments : List Text) : Outcome :=
  match Request.ofArguments arguments with
  | .ok .help => { body := help }
  | .ok (.read options) => answer files options
  | .error e => { exitCode := 1, stderr := "Error: ".toList ++ e.message ++ '\n' :: usage }

end VarDecl.CommandLine
