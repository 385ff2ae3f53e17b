/-
The arguments of the command line.

Arguments are read from the left. `-e` takes the argument after it as source, whatever that looks like; any other argument
that begins with a dash has to be a flag; all else names a file. Of several inputs the last one counts. Help is answered
as soon as it is asked for, and a complaint is made as soon as there is one, whatever stands further right.
-/
import VarDecl.Strictness

namespace VarDecl.CommandLine

inductive Flag where
  | help
  | strict
  | tree
  | eval
deriving DecidableEq, Repr

def Flag.ofText? (t : Text) : Option Flag :=
  if t = "--help".toList ∨ t = "-h".toList then some help
  else if t = "--strict".toList ∨ t = "-s".toList then some strict
  else if t = "--tree".toList ∨ t = "-t".toList then some tree
  else if t = "--eval".toList ∨ t = "-e".toList then some eval
  else none

/-- where the source comes from -/
inductive Input where
  | file (path : Text)
  | inline (source : Text)
deriving DecidableEq, Repr

/-- what to read, how strictly, and whether to show the whole tree -/
structure Options where
  strictness : Strictness
  showTree : Bool
  input : Input
deriving DecidableEq, Repr

/-- what a list of arguments asks for -/
inductive Request where
  | help
  | read (options : Options)
deriving DecidableEq, Repr

inductive ArgumentError where
  | missingSource (flag : Text)
  | unknownFlag (argument : Text)
  | missingInput
deriving DecidableEq, Repr

def ArgumentError.message : ArgumentError → Text
  | missingSource flag => flag ++ " expects a source argument".toList
  | unknownFlag argument => "Unknown flag: ".toList ++ argument
  | missingInput => "No input file specified".toList

/-- the options as far as they have been read -/
structure Draft where
  strictness : Strictness := .lenient
  showTree : Bool := false
  input : Option Input := none
deriving DecidableEq, Repr

/-- the request of a draft that nothing follows -/
def Draft.finish (d : Draft) : Except ArgumentError Request :=
  match d.input with
  | some input => .ok (.read ⟨d.strictness, d.showTree, input⟩)
  | none => .error .missingInput

/-- carries on a draft with further arguments -/
def Draft.extend (d : Draft) : List Text → Except ArgumentError Request
  | [] => d.finish
  | argument :: rest =>
    match Flag.ofText? argument with
    | some .help => .ok .help
    | some .strict => extend { d with strictness := .strict } rest
    | some .tree => extend { d with showTree := true } rest
    | some .eval =>
      match rest with
      | [] => .error (.missingSource argument)
      | source :: rest => extend { d with input := some (.inline source) } rest
    | none =>
      if argument.head? = some '-' then .error (.unknownFlag argument)
      else extend { d with input := some (.file argument) } rest

def Request.ofArguments (arguments : List Text) : Except ArgumentError Request := Draft.extend {} arguments

end VarDecl.CommandLine
