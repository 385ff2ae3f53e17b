/-
The items of a list of arguments.

`Item.cut` puts together what belongs together, from the left: `-e` and the argument behind it are one item, every other
argument is one of its own. What an item stands for depends on no other item. A terminator is an item that settles the
request by itself (`Item.verdict?`); the other items set an option.
-/
import VarDecl.CommandLine.Arguments

namespace VarDecl.CommandLine

/-- the two ways to write a flag -/
def Flag.spellings : Flag → List Text
  | help => ["-h".toList, "--help".toList]
  | strict => ["-s".toList, "--strict".toList]
  | tree => ["-t".toList, "--tree".toList]
  | eval => ["-e".toList, "--eval".toList]

/-- what one or two arguments stand for -/
inductive Item where
  | help
  | strict
  | tree
  | input (i : Input)
  | mistake (e : ArgumentError)
deriving DecidableEq, Repr

namespace Item

/-- the item of an argument that takes none behind it along -/
def ofArgument (argument : Text) : Item :=
  if argument ∈ Flag.help.spellings then help
  else if argument ∈ Flag.strict.spellings then strict
  else if argument ∈ Flag.tree.spellings then tree
  else if argument.head? = some '-' then mistake (.unknownFlag argument)
  else input (.file argument)

/-- the items of a list of arguments, in order -/
def cut : List Text → List Item
  | [] => []
  | argument :: rest =>
    if argument ∈ Flag.eval.spellings then
      match rest with
      | [] => [mistake (.missingSource argument)]
      | source :: rest => input (.inline source) :: cut rest
    else ofArgument argument :: cut rest

/-- the request that an item settles by itself, if it is a terminator -/
def verdict? : Item → Option (Except ArgumentError Request)
  | help => some (.ok .help)
  | mistake e => some (.error e)
  | _ => none

/-- the input that an item names, if it names one -/
def input? : Item → Option Input
  | input i => some i
  | _ => none

end Item

/-- a draft with the options that items set: the last input counts -/
def Draft.after (d : Draft) (items : List Item) : Draft :=
  { strictness := if Item.strict ∈ items then .strict else d.strictness
    showTree := d.showTree || decide (Item.tree ∈ items)
    input := (items.filterMap Item.input?).getLast?.or d.input }

end VarDecl.CommandLine
