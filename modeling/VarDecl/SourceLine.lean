/-
The line of a source in which a byte offset lies.

`SourceLine.ofOffset` first takes the longest part of the source, from its start on, that fits into the offset: an offset past
the end means the end, one inside a character means the place before that character. The line is numbered from one by
the line feeds before that place, and the column counts the characters since the last of them.
-/
import VarDecl.Text.Basic

namespace VarDecl

/-- a line by number and text, and a column in it -/
structure SourceLine where
  number : Nat
  text : Text
  column : Nat
deriving DecidableEq, Repr

namespace SourceLine

/-- adds to a count the number of characters, from the first on, that fit into so many bytes -/
def countWithin (count room : Nat) : Text → Nat
  | [] => count
  | c :: t => if c.utf8Size ≤ room then countWithin (count + 1) (room - c.utf8Size) t else count

/-- whether a character does not end a line -/
def staysOnLine (c : Char) : Bool := c != '\n'

/-- the line around the place between two texts -/
def between (before after : Text) : SourceLine :=
  let lead := (before.reverse.takeWhile staysOnLine).reverse
  ⟨before.count '\n' + 1, lead ++ after.takeWhile staysOnLine, lead.length⟩

def ofOffset (source : Text) (offset : Nat) : SourceLine :=
  let count := countWithin 0 offset source
  between (source.take count) (source.drop count)

end SourceLine

end VarDecl
