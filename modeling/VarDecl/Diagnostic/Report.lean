/-
Reports: a diagnostic for people, with the offending line and a caret below the offending column.

A report has five parts, each begun on a line of its own: name and tip, label, an empty gutter, the source line behind
its number, and the caret behind the gutter. The source line is shown without its indentation, spaces and tabs, and
without blanks at either end; the caret moves left by the indentation. A caret line is drawn only up to the width that
16 bits can tell, so a report of a column further right is a fault.
-/
import VarDecl.Diagnostic.Basic
import VarDecl.SourceLine
import VarDecl.Text.Blank

namespace VarDecl

namespace Diagnostic

/-- whether a character belongs to the indentation of a line -/
def indents (c : Char) : Bool := c == ' ' || c == '\t'

/-- the greatest width of a caret with its leader -/
def widthLimit : Nat := 65535

/-- the first line: the name, and the tip in parentheses if there is one -/
def heading (d : Diagnostic) : Text :=
  "Error: ".toList ++ d.cause.name.toList ++
    match d.cause.tip? with
    | some tip => " (".toList ++ tip ++ ")".toList
    | none => []

/-- the bar between line numbers and source, right of a number of so many digits -/
def gutter (digits : Nat) : Text := List.leftpad (digits + 2) ' ' "|".toList

/-- a caret with a leader of dashes, of a width in all -/
def caret (width : Nat) : Text := List.leftpad width '-' "^".toList

def report (d : Diagnostic) (source : Text) : Except Fault Text :=
  let line := SourceLine.ofOffset source d.position.offset.toNat
  let number := Text.Decimal.ofNat line.number
  let indentation := line.text.takeWhile indents
  let width := line.column - indentation.length + 1
  if width ≤ widthLimit then
    .ok (List.intercalate "\n".toList
      [d.heading,
       "-> ".toList ++ d.position.label,
       gutter number.length,
       number ++ " | ".toList ++ Text.trim Text.isBlank (line.text.dropWhile indents),
       gutter number.length ++ ' ' :: caret width])
  else .error .columnTooWide

end Diagnostic

end VarDecl
