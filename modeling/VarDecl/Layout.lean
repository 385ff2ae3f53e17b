/-
Layouts of an outline: nested brackets either on one line or one item to a line.

An outline is built from the inside out. A node receives the texts of its parts, already laid out one level further in
(`Layout.inner`), and `enclose` puts its brackets around them: separated by commas in the compact layout; each on a line
of its own, indented by four blanks a level and followed by a comma, in the indented one.
-/
import VarDecl.Text.Basic

namespace VarDecl

/-- on one line, or one item to a line at a depth -/
inductive Layout where
  | compact
  | indented (depth : Nat)
deriving DecidableEq, Repr

namespace Layout

/-- the layout of the parts of a node -/
def inner : Layout → Layout
  | compact => compact
  | indented depth => indented (depth + 1)

/-- a line break and the indentation of a depth -/
def lineBreak (depth : Nat) : Text := '\n' :: List.replicate (4 * depth) ' '

/-- the items between brackets; on one line, `gap` stands inside each bracket -/
def enclose (l : Layout) (opening gap closing : Text) (items : List Text) : Text :=
  match l with
  | compact => opening ++ gap ++ List.intercalate ", ".toList items ++ gap ++ closing
  | indented depth =>
    opening ++ items.flatMap (fun item => lineBreak (depth + 1) ++ item ++ ",".toList) ++ lineBreak depth ++ closing

/-- a node with named parts -/
def record (l : Layout) (name : String) (fields : List (String × Text)) : Text :=
  l.enclose (name.toList ++ " \x7b".toList) " ".toList "\x7d".toList
    (fields.map fun f => f.1.toList ++ ": ".toList ++ f.2)

/-- a node with parts told apart by their order -/
def tuple (l : Layout) (name : String) (items : List Text) : Text :=
  l.enclose (name.toList ++ "(".toList) [] ")".toList items

/-- a sequence of nodes; the empty one has no inside to lay out -/
def sequence (l : Layout) (items : List Text) : Text :=
  if items.isEmpty then "[]".toList else l.enclose "[".toList [] "]".toList items

end Layout

end VarDecl
