/-
Names: what stands to the left of the assignment sign, an identifier and perhaps a type.

`Name.ofText` drops every plain space, wherever it stands, and cuts at the first colon: what follows it is the type, even
if nothing follows. `Name.source` writes a name down with a space after the colon. A part is plain (`Name.isPlain`) if it
consists of ASCII letters, digits and underscores and does not begin with a digit.
-/
import VarDecl.Text.Basic

namespace VarDecl

/-- an identifier, perhaps with a type -/
structure Name where
  identifier : Text
  typeName : Option Text
deriving DecidableEq, Repr

namespace Name

def ofText (left : Text) : Name :=
  let parts : Text := left.filter (· != ' ')
  match parts.cutAt? ':' with
  | none => ⟨parts, none⟩
  | some (identifier, typeName) => ⟨identifier, some typeName⟩

def source (n : Name) : Text :=
  n.identifier ++
    match n.typeName with
    | none => []
    | some typeName => ": ".toList ++ typeName

/-! ## Plain parts -/

/-- whether a character can begin a plain part: an ASCII letter or an underscore -/
def begins (c : Char) : Bool := c.isAlpha || c == '_'

/-- whether a character can stand further right in a plain part: a letter, digit or underscore of ASCII -/
def continues (c : Char) : Bool := c.isAlphanum || c == '_'

def isPlain : Text → Bool
  | [] => false
  | c :: t => begins c && t.all continues

end Name

end VarDecl
