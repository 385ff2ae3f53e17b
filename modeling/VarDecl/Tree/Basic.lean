/-
The tree of a source: a program of declarations, each a keyword and a declarator, each declarator a name and a literal.

Every node but the name and the value carries the span of its text. `source` writes a tree down again: declarations
joined by a semicolon and a space, keyword and declarator by a space, name and value by an assignment sign between
spaces. `Declaration.content` is what a declaration says, wherever it stands and however it was spaced.
-/
import VarDecl.Position
import VarDecl.Strictness
import VarDecl.Tree.Value

namespace VarDecl

/-! ## Nodes -/

/-- a value, with the text that it was read from -/
structure Literal where
  value : Value
  raw : Text
  span : Span
deriving DecidableEq, Repr

/-- a name and the literal assigned to it -/
structure Declarator where
  name : Name
  literal : Literal
  span : Span
deriving DecidableEq, Repr

/-- a keyword, any text without a space, and a declarator -/
structure Declaration where
  keyword : Text
  declarator : Declarator
  span : Span
deriving DecidableEq, Repr

/-- the declarations of a source, in order -/
structure Program where
  body : List Declaration
  span : Span
deriving DecidableEq, Repr

/-- the conventional keyword of a declaration, if it has one -/
def Declaration.keyword? (d : Declaration) : Option Keyword := Keyword.ofText? d.keyword

def Program.label (p : Program) : Text := p.span.start.label

/-! ## Written form -/

def Declarator.source (d : Declarator) : Text := d.name.source ++ " = ".toList ++ d.literal.value.source

def Declaration.source (d : Declaration) : Text := d.keyword ++ ' ' :: d.declarator.source

def Program.source (p : Program) : Text := List.intercalate "; ".toList (p.body.map Declaration.source)

/-! ## Content -/

/-- what a declaration says: a keyword, a name and a value -/
structure Content where
  keyword : Text
  name : Name
  value : Value
deriving DecidableEq, Repr

/-- what a declaration says, apart from spans and from the text that the value was read from -/
def Declaration.content (d : Declaration) : Content := ⟨d.keyword, d.declarator.name, d.declarator.literal.value⟩

def Program.contents (p : Program) : List Content := p.body.map Declaration.content

end VarDecl
