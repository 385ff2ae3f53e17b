/-
Outlines of trees: every node with its parts by name, in either layout.

A position, a value and the type of a name are tuples, the other nodes are records, the body of a program is a sequence.
Texts are quoted, so a part ends where its layout says and no text can be mistaken for structure.
-/
import VarDecl.Layout
import VarDecl.Text.Quoted
import VarDecl.Tree.Basic

namespace VarDecl

open Text (Quoted.encode Decimal.ofNat Decimal.ofInt64)

def Position.outline (l : Layout) (p : Position) : Text :=
  l.tuple "Position" [Decimal.ofNat p.offset.toNat, Quoted.encode p.label]

def Span.outline (l : Layout) (s : Span) : Text :=
  l.record "Span" [("start", s.start.outline l.inner), ("end", s.stop.outline l.inner)]

/-- a value, under the name of its kind -/
def Value.outline (l : Layout) : Value → Text
  | .number n => l.tuple "Number" [Decimal.ofInt64 n]
  | .text t => l.tuple "String" [Quoted.encode t]

/-- the type of a name, or that there is none -/
def Name.typeOutline (l : Layout) (n : Name) : Text :=
  match n.typeName with
  | none => "None".toList
  | some typeName => l.tuple "Some" [Quoted.encode typeName]

def Literal.outline (l : Layout) (x : Literal) : Text :=
  l.record "Literal"
    [("value", x.value.outline l.inner), ("raw", Quoted.encode x.raw), ("span", x.span.outline l.inner)]

/-- a declarator, the two parts of its name apart -/
def Declarator.outline (l : Layout) (d : Declarator) : Text :=
  l.record "Declarator"
    [("identifier", Quoted.encode d.name.identifier), ("type_annotation", d.name.typeOutline l.inner),
     ("value", d.literal.outline l.inner), ("span", d.span.outline l.inner)]

def Declaration.outline (l : Layout) (d : Declaration) : Text :=
  l.record "Declaration"
    [("kind", Quoted.encode d.keyword), ("declarator", d.declarator.outline l.inner), ("span", d.span.outline l.inner)]

def Program.outline (l : Layout) (p : Program) : Text :=
  l.record "Program"
    [("body", l.inner.sequence (p.body.map (Declaration.outline l.inner.inner))), ("span", p.span.outline l.inner)]

end VarDecl
