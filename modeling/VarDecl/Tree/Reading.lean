/-
Reading literals, declarators and declarations.

A declaration is a keyword, a space and a declarator, between blanks; a declarator is a name, an assignment sign and a
value. Each reader is told at which offset its text begins and works out every span from there, one sum of offsets after
the other; a sum that is no offset any more is a fault, and it counts where it stands: before a later complaint, after
an earlier one.
-/
import VarDecl.Diagnostic.Basic
import VarDecl.Piece
import VarDecl.Text.Blank
import VarDecl.Tree.Basic

namespace VarDecl

/-- what every statement of a source is read under -/
structure Setting where
  label : Text
  strictness : Strictness := .lenient
deriving DecidableEq, Repr

/-- the failure to read because of a cause at an offset -/
def Setting.rejection (s : Setting) (cause : Cause) (offset : Nat) : Failure :=
  .rejected ⟨cause, .ofOffset s.label offset⟩

/-- what a strictness has against a name: the identifier is looked at first -/
def Strictness.nameCause? (s : Strictness) (n : Name) : Option Cause :=
  if s.admitsPart n.identifier then (n.typeName.filter (!s.admitsPart ·)).map .invalidType
  else some (.invalidIdentifier n.identifier)

/-- the literal of the text right of an assignment sign -/
def Literal.read (setting : Setting) (raw : Text) (offset : Nat) : Except Failure Literal := do
  let stop ← Offset.advance offset raw.byteLength
  return ⟨.ofText raw, raw, .ofOffsets setting.label offset stop⟩

theorem Literal.read_eq (setting : Setting) (raw : Text) (offset : Nat) :
    Literal.read setting raw offset =
      if offset + raw.byteLength < Offset.limit then
        .ok ⟨.ofText raw, raw, .ofOffsets setting.label offset (offset + raw.byteLength)⟩
      else .error (.fault .offsetOverflow) := by
  unfold Literal.read
  split
  · rename_i h
    rw [Offset.advance_of_lt h]
    rfl
  · rename_i h
    rw [Offset.advance_of_le (Nat.not_lt.1 h)]
    rfl

/-- the declarator of a text that begins at an offset -/
def Declarator.read (setting : Setting) (text : Text) (offset : Nat) : Except Failure Declarator := do
  let some (left, raw) := text.cutAt? '=' | throw (setting.rejection (.missingAssignment text) offset)
  let literalOffset ← Offset.advance (← Offset.advance offset left.byteLength) 1
  let literal ← Literal.read setting raw literalOffset
  let name := Name.ofText left
  if let some cause := setting.strictness.nameCause? name then throw (setting.rejection cause offset)
  let stop ← Offset.advance offset text.byteLength
  return ⟨name, literal, .ofOffsets setting.label offset stop⟩

def Declaration.read (setting : Setting) (piece : Piece) : Except Failure Declaration := do
  let statement := piece.text.trim Text.isBlank
  let start ← Offset.advance piece.offset (Text.byteLength (piece.text.takeWhile Text.isBlank))
  let some (keyword, text) := statement.cutAt? ' ' | throw (setting.rejection (.missingKeyword statement) start)
  unless setting.strictness.admitsKeyword keyword do throw (setting.rejection (.unknownKeyword keyword) start)
  let offset ← Offset.advance (← Offset.advance start keyword.byteLength) 1
  let declarator ← Declarator.read setting text offset
  let stop ← Offset.advance start statement.byteLength
  return ⟨keyword, declarator, .ofOffsets setting.label start stop⟩

end VarDecl
