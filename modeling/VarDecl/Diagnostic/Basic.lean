/-
Diagnostics: why a statement is no declaration, and where.

A cause is one of five and keeps the offending text. `Cause.message` names the cause and quotes the text;
`Cause.tip?` says what to do about it, for the causes where something can be said. A diagnostic is a cause at a position.
A reading that gives nothing ends in a `Failure`: a diagnostic, or a fault of the machine numbers.
-/
import VarDecl.Layout
import VarDecl.Position
import VarDecl.Text.Decimal
import VarDecl.Text.Quoted

namespace VarDecl

/-- what is wrong with a statement -/
inductive Cause where
  | missingKeyword (statement : Text)
  | missingAssignment (declarator : Text)
  | unknownKeyword (keyword : Text)
  | invalidIdentifier (identifier : Text)
  | invalidType (typeName : Text)
deriving DecidableEq, Repr

namespace Cause

def name : Cause → String
  | missingKeyword _ => "MissingDeclarationKeyword"
  | missingAssignment _ => "MissingAssignmentOperator"
  | unknownKeyword _ => "UnknownDeclarationKind"
  | invalidIdentifier _ => "InvalidIdentifier"
  | invalidType _ => "InvalidTypeAnnotation"

/-- what the offending text is called -/
def subjectName : Cause → String
  | missingKeyword _ => "statement"
  | missingAssignment _ => "declarator"
  | unknownKeyword _ => "kind"
  | invalidIdentifier _ => "identifier"
  | invalidType _ => "type_annotation"

/-- the offending text -/
def subject : Cause → Text
  | missingKeyword t => t
  | missingAssignment t => t
  | unknownKeyword t => t
  | invalidIdentifier t => t
  | invalidType t => t

/-- the words before the quoted text -/
def complaint : Cause → String
  | missingKeyword _ => "[VariableDeclaration] could not find ' ' in "
  | missingAssignment _ => "[VariableDeclarator] could not find '=' in "
  | unknownKeyword _ => "unknown declaration kind "
  | invalidIdentifier _ => "invalid identifier "
  | invalidType _ => "invalid type annotation "

def message (c : Cause) : Text := c.complaint.toList ++ Text.Quoted.encode c.subject

/-- advice, where there is any -/
def tip? : Cause → Option Text
  | missingKeyword [] => some "Empty statement, is there a trailing or doubled `;`?".toList
  | missingKeyword t =>
    some ("Could not find ' ' in `".toList ++ t ++ "`, expected `<keyword> <declarator>`".toList)
  | missingAssignment t =>
    some ("Could not find `=` in `".toList ++ t ++ "`, every declaration needs a value".toList)
  | unknownKeyword t =>
    some ("Unknown declaration kind `".toList ++ t ++ "`, expected one of `const`, `let`, `var`".toList)
  | invalidIdentifier _ => none
  | invalidType _ => none

end Cause

structure Diagnostic where
  cause : Cause
  position : Position
deriving DecidableEq, Repr

namespace Diagnostic

/-- the wording of a diagnostic: the cause, the label and the offset -/
def message (d : Diagnostic) : Text :=
  d.cause.message ++ " at ".toList ++ d.position.label ++ ':' :: Text.Decimal.ofNat d.position.offset.toNat

end Diagnostic

/-- why a reading gave nothing: the text was rejected, or a machine number did not suffice -/
inductive Failure where
  | rejected (d : Diagnostic)
  | fault (f : Fault)
deriving DecidableEq, Repr

/-- the offset so many bytes further on, within a reading -/
def Offset.advance (offset bytes : Nat) : Except Failure Nat := (Offset.add offset bytes).mapError .fault

theorem Offset.advance_of_lt {offset bytes : Nat} (h : offset + bytes < Offset.limit) :
    Offset.advance offset bytes = .ok (offset + bytes) := by
  rw [Offset.advance, Offset.add, if_pos h]
  rfl

theorem Offset.advance_of_le {offset bytes : Nat} (h : Offset.limit ≤ offset + bytes) :
    Offset.advance offset bytes = .error (.fault .offsetOverflow) := by
  rw [Offset.advance, Offset.add, if_neg (Nat.not_lt.2 h)]
  rfl

end VarDecl
