/-
Values: what stands to the right of the assignment sign, told apart as number or text.

`Value.ofText` drops the plain spaces around a text and nothing else. What is left is a number if it is the decimal
notation of a signed 64-bit integer (`Text.Decimal.read?`), and stays a text otherwise, its quotation marks included.
-/
import VarDecl.Text.Decimal

namespace VarDecl

inductive Value where
  | number (n : Int64)
  | text (t : Text)
deriving DecidableEq, Repr

namespace Value

def ofText (raw : Text) : Value :=
  let core := raw.trim (· == ' ')
  match Text.Decimal.read? core with
  | some n => number n
  | none => text core

def source : Value → Text
  | number n => Text.Decimal.ofInt64 n
  | text t => t

def number? : Value → Option Int64
  | number n => some n
  | text _ => none

def text? : Value → Option Text
  | number _ => none
  | text t => some t

/-- what a literal of this value is called -/
def kindName : Value → Text
  | number _ => "NumericLiteral".toList
  | text _ => "StringLiteral".toList

end Value

end VarDecl
