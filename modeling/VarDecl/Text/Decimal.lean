/-
Decimal notation of signed 64-bit integers.

`ofInt64` writes a minus sign and the digits. `read?` accepts one optional sign, plus or minus, and then one or more ASCII
digits, any number of leading zeros among them; it gives the number up as soon as the digits read pass the largest
magnitude that the sign allows, 2^63 below zero and 2^63 - 1 from zero on.
-/
import VarDecl.Text.Basic

namespace VarDecl

namespace Text.Decimal

/-! ## Writing -/

def ofNat (n : Nat) : Text := Nat.toDigits 10 n

/-- an integer: its digits, after a minus sign if it is negative -/
def ofInt (i : Int) : Text := if i < 0 then '-' :: ofNat i.natAbs else ofNat i.natAbs

def ofInt64 (n : Int64) : Text := ofInt n.toInt

/-! ## Reading -/

/-- the value of an ASCII digit -/
def digit? (c : Char) : Option Nat := if c.isDigit then some (c.toNat - '0'.toNat) else none

/-- carries on a number with further digits, as long as it stays within the limit -/
def extend? (limit : Nat) (n : Nat) : Text → Option Nat
  | [] => some n
  | c :: t =>
    match digit? c with
    | none => none
    | some d => if 10 * n + d ≤ limit then extend? limit (10 * n + d) t else none

/-- a natural number up to the limit, of at least one digit -/
def magnitude? (limit : Nat) : Text → Option Nat
  | [] => none
  | c :: t => extend? limit 0 (c :: t)

/-- the largest magnitude of a negative number, 2^63 -/
def negativeLimit : Nat := 0x8000000000000000

/-- the largest magnitude of any other number, 2^63 - 1 -/
def positiveLimit : Nat := 0x7fffffffffffffff

/-- a signed 64-bit integer with at most one sign, or `none` if the text is anything else or out of range -/
def read? : Text → Option Int64
  | '-' :: t => (magnitude? negativeLimit t).map fun n : Nat => Int64.ofInt (-n)
  | '+' :: t => (magnitude? positiveLimit t).map fun n : Nat => Int64.ofInt n
  | t => (magnitude? positiveLimit t).map fun n : Nat => Int64.ofInt n

example : read? "-9223372036854775808".toList = some (-9223372036854775808) := by decide

example : read? "9223372036854775808".toList = none := by decide

end Text.Decimal

end VarDecl
