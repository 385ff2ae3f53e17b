/-
Durations for people: a number of nanoseconds in the largest unit that it fills, with up to nine decimals.
-/
import VarDecl.Text.Decimal

namespace VarDecl.CommandLine

/-- a quantity in units of `10 ^ places`, without closing zeros behind the point -/
def scaled (n places : Nat) (unit : String) : Text :=
  let decimals := List.leftpad places '0' (Text.Decimal.ofNat (n % Nat.pow 10 places))
  let decimals := Text.trimEnd (· == '0') decimals
  Text.Decimal.ofNat (n / Nat.pow 10 places) ++ (if decimals.isEmpty then [] else '.' :: decimals) ++ unit.toList

/-- a number of nanoseconds -/
def duration (nanoseconds : Nat) : Text :=
  if nanoseconds < 1000 then scaled nanoseconds 0 "ns"
  else if nanoseconds < 1000000 then scaled nanoseconds 3 "µs"
  else if nanoseconds < 1000000000 then scaled nanoseconds 6 "ms"
  else scaled nanoseconds 9 "s"

example : duration 1250000 = "1.25ms".toList := by decide

end VarDecl.CommandLine
