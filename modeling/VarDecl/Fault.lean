/-
Faults: the limits of the machine numbers in which offsets, lengths and widths are kept.

A fault is not a verdict on the text that is read. It says that a sum of offsets does not fit into 64 bits, that the
length of a span does not exist because its end lies before its start, or that a diagnostic would need a line wider than
a width of 16 bits can tell.
-/
import VarDecl.Text.Basic

namespace VarDecl

/-- a limit that was passed -/
inductive Fault where
  | offsetOverflow
  | spanReversed
  | columnTooWide
deriving DecidableEq, Repr

namespace Fault

def message : Fault → Text
  | offsetOverflow => "attempt to add with overflow".toList
  | spanReversed => "attempt to subtract with overflow".toList
  | columnTooWide => "Formatting argument out of range".toList

end Fault

end VarDecl
