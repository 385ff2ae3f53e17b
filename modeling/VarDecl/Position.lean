/-
Positions and spans.

Offsets are byte offsets and are added within 64 bits (`Offset.add`). A position keeps an offset modulo 2^32, together
with the label of the text that it points into; a span is a pair of positions. Since both ends of a span are narrowed
apart, its end may come to lie before its start, and then it has no length (`Span.length`).
-/
import VarDecl.Fault

namespace VarDecl

/-! ## Offsets -/

/-- offsets are below 2^64 -/
def Offset.limit : Nat := 0x10000000000000000

/-- the sum of two offsets, if it is an offset again -/
def Offset.add (a b : Nat) : Except Fault Nat :=
  if a + b < Offset.limit then .ok (a + b) else .error .offsetOverflow

/-! ## Positions -/

/-- a place in a labelled text -/
structure Position where
  offset : UInt32
  label : Text
deriving DecidableEq, Repr

/-- the position at an offset, of which the low 32 bits are kept -/
def Position.ofOffset (label : Text) (offset : Nat) : Position := ⟨UInt32.ofNat offset, label⟩

/-- the position of what lies in no text -/
def Position.null : Position := ⟨0, "<null>".toList⟩

/-! ## Spans -/

/-- a part of a labelled text, from `start` up to but not including `stop` -/
structure Span where
  start : Position
  stop : Position
deriving DecidableEq, Repr

namespace Span

def ofOffsets (label : Text) (start stop : Nat) : Span := ⟨.ofOffset label start, .ofOffset label stop⟩

/-- the number of bytes in a span, if its end does not lie before its start -/
def length (s : Span) : Except Fault Nat :=
  if s.start.offset ≤ s.stop.offset then .ok (s.stop.offset.toNat - s.start.offset.toNat) else .error .spanReversed

/-- whether a span holds no byte, if it has a length -/
def isEmpty (s : Span) : Except Fault Bool := s.length.map (· == 0)

end Span

end VarDecl
