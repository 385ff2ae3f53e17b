/-
The pieces of a source and of a source with another one behind it.

Results:
- `Piece.stop_le_of_mem_ofSource`: no piece reaches past the end of the source.
- `Piece.ofSource_append`: the pieces of two sources with a semicolon between them are those of the first and then those
  of the second, shifted by the size of the first and one byte more.
-/
import VarDecl.Piece
import VarDecl.Proofs.Separators

namespace VarDecl

namespace Piece

/-- the same text, so many bytes further on -/
def shift (n : Nat) (p : Piece) : Piece := { p with offset := p.offset + n }

theorem stop_le_stop_shift (p : Piece) (n : Nat) : p.stop ≤ (p.shift n).stop := by
  simp only [stop, shift]
  omega

theorem layFrom_append (offset : Nat) (ts us : List Text) :
    layFrom offset (ts ++ us) = layFrom offset ts ++ layFrom (offset + (Text.ended separator ts).byteLength) us := by
  induction ts generalizing offset with
  | nil => rfl
  | cons t ts ih => simp [layFrom, ih, Nat.add_assoc]

theorem layFrom_add (offset n : Nat) (ts : List Text) :
    layFrom (offset + n) ts = (layFrom offset ts).map (shift n) := by
  induction ts generalizing offset with
  | nil => rfl
  | cons t ts ih =>
    have hnext : offset + n + t.byteLength + separator.utf8Size = offset + t.byteLength + separator.utf8Size + n := by
      omega
    rw [layFrom, hnext, ih]
    rfl

theorem byteLength_ended_splitOn (source : Text) :
    (Text.ended separator (source.splitOn separator)).byteLength = source.byteLength + separator.utf8Size := by
  rw [Text.ended_splitOn, Text.byteLength_append]
  rfl

theorem stop_lt_of_mem_layFrom {offset : Nat} {ts : List Text} {p : Piece} (h : p ∈ layFrom offset ts) :
    p.stop + separator.utf8Size ≤ offset + (Text.ended separator ts).byteLength := by
  induction ts generalizing offset with
  | nil => cases h
  | cons t ts ih =>
    rw [Text.ended_cons, Text.byteLength_append, Text.byteLength_cons]
    rcases List.mem_cons.1 h with rfl | h
    · simp only [stop]
      omega
    · have hlater := ih h
      omega

theorem stop_le_of_mem_ofSource {source : Text} {p : Piece} (h : p ∈ ofSource source) :
    p.stop ≤ source.byteLength := by
  have hstop := stop_lt_of_mem_layFrom h
  rw [byteLength_ended_splitOn] at hstop
  omega

/-- a semicolon between two sources keeps their pieces apart -/
theorem ofSource_append (s t : Text) :
    ofSource (s ++ separator :: t) = ofSource s ++ (ofSource t).map (shift (s.byteLength + separator.utf8Size)) := by
  simp only [ofSource]
  rw [List.splitOn_append_cons_self, layFrom_append, byteLength_ended_splitOn, layFrom_add]

end Piece

end VarDecl
