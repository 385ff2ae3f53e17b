/-
Pieces: the parts of a source between semicolons, each with the byte offset at which it begins.

`ofSource` cuts at every semicolon, so a source has one piece more than it has semicolons (`length_ofSource`), and the
empty source has one empty piece. A piece begins one byte after the end of the piece before it.
-/
import VarDecl.Text.Basic

namespace VarDecl

/-- a part of a source and where it begins -/
structure Piece where
  text : Text
  offset : Nat
deriving DecidableEq, Repr

namespace Piece

def separator : Char := ';'

/-- the offset just past a piece -/
def stop (p : Piece) : Nat := p.offset + p.text.byteLength

/-- lays texts one after another from an offset on, with a separator after each -/
def layFrom (offset : Nat) : List Text → List Piece
  | [] => []
  | t :: ts => ⟨t, offset⟩ :: layFrom (offset + t.byteLength + separator.utf8Size) ts

def ofSource (source : Text) : List Piece := layFrom 0 (source.splitOn separator)

theorem map_text_layFrom (offset : Nat) (ts : List Text) : (layFrom offset ts).map text = ts := by
  induction ts generalizing offset with
  | nil => rfl
  | cons t ts ih => simp [layFrom, ih]

theorem map_text_ofSource (source : Text) : (ofSource source).map text = source.splitOn separator :=
  map_text_layFrom 0 _

theorem length_ofSource (source : Text) : (ofSource source).length = source.count separator + 1 := by
  rw [← List.length_map text, map_text_ofSource]
  induction source with
  | nil => simp
  | cons c source ih =>
    rw [List.splitOn_cons_eq_if_modifyHead, List.count_cons]
    split
    · rw [List.length_cons, ih]
    · rw [List.length_modifyHead, ih, Nat.add_zero]

end Piece

end VarDecl
