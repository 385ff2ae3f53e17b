/-
Trees and failures with their positions moved.

`mapPositions f` applies `f` to every position of a node and leaves everything else alone. Two moves matter: `shift n`
adds `n` bytes to an offset, modulo 2^32, and `relabel` puts another label on a position. A position that was narrowed
from an offset is shifted as the offset is (`Position.ofOffset_add`). `movedResult` moves what a reading gave, whichever
of the two it is.
-/
import VarDecl.Diagnostic.Basic
import VarDecl.Tree.Basic

namespace VarDecl

/-! ## Moves of a position -/

namespace Position

/-- the position so many bytes further on -/
def shift (n : Nat) (p : Position) : Position := { p with offset := p.offset + UInt32.ofNat n }

def relabel (label : Text) (p : Position) : Position := { p with label }

theorem ofOffset_add (label : Text) (offset n : Nat) : ofOffset label (offset + n) = (ofOffset label offset).shift n := by
  simp [ofOffset, shift, UInt32.ofNat_add]

theorem ofOffset_relabel (label other : Text) (offset : Nat) :
    (ofOffset other offset).relabel label = ofOffset label offset := rfl

end Position

/-! ## Moves of a node -/

def Span.mapPositions (f : Position → Position) (s : Span) : Span := ⟨f s.start, f s.stop⟩

def Literal.mapPositions (f : Position → Position) (x : Literal) : Literal := { x with span := x.span.mapPositions f }

def Declarator.mapPositions (f : Position → Position) (d : Declarator) : Declarator :=
  { d with literal := d.literal.mapPositions f, span := d.span.mapPositions f }

def Declaration.mapPositions (f : Position → Position) (d : Declaration) : Declaration :=
  { d with declarator := d.declarator.mapPositions f, span := d.span.mapPositions f }

def Program.mapPositions (f : Position → Position) (p : Program) : Program :=
  ⟨p.body.map (Declaration.mapPositions f), p.span.mapPositions f⟩

/-- a failure moved; a fault has no position -/
def Failure.mapPositions (f : Position → Position) : Failure → Failure
  | .rejected d => .rejected { d with position := f d.position }
  | .fault e => .fault e

/-- what a reading gave, with the positions of a failure moved by `f` and the result by `g` -/
def movedResult {α : Type} (f : Position → Position) (g : α → α) : Except Failure α → Except Failure α
  | .ok a => .ok (g a)
  | .error e => .error (e.mapPositions f)

end VarDecl
