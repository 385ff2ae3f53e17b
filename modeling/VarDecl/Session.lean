/-
Sessions: reading a source piece by piece.

A session holds the pieces not looked at yet and the declarations accepted so far. `advance` takes the next piece out.
`read` reads piece after piece and stops at the first failure: then the failing piece is gone, the pieces behind it are
still pending and the declarations before it still accepted, so the session can be carried on. If no piece fails, the
accepted declarations move into the program and the session ends with nothing pending and nothing accepted.
-/
import VarDecl.Tree.Reading

namespace VarDecl

/-- a reading in progress -/
structure Session where
  setting : Setting
  pending : List Piece
  accepted : Array Declaration := #[]
  sourceLength : Nat
deriving DecidableEq, Repr

namespace Session

/-- the session before the first piece of a source -/
def start (setting : Setting) (source : Text) : Session :=
  { setting, pending := Piece.ofSource source, sourceLength := source.byteLength }

/-- the next piece, if there is one, and the session without it -/
def advance (s : Session) : Option Piece × Session :=
  match s.pending with
  | [] => (none, s)
  | piece :: pending => (some piece, { s with pending })

def hasPending (s : Session) : Bool := !s.pending.isEmpty

def accept (s : Session) (d : Declaration) : Session := { s with accepted := s.accepted.push d }

/-- the position of an offset into the source -/
def position (s : Session) (offset : Nat) : Position := .ofOffset s.setting.label offset

/-- reads pieces one after another, up to the first that fails -/
def readPieces (s : Session) : List Piece → Session × Except Failure Unit
  | [] => ({ s with pending := [] }, .ok ())
  | piece :: pending =>
    match Declaration.read s.setting piece with
    | .ok d => (s.accept d).readPieces pending
    | .error failure => ({ s with pending }, .error failure)

/-- reads all that is pending; a success takes the accepted declarations along -/
def read (s : Session) : Session × Except Failure Program :=
  match s.readPieces s.pending with
  | (s, .ok ()) =>
    ({ s with accepted := #[] }, .ok ⟨s.accepted.toList, .ofOffsets s.setting.label 0 s.sourceLength⟩)
  | (s, .error failure) => (s, .error failure)

end Session

/-- the program of a source, or the first failure -/
def Program.read (setting : Setting) (source : Text) : Except Failure Program := (Session.start setting source).read.2

/-- the label of a source that does not come from a file -/
def shellLabel : Text := "shell".toList

/-- the setting of a source that does not come from a file, without demands -/
def Setting.shell : Setting := ⟨shellLabel, .lenient⟩

end VarDecl
