/-
Calls on a session: what can be asked of a reading in progress, and how often it likes.

Only `Call.advance` takes something out of the session. The other calls look at it, or read a piece or a text that the
caller brings along, under the setting of the session. `Session.call` gives the answer to a call and the session after
it, `Session.after` the session after any number of calls.
-/
import VarDecl.Session

namespace VarDecl

inductive Call where
  | advance
  | hasPending
  | position (offset : Nat)
  | accepted
  | readDeclaration (piece : Piece)
  | readDeclarator (text : Text) (offset : Nat)
deriving DecidableEq, Repr

inductive Answer where
  | next (piece : Option Piece)
  | pending (b : Bool)
  | position (p : Position)
  | accepted (ds : Array Declaration)
  | declaration (reading : Except Failure Declaration)
  | declarator (reading : Except Failure Declarator)

namespace Session

/-- the answer to a call, and the session after it -/
def call (s : Session) : Call → Answer × Session
  | .advance => (.next s.advance.1, s.advance.2)
  | .hasPending => (.pending s.hasPending, s)
  | .position offset => (.position (s.position offset), s)
  | .accepted => (.accepted s.accepted, s)
  | .readDeclaration piece => (.declaration (Declaration.read s.setting piece), s)
  | .readDeclarator text offset => (.declarator (Declarator.read s.setting text offset), s)

/-- the session after a sequence of calls -/
def after (s : Session) (calls : List Call) : Session := calls.foldl (fun s c => (s.call c).2) s

end Session

end VarDecl
