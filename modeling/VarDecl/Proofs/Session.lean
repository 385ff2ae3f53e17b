/-
Whole sessions: reading a source is reading each of its pieces, up to the first that fails.

`Accepts` relates pieces to the declarations that they are read as. A list of pieces is either accepted as a whole, or it
has a first piece that fails (`accepts_or_fails`), and in either case all that the session comes to is known.

Results:
- `Session.read_of_accepts`: if all pieces are accepted, the program holds their declarations and the session is empty.
- `Session.read_of_fails`: if one fails, the session holds the declarations of the pieces before it, and the pieces behind
  it are pending.
- `Session.read_eq_ok_iff`, `Session.exists_of_read_eq_error`: there is nothing else that a session can come to.
-/
import Mathlib.Data.List.Forall2
import VarDecl.Session

namespace VarDecl

/-- the pieces are read as these declarations, one by one -/
def Accepts (setting : Setting) (pieces : List Piece) (ds : List Declaration) : Prop :=
  List.Forall₂ (fun piece d => Declaration.read setting piece = .ok d) pieces ds

/-- pieces are accepted as a whole, or there is a first one that fails -/
theorem accepts_or_fails (setting : Setting) (pieces : List Piece) :
    (∃ ds, Accepts setting pieces ds) ∨
      ∃ before failing behind ds e, pieces = before ++ failing :: behind ∧ Accepts setting before ds ∧
        Declaration.read setting failing = .error e := by
  induction pieces with
  | nil => exact .inl ⟨[], .nil⟩
  | cons piece pieces ih =>
    cases hpiece : Declaration.read setting piece with
    | error e => exact .inr ⟨[], piece, pieces, [], e, rfl, .nil, hpiece⟩
    | ok d =>
      rcases ih with ⟨ds, hds⟩ | ⟨before, failing, behind, ds, e, hsplit, hds, he⟩
      · exact .inl ⟨d :: ds, .cons hpiece hds⟩
      · refine .inr ⟨piece :: before, failing, behind, d :: ds, e, ?_, .cons hpiece hds, he⟩
        rw [hsplit, List.cons_append]

namespace Session

/-! ## Reading pieces -/

/-- accepted pieces are read one after the other, and their declarations are kept in order -/
theorem readPieces_append {before : List Piece} {ds : List Declaration} (s : Session)
    (h : Accepts s.setting before ds) (behind : List Piece) :
    s.readPieces (before ++ behind) = { s with accepted := s.accepted ++ ds }.readPieces behind := by
  induction before generalizing s ds with
  | nil =>
    cases h
    simp
  | cons piece before ih =>
    cases h with
    | cons hpiece hrest =>
      simp only [List.cons_append, readPieces, hpiece]
      rw [ih (s.accept _) hrest]
      simp [accept]

/-! ## Reading a source -/

variable {setting : Setting} {source : Text} {ds : List Declaration}

theorem read_of_accepts (h : Accepts setting (Piece.ofSource source) ds) :
    (start setting source).read =
      ({ setting, pending := [], sourceLength := source.byteLength },
        .ok ⟨ds, .ofOffsets setting.label 0 source.byteLength⟩) := by
  have hrun := readPieces_append (start setting source) h []
  rw [List.append_nil] at hrun
  have hpending : (start setting source).pending = Piece.ofSource source := rfl
  simp only [read, hpending, hrun, readPieces]
  simp [start]

theorem read_of_fails {before behind : List Piece} {failing : Piece} {e : Failure}
    (hsplit : Piece.ofSource source = before ++ failing :: behind) (h : Accepts setting before ds)
    (he : Declaration.read setting failing = .error e) :
    (start setting source).read =
      ({ setting, pending := behind, accepted := ds.toArray, sourceLength := source.byteLength }, .error e) := by
  have hrun := readPieces_append (start setting source) h (failing :: behind)
  have hpending : (start setting source).pending = before ++ failing :: behind := hsplit
  have hfail : Declaration.read (start setting source).setting failing = .error e := he
  simp only [read, hpending, hrun, readPieces, hfail]
  simp [start]

/-- a source is read as a program exactly if its pieces are read as the declarations of the program -/
theorem read_eq_ok_iff {p : Program} :
    (start setting source).read.2 = .ok p ↔
      Accepts setting (Piece.ofSource source) p.body ∧ p.span = .ofOffsets setting.label 0 source.byteLength := by
  refine ⟨?_, ?_⟩
  · intro hp
    rcases accepts_or_fails setting (Piece.ofSource source) with ⟨ds, hds⟩ | ⟨_, _, _, _, e, hsplit, hds, he⟩
    · rw [read_of_accepts hds] at hp
      cases hp
      exact ⟨hds, rfl⟩
    · rw [read_of_fails hsplit hds he] at hp
      cases hp
  · intro hp
    obtain ⟨hds, hspan⟩ := hp
    rw [read_of_accepts hds, ← hspan]

/-- a source that is not read as a program has a first piece that fails -/
theorem exists_of_read_eq_error {e : Failure} (h : (start setting source).read.2 = .error e) :
    ∃ before failing behind ds, Piece.ofSource source = before ++ failing :: behind ∧ Accepts setting before ds ∧
      Declaration.read setting failing = .error e := by
  rcases accepts_or_fails setting (Piece.ofSource source) with
    ⟨ds, hds⟩ | ⟨before, failing, behind, ds, e', hsplit, hds, he⟩
  · rw [read_of_accepts hds] at h
    cases h
  · rw [read_of_fails hsplit hds he] at h
    cases h
    exact ⟨before, failing, behind, ds, hsplit, hds, he⟩

end Session

end VarDecl
