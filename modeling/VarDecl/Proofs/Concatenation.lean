/-
Two sources joined by a semicolon.

The pieces of the joined source are those of the first and, shifted, those of the second (`Piece.ofSource_append`), and a
shifted piece is read in the same way with its positions moved (`Declaration.read_shift`). So the joined source is read
as the first and then, moved, as the second. Moving is modulo 2^32, like the positions themselves.

Result:
- `Session.read_joined`: a failure of the first is the failure of both, with the same declarations kept; two programs
  make one, the declarations of the second moved; a failure of the second comes moved, behind the declarations of the
  first.
-/
import VarDecl.Proofs.Acceptance
import VarDecl.Tree.Moved

namespace VarDecl

/-! ## Moved pieces -/

/-- pieces further on are accepted as the same declarations, moved -/
theorem Accepts.shift {setting : Setting} {pieces : List Piece} {ds : List Declaration} {n : Nat}
    (h : Accepts setting pieces ds) (hstop : ∀ piece ∈ pieces, (piece.shift n).stop < Offset.limit) :
    Accepts setting (pieces.map (Piece.shift n)) (ds.map (Declaration.mapPositions (.shift n))) := by
  induction h with
  | nil => exact .nil
  | @cons piece d pieces ds hd _ ih =>
    obtain ⟨hfirst, hrest⟩ := List.forall_mem_cons.1 hstop
    refine .cons ?_ (ih hrest)
    rw [Declaration.read_shift hfirst, hd]
    rfl

theorem Accepts.append {setting : Setting} {pieces behind : List Piece} {ds es : List Declaration}
    (h : Accepts setting pieces ds) (hbehind : Accepts setting behind es) :
    Accepts setting (pieces ++ behind) (ds ++ es) :=
  List.rel_append h hbehind

/-- the shifted pieces of the second source stay below the limit of offsets -/
theorem Piece.stop_shift_lt_limit {s t : Text} (h : Text.Fits (s ++ separator :: t)) :
    ∀ piece ∈ ofSource t, (piece.shift (s.byteLength + separator.utf8Size)).stop < Offset.limit := by
  intro piece hpiece
  have hmem : piece.shift (s.byteLength + separator.utf8Size) ∈ ofSource (s ++ separator :: t) := by
    rw [ofSource_append]
    exact List.mem_append_right _ (List.mem_map_of_mem hpiece)
  exact stop_lt_limit h _ hmem

/-! ## Joined sources -/

namespace Session

section Joined

variable {setting : Setting} {s t : Text} {e : Failure} {p q : Program}

/-- a failure of the first source -/
theorem read_joined_of_error (h : (start setting s).read.2 = .error e) (t : Text) :
    (start setting (s ++ Piece.separator :: t)).read.2 = .error e ∧
      (start setting (s ++ Piece.separator :: t)).read.1.accepted = (start setting s).read.1.accepted := by
  obtain ⟨before, failing, behind, ds, hsplit, hds, he⟩ := exists_of_read_eq_error h
  have hjoined : Piece.ofSource (s ++ Piece.separator :: t) = before ++ failing ::
      (behind ++ (Piece.ofSource t).map (Piece.shift (s.byteLength + Piece.separator.utf8Size))) := by
    rw [Piece.ofSource_append, hsplit, List.append_assoc, List.cons_append]
  rw [read_of_fails hjoined hds he, read_of_fails hsplit hds he]
  exact ⟨rfl, rfl⟩

variable (hfits : Text.Fits (s ++ Piece.separator :: t)) (hp : (start setting s).read.2 = .ok p)
include hfits hp

/-- two programs -/
theorem read_joined_of_ok (hq : (start setting t).read.2 = .ok q) :
    (start setting (s ++ Piece.separator :: t)).read.2 =
      .ok ⟨p.body ++ q.body.map (Declaration.mapPositions (.shift (s.byteLength + 1))),
        .ofOffsets setting.label 0 (s ++ Piece.separator :: t).byteLength⟩ := by
  have hfirst := (read_eq_ok_iff.1 hp).1
  have hsecond := (read_eq_ok_iff.1 hq).1.shift (Piece.stop_shift_lt_limit hfits)
  rw [read_eq_ok_iff, Piece.ofSource_append]
  exact ⟨hfirst.append hsecond, rfl⟩

/-- a failure of the second source -/
theorem read_joined_of_ok_of_error (he : (start setting t).read.2 = .error e) :
    (start setting (s ++ Piece.separator :: t)).read.2 = .error (e.mapPositions (.shift (s.byteLength + 1))) ∧
      (start setting (s ++ Piece.separator :: t)).read.1.accepted.toList =
        p.body ++ (start setting t).read.1.accepted.toList.map
          (Declaration.mapPositions (.shift (s.byteLength + 1))) := by
  obtain ⟨before, failing, behind, ds, hsplit, hds, hfail⟩ := exists_of_read_eq_error he
  have hstop := Piece.stop_shift_lt_limit hfits
  rw [hsplit, List.forall_mem_append, List.forall_mem_cons] at hstop
  have hkept := (read_eq_ok_iff.1 hp).1.append (hds.shift hstop.1)
  have hmoved : Declaration.read setting (failing.shift (s.byteLength + Piece.separator.utf8Size)) =
      .error (e.mapPositions (.shift (s.byteLength + 1))) := by
    rw [Declaration.read_shift hstop.2.1, hfail]
    rfl
  have hjoined := Piece.ofSource_append s t
  rw [hsplit, List.map_append, List.map_cons, ← List.append_assoc] at hjoined
  rw [read_of_fails hjoined hkept hmoved, read_of_fails hsplit hds hfail]
  exact ⟨rfl, rfl⟩

end Joined

/-- **Reading takes a semicolon between two sources to one reading after the other.** If the first source fails, so does
the joined one, with the same failure and the same declarations kept. If both are programs, the joined one is the
program of the declarations of the first and, moved behind it, those of the second. If only the second fails, the joined
one fails in the same way, moved, and keeps the program of the first and, moved, what the second kept. -/
theorem read_joined (setting : Setting) (s t : Text) (h : Text.Fits (s ++ ';' :: t)) :
    let first := (start setting s).read
    let second := (start setting t).read
    let joined := (start setting (s ++ ';' :: t)).read
    let move := Position.shift (s.byteLength + 1)
    (∀ e, first.2 = .error e → joined.2 = .error e ∧ joined.1.accepted = first.1.accepted) ∧
      (∀ p q, first.2 = .ok p → second.2 = .ok q →
        joined.2 = .ok ⟨p.body ++ q.body.map (Declaration.mapPositions move),
          .ofOffsets setting.label 0 (s ++ ';' :: t).byteLength⟩) ∧
      ∀ p e, first.2 = .ok p → second.2 = .error e →
        joined.2 = .error (e.mapPositions move) ∧
          joined.1.accepted.toList = p.body ++ second.1.accepted.toList.map (Declaration.mapPositions move) := by
  intro first second joined move
  refine ⟨fun e he => read_joined_of_error he t, fun p q hp hq => read_joined_of_ok h hp hq, fun p e hp he => ?_⟩
  exact read_joined_of_ok_of_error h hp he

/-- the place of a failure in the second source counts the bytes of the first, not its characters -/
theorem read_joined_after_accent :
    Text.Fits "let \u00e9 = 1; var b".toList ∧
      (start .shell "let \u00e9 = 1; var b".toList).read.2 =
        .error (.rejected ⟨.missingAssignment "b".toList, ⟨16, shellLabel⟩⟩) :=
  ⟨by decide, ((read_joined .shell "let \u00e9 = 1".toList " var b".toList (by decide)).2.2 _ _ rfl rfl).1⟩

end Session

end VarDecl
