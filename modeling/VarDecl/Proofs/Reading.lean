/-
Declarations from forms: what a reading adds to the form of a piece is offsets.

Results:
- `Declaration.read_eq`: below the limit of offsets, the declaration of a piece is the declaration of its form
  (`Form.declaration`), and its failure is the defect of the piece at its place (`Form.Defect.failure`). No fault occurs.
- `Declaration.read_eq_ok_iff`: a piece is read exactly as the form that it has under the demands.
- `Declaration.read_shift`: a piece that lies further on is read in the same way, with every position moved.
-/
import VarDecl.Proofs.Grammar
import VarDecl.Proofs.Pieces
import VarDecl.Tree.Moved

namespace VarDecl

/-! ## Declarations of forms -/

namespace Form

/-- the declaration of a form whose text begins at an offset -/
def declaration (label : Text) (offset : Nat) (f : Form) : Declaration :=
  let start := offset + f.before.byteLength
  let nameStart := start + f.keyword.byteLength + 1
  let rawStart := nameStart + f.left.byteLength + 1
  let stop := rawStart + f.raw.byteLength
  ⟨f.keyword,
    ⟨Name.ofText f.left, ⟨Value.ofText f.raw, f.raw, .ofOffsets label rawStart stop⟩, .ofOffsets label nameStart stop⟩,
    .ofOffsets label start stop⟩

@[simp] theorem content_declaration (label : Text) (offset : Nat) (f : Form) :
    (f.declaration label offset).content = f.content := rfl

/-- the failure because of a defect in a piece that begins at an offset -/
def Defect.failure (setting : Setting) (offset : Nat) (e : Defect) : Failure :=
  setting.rejection e.cause (offset + e.depth)

/-- what is found in a piece, at the place of the piece -/
def place (setting : Setting) (offset : Nat) : Except Defect Form → Except Failure Declaration
  | .ok f => .ok (f.declaration setting.label offset)
  | .error e => .error (e.failure setting offset)

end Form

/-! ## Reading without faults -/

theorem Offset.advance_bind {α : Type} {offset bytes : Nat} (h : offset + bytes < Offset.limit)
    (k : Nat → Except Failure α) : (Offset.advance offset bytes >>= k) = k (offset + bytes) := by
  rw [Offset.advance_of_lt h]
  rfl

theorem Declarator.read_eq {setting : Setting} {text : Text} {offset : Nat}
    (h : offset + text.byteLength < Offset.limit) :
    Declarator.read setting text offset =
      match Text.cutAt? '=' text with
      | none => .error (setting.rejection (.missingAssignment text) offset)
      | some (left, raw) =>
        match setting.strictness.nameCause? (Name.ofText left) with
        | some cause => .error (setting.rejection cause offset)
        | none =>
          let rawStart := offset + left.byteLength + 1
          let stop := rawStart + raw.byteLength
          .ok ⟨Name.ofText left, ⟨.ofText raw, raw, .ofOffsets setting.label rawStart stop⟩,
            .ofOffsets setting.label offset stop⟩ := by
  unfold Declarator.read
  cases ha : Text.cutAt? '=' text with
  | none => rfl
  | some parts =>
    obtain ⟨left, raw⟩ := parts
    have hsize : text.byteLength = left.byteLength + (1 + raw.byteLength) := Text.byteLength_of_cutAt? ha
    have hstop : offset + text.byteLength = offset + left.byteLength + 1 + raw.byteLength := by omega
    simp only
    rw [Offset.advance_bind (by omega), Offset.advance_bind (by omega), Literal.read_eq, if_pos (by omega)]
    cases setting.strictness.nameCause? (Name.ofText left) with
    | some cause => rfl
    | none =>
      rw [← hstop]
      exact Offset.advance_bind h _

/-- **A piece is read as the form that it has, at its place.** Below the limit of offsets no fault occurs. -/
theorem Declaration.read_eq {setting : Setting} {piece : Piece} (h : piece.stop < Offset.limit) :
    Declaration.read setting piece =
      Form.place setting piece.offset (Form.ofPiece setting.strictness piece.text) := by
  have hsize := congrArg Text.byteLength (Text.append_trimmedTail Text.isBlank piece.text)
  simp only [Text.byteLength_append] at hsize
  simp only [Piece.stop] at h
  simp only [Declaration.read, Form.ofPiece]
  rw [Offset.advance_bind (by omega)]
  cases hk : Text.cutAt? ' ' (Text.trim Text.isBlank piece.text) with
  | none => rfl
  | some parts =>
    obtain ⟨keyword, text⟩ := parts
    have hstatement : (Text.trim Text.isBlank piece.text).byteLength = keyword.byteLength + (1 + text.byteLength) :=
      Text.byteLength_of_cutAt? hk
    cases hword : setting.strictness.admitsKeyword keyword with
    | false =>
      simp only [hword, Bool.false_eq_true, ↓reduceIte]
      rfl
    | true =>
      simp only [hword, ↓reduceIte]
      rw [Offset.advance_bind (by omega), Offset.advance_bind (by omega), Declarator.read_eq (by omega)]
      cases ha : Text.cutAt? '=' text with
      | none =>
        simp only [Form.place, Form.Defect.failure, ← Nat.add_assoc]
        rfl
      | some parts =>
        obtain ⟨left, raw⟩ := parts
        have htext : text.byteLength = left.byteLength + (1 + raw.byteLength) := Text.byteLength_of_cutAt? ha
        cases hname : setting.strictness.nameCause? (Name.ofText left) with
        | some cause =>
          simp only [hname, Form.place, Form.Defect.failure, ← Nat.add_assoc]
          rfl
        | none =>
          simp only [hname, Form.place, Form.declaration, Form.ofCuts]
          refine (Offset.advance_bind (by omega) _).trans ?_
          -- the end of the statement is the end of the value
          rw [show ∀ n, n + (Text.trim Text.isBlank piece.text).byteLength =
            n + keyword.byteLength + 1 + left.byteLength + 1 + raw.byteLength by omega]
          rfl

/-! ## Exactly the forms -/

theorem Declaration.read_eq_ok_iff {setting : Setting} {piece : Piece} {d : Declaration}
    (h : piece.stop < Offset.limit) :
    Declaration.read setting piece = .ok d ↔
      ∃ f : Form, f.text = piece.text ∧ f.WellFormed ∧ f.Meets setting.strictness ∧
        d = f.declaration setting.label piece.offset := by
  rw [read_eq h]
  refine ⟨?_, ?_⟩
  · intro hd
    cases hf : Form.ofPiece setting.strictness piece.text with
    | error e =>
      rw [hf] at hd
      cases hd
    | ok f =>
      rw [hf] at hd
      obtain ⟨htext, hwf, hm⟩ := Form.ofPiece_eq_ok_iff.1 hf
      exact ⟨f, htext, hwf, hm, (Except.ok.inj hd).symm⟩
  · intro hform
    obtain ⟨f, htext, hwf, hm, rfl⟩ := hform
    rw [Form.ofPiece_eq_ok_iff.2 ⟨htext, hwf, hm⟩]
    rfl

/-! ## Pieces further on -/

namespace Form

theorem declaration_add (label : Text) (offset n : Nat) (f : Form) :
    f.declaration label (offset + n) = (f.declaration label offset).mapPositions (.shift n) := by
  simp only [declaration, Declaration.mapPositions, Declarator.mapPositions, Literal.mapPositions, Span.mapPositions,
    Span.ofOffsets, ← Position.ofOffset_add, Nat.add_right_comm _ n]

theorem Defect.failure_add (setting : Setting) (offset n : Nat) (e : Defect) :
    e.failure setting (offset + n) = (e.failure setting offset).mapPositions (.shift n) := by
  simp only [failure, Setting.rejection, Failure.mapPositions, ← Position.ofOffset_add, Nat.add_right_comm _ n]

theorem place_add (setting : Setting) (offset n : Nat) (r : Except Defect Form) :
    place setting (offset + n) r =
      movedResult (.shift n) (Declaration.mapPositions (.shift n)) (place setting offset r) := by
  cases r with
  | ok f => exact congrArg Except.ok (f.declaration_add setting.label offset n)
  | error e => exact congrArg Except.error (e.failure_add setting offset n)

end Form

/-- **A piece further on is read in the same way**, with every position moved. -/
theorem Declaration.read_shift {setting : Setting} {piece : Piece} {n : Nat}
    (h : (piece.shift n).stop < Offset.limit) :
    Declaration.read setting (piece.shift n) =
      movedResult (.shift n) (mapPositions (.shift n)) (Declaration.read setting piece) := by
  have hpiece : piece.stop < Offset.limit := Nat.lt_of_le_of_lt (piece.stop_le_stop_shift n) h
  calc Declaration.read setting (piece.shift n)
      = Form.place setting (piece.offset + n) (Form.ofPiece setting.strictness piece.text) := read_eq h
    _ = movedResult (.shift n) (mapPositions (.shift n))
          (Form.place setting piece.offset (Form.ofPiece setting.strictness piece.text)) :=
        Form.place_add setting piece.offset n _
    _ = movedResult (.shift n) (mapPositions (.shift n)) (Declaration.read setting piece) := by rw [read_eq hpiece]

end VarDecl
