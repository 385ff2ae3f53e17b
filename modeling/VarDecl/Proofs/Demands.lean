/-
What stricter demands change: which sources are accepted, and nothing else.

The demands are made on what a declaration says (`Content.Meets`), and the demands of a stricter strictness include those
of a looser one (`Content.Meets.mono`). So a piece that is read strictly is read loosely as the same declaration, and a
piece that is read loosely is read strictly exactly if its declaration passes (`Declaration.read_of_le_eq_ok_iff`). A
space or an assignment sign that is missing is missing under any demands (`Declaration.read_eq_of_missing`).

Result:
- `Session.stricter_is_filter`: the stricter reading of a source is the looser one if all its declarations pass; it fails
  where the looser one fails or before, with a part of the declarations kept; and it fails in the same way if it fails
  for want of a space or of an assignment sign.
-/
import VarDecl.Proofs.Acceptance

namespace VarDecl

/-! ## Demands -/

theorem Content.Meets.mono {c : Content} {s t : Strictness} (h : c.Meets t) (hle : s ≤ t) : c.Meets s := by
  obtain ⟨hkeyword, hname⟩ := h
  rw [Strictness.admitsKeyword_iff] at hkeyword
  rw [Strictness.nameCause?_eq_none_iff] at hname
  refine ⟨Strictness.admitsKeyword_iff.2 ?_, Strictness.nameCause?_eq_none_iff.2 ?_⟩
  · intro hs
    exact hkeyword (hle.1 hs)
  · intro hs
    exact hname (hle.2 hs)

/-- what a strictness asks of a declaration: a conventional keyword, written as such, and a conventional name -/
structure Declaration.Passes (d : Declaration) (s : Strictness) : Prop where
  keyword : s.keywords = true → ∃ k, d.keyword? = some k ∧ k.text = d.keyword
  name : s.identifiers = true → d.declarator.name.IsConventional

/-- the demands that a reader checks are the ones that a declaration passes -/
theorem Declaration.passes_iff {d : Declaration} {s : Strictness} : d.Passes s ↔ d.content.Meets s := by
  have hkeyword : (∃ k, d.keyword? = some k ∧ k.text = d.keyword) ↔ ∃ k : Keyword, d.keyword = k.text := by
    simp only [keyword?, Keyword.ofText?_eq_some_iff]
    refine ⟨?_, ?_⟩
    · rintro ⟨k, hk, -⟩
      exact ⟨k, hk⟩
    · rintro ⟨k, hk⟩
      exact ⟨k, hk, hk.symm⟩
  rw [Content.Meets, Strictness.admitsKeyword_iff, Strictness.nameCause?_eq_none_iff]
  refine ⟨?_, ?_⟩
  · intro hpasses
    exact ⟨fun hs => hkeyword.1 (hpasses.keyword hs), hpasses.name⟩
  · intro hmeets
    exact ⟨fun hs => hkeyword.2 (hmeets.1 hs), hmeets.2⟩

/-- something is missing from the statement, and no part of it is at fault -/
def Cause.IsMissing (c : Cause) : Prop := (∃ t, c = .missingKeyword t) ∨ ∃ t, c = .missingAssignment t

theorem Strictness.not_isMissing_of_nameCause? {s : Strictness} {n : Name} {c : Cause} (h : s.nameCause? n = some c) :
    ¬c.IsMissing := by
  rintro (⟨t, rfl⟩ | ⟨t, rfl⟩)
  all_goals
    unfold nameCause? at h
    split at h
    · obtain ⟨u, -, hu⟩ := Option.map_eq_some_iff.1 h
      cases hu
    · cases h

/-! ## Pieces -/

/-- what is missing from a piece is missing under any demands that are no stricter -/
theorem Form.ofPiece_eq_of_missing {s t : Strictness} {piece : Text} {e : Form.Defect} (hle : s ≤ t)
    (h : Form.ofPiece t piece = .error e) (hmissing : e.cause.IsMissing) : Form.ofPiece s piece = .error e := by
  simp only [ofPiece] at h ⊢
  cases hk : Text.cutAt? ' ' (Text.trim Text.isBlank piece) with
  | none =>
    rw [hk] at h
    exact h
  | some parts =>
    obtain ⟨keyword, text⟩ := parts
    simp only [hk] at h ⊢
    split at h
    · rename_i hword
      have hlooser : s.admitsKeyword keyword = true :=
        Strictness.admitsKeyword_iff.2 fun hs => Strictness.admitsKeyword_iff.1 hword (hle.1 hs)
      rw [if_pos hlooser]
      cases ha : Text.cutAt? '=' text with
      | none =>
        simp only [ha] at h
        exact h
      | some parts =>
        obtain ⟨left, raw⟩ := parts
        simp only [ha] at h
        cases hname : t.nameCause? (Name.ofText left) with
        | none =>
          simp only [hname] at h
          cases h
        | some cause =>
          simp only [hname] at h
          cases h
          exact absurd hmissing (Strictness.not_isMissing_of_nameCause? hname)
    · -- an unknown keyword is not a missing one
      cases h
      rcases hmissing with ⟨_, h⟩ | ⟨_, h⟩
      all_goals cases h

section Pieces

variable {label : Text} {s t : Strictness} {piece : Piece}

theorem Declaration.exists_rejected_of_read_eq_error {setting : Setting} {e : Failure}
    (hstop : piece.stop < Offset.limit) (h : Declaration.read setting piece = .error e) : ∃ d, e = .rejected d := by
  rw [read_eq hstop] at h
  cases hf : Form.ofPiece setting.strictness piece.text with
  | ok f =>
    rw [hf] at h
    cases h
  | error defect =>
    rw [hf] at h
    cases h
    exact ⟨_, rfl⟩

/-- **A piece is read strictly as it is read loosely, if its declaration passes.** -/
theorem Declaration.read_of_le_eq_ok_iff {d : Declaration} (hle : s ≤ t) (hstop : piece.stop < Offset.limit) :
    Declaration.read ⟨label, t⟩ piece = .ok d ↔ Declaration.read ⟨label, s⟩ piece = .ok d ∧ d.content.Meets t := by
  rw [read_eq_ok_iff hstop, read_eq_ok_iff hstop]
  refine ⟨?_, ?_⟩
  · rintro ⟨f, htext, hwf, hm, rfl⟩
    have hmeets : f.content.Meets t := Form.meets_iff.1 hm
    exact ⟨⟨f, htext, hwf, Form.meets_iff.2 (hmeets.mono hle), rfl⟩, hmeets⟩
  · rintro ⟨⟨f, htext, hwf, -, rfl⟩, hmeets⟩
    exact ⟨f, htext, hwf, Form.meets_iff.2 hmeets, rfl⟩

theorem Declaration.read_eq_of_missing {d : Diagnostic} (hle : s ≤ t) (hstop : piece.stop < Offset.limit)
    (h : Declaration.read ⟨label, t⟩ piece = .error (.rejected d)) (hmissing : d.cause.IsMissing) :
    Declaration.read ⟨label, s⟩ piece = .error (.rejected d) := by
  rw [read_eq hstop] at h ⊢
  cases hf : Form.ofPiece t piece.text with
  | ok f =>
    rw [hf] at h
    cases h
  | error defect =>
    rw [hf] at h
    cases h
    rw [Form.ofPiece_eq_of_missing hle hf hmissing]
    rfl

end Pieces

/-! ## Lists of pieces -/

section Lists

variable {label : Text} {s t : Strictness}

theorem Accepts.of_le_iff {pieces : List Piece} {ds : List Declaration} (hle : s ≤ t)
    (hstop : ∀ piece ∈ pieces, piece.stop < Offset.limit) :
    Accepts ⟨label, t⟩ pieces ds ↔ Accepts ⟨label, s⟩ pieces ds ∧ ∀ d ∈ ds, d.content.Meets t := by
  induction pieces generalizing ds with
  | nil =>
    refine ⟨fun h => ?_, fun h => ?_⟩
    · cases h
      exact ⟨.nil, by simp⟩
    · obtain ⟨h, -⟩ := h
      cases h
      exact .nil
  | cons piece pieces ih =>
    obtain ⟨hfirst, hrest⟩ := List.forall_mem_cons.1 hstop
    refine ⟨fun h => ?_, fun h => ?_⟩
    · cases h with
      | cons hd hds =>
        obtain ⟨hd, hm⟩ := (Declaration.read_of_le_eq_ok_iff hle hfirst).1 hd
        obtain ⟨hds, hms⟩ := (ih hrest).1 hds
        exact ⟨.cons hd hds, List.forall_mem_cons.2 ⟨hm, hms⟩⟩
    · obtain ⟨h, hmeets⟩ := h
      cases h with
      | cons hd hds =>
        obtain ⟨hm, hms⟩ := List.forall_mem_cons.1 hmeets
        exact .cons ((Declaration.read_of_le_eq_ok_iff hle hfirst).2 ⟨hd, hm⟩) ((ih hrest).2 ⟨hds, hms⟩)

/-- what is accepted from the beginning on lies before a piece that fails -/
theorem Accepts.prefix_of_fails {setting : Setting} {before behind before' behind' : List Piece} {failing : Piece}
    {ds ds' : List Declaration} {e : Failure} (hsplit : before ++ failing :: behind = before' ++ behind')
    (h : Accepts setting before ds) (he : Declaration.read setting failing = .error e)
    (h' : Accepts setting before' ds') : ds' <+: ds := by
  induction before generalizing before' ds ds' with
  | nil =>
    cases h' with
    | nil => exact List.nil_prefix
    | cons hd _ =>
      obtain ⟨rfl, -⟩ := List.cons.inj hsplit
      rw [he] at hd
      cases hd
  | cons piece before ih =>
    cases h with
    | cons hd hds =>
      cases h' with
      | nil => exact List.nil_prefix
      | cons hd' hds' =>
        obtain ⟨rfl, hrest⟩ := List.cons.inj hsplit
        obtain rfl := Except.ok.inj (hd.symm.trans hd')
        exact (List.prefix_cons_inj _).2 (ih hrest hds hds')

end Lists

/-! ## Sources -/

namespace Session

section Stricter

variable {label source : Text} {s t : Strictness} (hle : s ≤ t)
  (hstop : ∀ piece ∈ Piece.ofSource source, piece.stop < Offset.limit)
include hle hstop

theorem stricter_eq_ok_iff (p : Program) :
    (start ⟨label, t⟩ source).read.2 = .ok p ↔
      (start ⟨label, s⟩ source).read.2 = .ok p ∧ ∀ d ∈ p.body, d.Passes t := by
  simp only [read_eq_ok_iff, Accepts.of_le_iff hle hstop, Declaration.passes_iff]
  exact and_right_comm

/-- where the looser reading fails, the stricter one has failed before or fails too -/
theorem stricter_fails {e : Failure} (h : (start ⟨label, s⟩ source).read.2 = .error e) :
    (∃ d, (start ⟨label, t⟩ source).read.2 = .error (.rejected d)) ∧
      (start ⟨label, t⟩ source).read.1.accepted.toList <+: (start ⟨label, s⟩ source).read.1.accepted.toList := by
  obtain ⟨before, failing, behind, ds, hsplit, hds, he⟩ := exists_of_read_eq_error h
  rcases accepts_or_fails ⟨label, t⟩ (Piece.ofSource source) with
    ⟨ds', hds'⟩ | ⟨before', failing', behind', ds', e', hsplit', hds', he'⟩
  · rw [read_of_accepts ((Accepts.of_le_iff hle hstop).1 hds').1] at h
    cases h
  · have hmem : failing' ∈ Piece.ofSource source := by simp [hsplit']
    obtain ⟨d, rfl⟩ := Declaration.exists_rejected_of_read_eq_error (hstop failing' hmem) he'
    rw [read_of_fails hsplit' hds' he', read_of_fails hsplit hds he]
    refine ⟨⟨d, rfl⟩, ?_⟩
    have hbefore : ∀ piece ∈ before', piece.stop < Offset.limit := fun piece hpiece =>
      hstop piece (by simp [hsplit', hpiece])
    have hlooser := ((Accepts.of_le_iff hle hbefore).1 hds').1
    exact hds.prefix_of_fails (hsplit.symm.trans hsplit') he hlooser

/-- what is missing from a statement makes both readings fail at it -/
theorem looser_fails_of_missing {d : Diagnostic}
    (h : (start ⟨label, t⟩ source).read.2 = .error (.rejected d)) (hmissing : d.cause.IsMissing) :
    (start ⟨label, s⟩ source).read.2 = .error (.rejected d) ∧
      (start ⟨label, s⟩ source).read.1.accepted = (start ⟨label, t⟩ source).read.1.accepted := by
  obtain ⟨before, failing, behind, ds, hsplit, hds, he⟩ := exists_of_read_eq_error h
  have hmem : failing ∈ Piece.ofSource source := by simp [hsplit]
  have hbefore : ∀ piece ∈ before, piece.stop < Offset.limit := fun piece hpiece =>
    hstop piece (by simp [hsplit, hpiece])
  have hlooser := ((Accepts.of_le_iff hle hbefore).1 hds).1
  have hfails := Declaration.read_eq_of_missing hle (hstop failing hmem) he hmissing
  rw [read_of_fails hsplit hlooser hfails, read_of_fails hsplit hds he]
  exact ⟨rfl, rfl⟩

end Stricter

/-- **A stricter reading is a filter on a looser one.** It gives a program exactly if the looser reading gives this very
program and all its declarations pass. If the looser reading fails, the stricter one is rejected too, and what it has
kept is a beginning of what the looser one has kept. If the stricter reading is rejected because a space or an assignment
sign is missing, the looser one is rejected because of the same, at the same place, and keeps the same. -/
theorem stricter_is_filter (label source : Text) (s t : Strictness) (hle : s ≤ t) (h : source.Fits) :
    let looser := (start ⟨label, s⟩ source).read
    let stricter := (start ⟨label, t⟩ source).read
    (∀ p, stricter.2 = .ok p ↔ looser.2 = .ok p ∧ ∀ d ∈ p.body, d.Passes t) ∧
      (∀ e, looser.2 = .error e → (∃ d, stricter.2 = .error (.rejected d)) ∧
        stricter.1.accepted.size ≤ looser.1.accepted.size ∧
        stricter.1.accepted.toList <+: looser.1.accepted.toList) ∧
      ∀ d, stricter.2 = .error (.rejected d) → d.cause.IsMissing →
        looser.2 = .error (.rejected d) ∧ looser.1.accepted = stricter.1.accepted := by
  intro looser stricter
  have hstop := Piece.stop_lt_limit h
  refine ⟨stricter_eq_ok_iff hle hstop, fun e he => ?_, fun d hd hmissing => ?_⟩
  · obtain ⟨hrejected, hkept⟩ := stricter_fails hle hstop he
    exact ⟨hrejected, hkept.length_le, hkept⟩
  · exact looser_fails_of_missing hle hstop hd hmissing

/-- the second statement has no space; the strict reading stops before it, at the keyword of the first -/
theorem stricter_is_filter_of_keyword :
    Strictness.lenient ≤ .strict ∧ Text.Fits "my x = 1;y".toList ∧
      ((start ⟨shellLabel, .lenient⟩ "my x = 1;y".toList).read.2 =
        .error (.rejected ⟨.missingKeyword "y".toList, ⟨9, shellLabel⟩⟩)) ∧
      ((start ⟨shellLabel, .strict⟩ "my x = 1;y".toList).read.2 =
        .error (.rejected ⟨.unknownKeyword "my".toList, ⟨0, shellLabel⟩⟩)) ∧
      (start ⟨shellLabel, .strict⟩ "my x = 1;y".toList).read.1.accepted.toList <+:
        (start ⟨shellLabel, .lenient⟩ "my x = 1;y".toList).read.1.accepted.toList := by
  have hle : Strictness.lenient ≤ .strict := Strictness.lenient_le _
  have hfits : Text.Fits "my x = 1;y".toList := by decide
  have hfilter := stricter_is_filter shellLabel "my x = 1;y".toList .lenient .strict hle hfits
  exact ⟨hle, hfits, rfl, rfl, (hfilter.2.1 _ rfl).2.2⟩

end Session

end VarDecl
