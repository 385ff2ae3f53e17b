/-
Why a source is rejected, and at which place.

Five complaints can be made of a statement (`Complaint`), each only if none of those before it can: that it has no
keyword, that the keyword is none of the conventional ones, that there is no assignment sign, that the identifier is
no word, that the type is none. A complaint is made of the statement as it stands between the blanks, and so many
bytes into it.

What reading a piece comes to, if not to a form, is a complaint about its statement
(`Form.exists_complaint_of_ofPiece_eq_error`), and the other way round (`Complaint.ofPiece_eq`). So there is at most
one (`Complaint.unique`).

Results:
- `Program.exists_defect`: a source that is not read as a program fails for the defect of the first piece that is not
  derived.
- `Program.rejected_for_complaint`: a source that is not read as a program is rejected for the complaint of the first
  piece that is not derived, at the place of the complaint in the source.
-/
import VarDecl.Proofs.Demands
import VarDecl.Proofs.Tiling

namespace VarDecl

/-! ## Complaints -/

/-- whether the offending text stands in the statement as it is quoted -/
def Cause.IsVerbatim (c : Cause) : Prop :=
  (∃ t, c = .missingKeyword t) ∨ (∃ t, c = .unknownKeyword t) ∨ ∃ t, c = .missingAssignment t

/-- the first thing that is wrong with a statement under a strictness, and how many bytes into the statement -/
inductive Complaint (s : Strictness) (statement : Text) : Cause → Nat → Prop where
  | missingKeyword : ' ' ∉ statement → Complaint s statement (.missingKeyword statement) 0
  | unknownKeyword {keyword text : Text} : statement = keyword ++ ' ' :: text → ' ' ∉ keyword →
      s.keywords = true → (∀ k : Keyword, keyword ≠ k.text) →
      Complaint s statement (.unknownKeyword keyword) 0
  | missingAssignment {keyword text : Text} : statement = keyword ++ ' ' :: text → ' ' ∉ keyword →
      (s.keywords = true → ∃ k : Keyword, keyword = k.text) → '=' ∉ text →
      Complaint s statement (.missingAssignment text) (keyword.byteLength + 1)
  | invalidIdentifier {keyword left raw : Text} {n : Name} : statement = keyword ++ ' ' :: (left ++ '=' :: raw) →
      ' ' ∉ keyword → (s.keywords = true → ∃ k : Keyword, keyword = k.text) → '=' ∉ left → n.SpelledBy left →
      s.identifiers = true → ¬Name.IsWord n.identifier →
      Complaint s statement (.invalidIdentifier n.identifier) (keyword.byteLength + 1)
  | invalidType {keyword left raw typeName : Text} {n : Name} : statement = keyword ++ ' ' :: (left ++ '=' :: raw) →
      ' ' ∉ keyword → (s.keywords = true → ∃ k : Keyword, keyword = k.text) → '=' ∉ left → n.SpelledBy left →
      s.identifiers = true → Name.IsWord n.identifier → n.typeName = some typeName → ¬Name.IsWord typeName →
      Complaint s statement (.invalidType typeName) (keyword.byteLength + 1)

/-! ## Defects -/

namespace Strictness

theorem admitsKeyword_eq_false_iff {s : Strictness} {keyword : Text} :
    s.admitsKeyword keyword = false ↔ s.keywords = true ∧ ∀ k : Keyword, keyword ≠ k.text := by
  rw [← Bool.not_eq_true, admitsKeyword_iff]
  push Not
  rfl

theorem admitsPart_eq_false_iff {s : Strictness} {part : Text} :
    s.admitsPart part = false ↔ s.identifiers = true ∧ ¬Name.IsWord part := by
  rw [← Bool.not_eq_true, admitsPart_iff]
  push Not
  rfl

/-- a name is at fault for its identifier, or else for its type -/
theorem nameCause?_eq_some_iff {s : Strictness} {n : Name} {c : Cause} :
    s.nameCause? n = some c ↔ s.identifiers = true ∧
      ((¬Name.IsWord n.identifier ∧ c = .invalidIdentifier n.identifier) ∨
        (Name.IsWord n.identifier ∧ ∃ t, n.typeName = some t ∧ ¬Name.IsWord t ∧ c = .invalidType t)) := by
  unfold nameCause?
  cases hid : s.admitsPart n.identifier with
  | false =>
    obtain ⟨hs, hword⟩ := admitsPart_eq_false_iff.1 hid
    simp [hs, hword, eq_comm]
  | true =>
    rw [admitsPart_iff] at hid
    simp only [↓reduceIte, Option.map_eq_some_iff, Option.filter_eq_some_iff, Bool.not_eq_true',
      admitsPart_eq_false_iff]
    refine ⟨?_, ?_⟩
    · rintro ⟨t, ⟨ht, hs, hword⟩, rfl⟩
      exact ⟨hs, .inr ⟨hid hs, t, ht, hword, rfl⟩⟩
    · rintro ⟨hs, ⟨hno, -⟩ | ⟨-, t, ht, hword, rfl⟩⟩
      · exact absurd (hid hs) hno
      · exact ⟨t, ⟨ht, hs, hword⟩, rfl⟩

end Strictness

/-- a defect of a piece is a complaint about its statement -/
theorem Form.exists_complaint_of_ofPiece_eq_error {s : Strictness} {piece : Text} {e : Form.Defect}
    (h : Form.ofPiece s piece = .error e) :
    ∃ depth, Complaint s (Text.trim Text.isBlank piece) e.cause depth ∧
      e.depth = Text.byteLength (piece.takeWhile Text.isBlank) + depth := by
  simp only [ofPiece] at h
  split at h
  · rename_i hk
    cases h
    exact ⟨0, .missingKeyword (Text.cutAt?_eq_none_iff.1 hk), rfl⟩
  · rename_i keyword text hk
    obtain ⟨hstatement, hspace⟩ := Text.cutAt?_eq_some_iff.1 hk
    split at h
    · rename_i hword
      rw [Strictness.admitsKeyword_iff] at hword
      split at h
      · rename_i ha
        cases h
        exact ⟨_, .missingAssignment hstatement hspace hword (Text.cutAt?_eq_none_iff.1 ha), Nat.add_assoc _ _ _⟩
      · rename_i left raw ha
        obtain ⟨htext, hassign⟩ := Text.cutAt?_eq_some_iff.1 ha
        rw [htext] at hstatement
        have hspelled : (Name.ofText left).SpelledBy left := Name.spelledBy_iff.2 rfl
        split at h
        · rename_i cause hname
          cases h
          refine ⟨keyword.byteLength + 1, ?_, Nat.add_assoc _ _ _⟩
          obtain ⟨hs, ⟨hno, rfl⟩ | ⟨hyes, t, ht, hno, rfl⟩⟩ := Strictness.nameCause?_eq_some_iff.1 hname
          · exact .invalidIdentifier hstatement hspace hword hassign hspelled hs hno
          · exact .invalidType hstatement hspace hword hassign hspelled hs hyes ht hno
        · cases h
    · rename_i hword
      cases h
      obtain ⟨hs, hno⟩ := Strictness.admitsKeyword_eq_false_iff.1 (Bool.eq_false_iff.2 hword)
      exact ⟨0, .unknownKeyword hstatement hspace hs hno, rfl⟩

/-- a name at fault is what reading a piece comes to, if its keyword is admitted -/
theorem Form.ofPiece_of_nameCause {s : Strictness} {piece keyword left raw : Text} {n : Name} {c : Cause}
    (hstatement : Text.trim Text.isBlank piece = keyword ++ ' ' :: (left ++ '=' :: raw)) (hspace : ' ' ∉ keyword)
    (hword : s.keywords = true → ∃ k : Keyword, keyword = k.text) (hassign : '=' ∉ left) (hspelled : n.SpelledBy left)
    (hname : s.nameCause? n = some c) :
    ofPiece s piece =
      .error ⟨c, Text.byteLength (piece.takeWhile Text.isBlank) + (keyword.byteLength + 1)⟩ := by
  simp only [ofPiece]
  rw [Text.cutAt?_eq_some_iff.2 ⟨hstatement, hspace⟩]
  simp only [Strictness.admitsKeyword_iff.2 hword, Text.cutAt?_eq_some_iff.2 ⟨rfl, hassign⟩,
    Name.spelledBy_iff.1 hspelled, hname, ↓reduceIte, Nat.add_assoc]

namespace Complaint

variable {s : Strictness}

/-- a complaint about the statement of a piece is what reading the piece comes to -/
theorem ofPiece_eq {piece : Text} {c : Cause} {depth : Nat} (h : Complaint s (Text.trim Text.isBlank piece) c depth) :
    Form.ofPiece s piece = .error ⟨c, Text.byteLength (piece.takeWhile Text.isBlank) + depth⟩ := by
  simp only [Form.ofPiece]
  cases h with
  | missingKeyword hspace =>
    rw [Text.cutAt?_eq_none_iff.2 hspace]
    rfl
  | unknownKeyword hstatement hspace hs hno =>
    rw [Text.cutAt?_eq_some_iff.2 ⟨hstatement, hspace⟩]
    simp only [Strictness.admitsKeyword_eq_false_iff.2 ⟨hs, hno⟩]
    rfl
  | missingAssignment hstatement hspace hword hassign =>
    rw [Text.cutAt?_eq_some_iff.2 ⟨hstatement, hspace⟩]
    simp only [Strictness.admitsKeyword_iff.2 hword, Text.cutAt?_eq_none_iff.2 hassign, ↓reduceIte, Nat.add_assoc]
  | invalidIdentifier hstatement hspace hword hassign hspelled hs hno =>
    have hname := Strictness.nameCause?_eq_some_iff.2 ⟨hs, .inl ⟨hno, rfl⟩⟩
    exact Form.ofPiece_of_nameCause hstatement hspace hword hassign hspelled hname
  | invalidType hstatement hspace hword hassign hspelled hs hyes ht hno =>
    have hname := Strictness.nameCause?_eq_some_iff.2 ⟨hs, .inr ⟨hyes, _, ht, hno, rfl⟩⟩
    exact Form.ofPiece_of_nameCause hstatement hspace hword hassign hspelled hname

/-- **There is at most one complaint about a statement.** -/
theorem unique {piece : Text} {c c' : Cause} {n n' : Nat} (h : Complaint s (Text.trim Text.isBlank piece) c n)
    (h' : Complaint s (Text.trim Text.isBlank piece) c' n') : c' = c ∧ n' = n := by
  have hsame := Except.error.inj (h'.ofPiece_eq.symm.trans h.ofPiece_eq)
  obtain ⟨hcause, hdepth⟩ := Form.Defect.mk.inj hsame
  exact ⟨hcause, Nat.add_left_cancel hdepth⟩

/-- a complaint is made at a place between two characters of the statement, and what it quotes verbatim begins there -/
theorem exists_append {statement : Text} {c : Cause} {depth : Nat} (h : Complaint s statement c depth) :
    ∃ u v, statement = u ++ v ∧ u.byteLength = depth ∧ (c.IsVerbatim → c.subject <+: v) := by
  have hbehind : ∀ keyword text : Text, keyword ++ ' ' :: text = (keyword ++ [' ']) ++ text ∧
      Text.byteLength (keyword ++ [' ']) = keyword.byteLength + 1 := by
    intro keyword text
    exact ⟨by rw [List.append_assoc]; rfl, Text.byteLength_append keyword [' ']⟩
  cases h with
  | missingKeyword _ => exact ⟨[], statement, rfl, rfl, fun _ => List.prefix_refl statement⟩
  | unknownKeyword hstatement _ _ _ =>
    exact ⟨[], statement, rfl, rfl, fun _ => by rw [hstatement]; exact List.prefix_append _ _⟩
  | missingAssignment hstatement _ _ _ =>
    obtain ⟨heq, hlength⟩ := hbehind _ _
    exact ⟨_, _, hstatement.trans heq, hlength, fun _ => List.prefix_refl _⟩
  | invalidIdentifier hstatement | invalidType hstatement =>
    obtain ⟨heq, hlength⟩ := hbehind _ _
    refine ⟨_, _, hstatement.trans heq, hlength, ?_⟩
    -- a name is quoted without its spaces, so nothing is said of what stands there
    rintro (⟨_, h⟩ | ⟨_, h⟩ | ⟨_, h⟩)
    all_goals cases h

end Complaint

/-! ## Places -/

/-- a source is what stands in front of a piece, the piece, and the rest -/
theorem Piece.exists_eq_ended_append {source t : Text} {before behind : List Text}
    (h : source.splitOn separator = before ++ t :: behind) :
    ∃ rest, source = Text.ended separator before ++ t ++ rest := by
  obtain ⟨rest, hrest⟩ := Text.exists_intercalate_cons [separator] t behind
  refine ⟨rest, ?_⟩
  calc source
      = [separator].intercalate (before ++ t :: behind) := by rw [← h, List.intercalate_splitOn]
    _ = Text.ended separator before ++ (t ++ rest) := by rw [Text.intercalate_append_cons, hrest]
    _ = Text.ended separator before ++ t ++ rest := (List.append_assoc _ _ _).symm

/-- a piece begins behind the texts in front of it, each with a separator -/
theorem Piece.offset_eq {source : Text} {before behind : List Piece} {p : Piece}
    (h : ofSource source = before ++ p :: behind) : p.offset = (Text.ended separator (before.map text)).byteLength := by
  have htexts : source.splitOn separator = before.map text ++ p.text :: behind.map text := by
    rw [← map_text_ofSource, h, List.map_append, List.map_cons]
  have hlaid : before ++ p :: behind =
      layFrom 0 (before.map text) ++
        layFrom (0 + (Text.ended separator (before.map text)).byteLength) (p.text :: behind.map text) := by
    rw [← h, ofSource, htexts, layFrom_append]
  have hlength : before.length = (layFrom 0 (before.map text)).length := by
    have hmap := congrArg List.length (map_text_layFrom 0 (before.map text))
    rw [List.length_map, List.length_map] at hmap
    exact hmap.symm
  obtain ⟨-, hbehind⟩ := List.append_inj hlaid hlength
  have hp : p = ⟨p.text, 0 + (Text.ended separator (before.map text)).byteLength⟩ := (List.cons.inj hbehind).1
  rw [hp, Nat.zero_add]

/-! ## Sources -/

/-- a piece with a defect is not derived -/
theorem Form.not_derives {s : Strictness} {piece : Text} {e : Defect} (h : ofPiece s piece = .error e) :
    ¬Derives s piece := by
  intro hderived
  obtain ⟨f, hf⟩ := hderived
  rw [ofPiece_eq_ok_iff.2 hf] at h
  cases h

/-- accepted pieces are derived -/
theorem Accepts.derives {setting : Setting} {pieces : List Piece} {ds : List Declaration}
    (h : Accepts setting pieces ds) (hstop : ∀ p ∈ pieces, p.stop < Offset.limit) :
    ∀ q ∈ pieces.map Piece.text, Derives setting.strictness q := by
  induction h with
  | nil => simp
  | cons hd _ ih =>
    obtain ⟨hfirst, hrest⟩ := List.forall_mem_cons.1 hstop
    obtain ⟨f, htext, hf, hm, -⟩ := (Declaration.read_eq_ok_iff hfirst).1 hd
    exact List.forall_mem_cons.2 ⟨⟨f, htext, hf, hm⟩, ih hrest⟩

/-- **A source that is not read fails for the first defect**: the pieces in front are derived, this one is not. -/
theorem Program.exists_defect {setting : Setting} {source : Text} {e : Failure} (h : source.Fits)
    (he : Program.read setting source = .error e) :
    ∃ before failing behind defect, Piece.ofSource source = before ++ failing :: behind ∧
      (∀ q ∈ before.map Piece.text, Derives setting.strictness q) ∧
      Form.ofPiece setting.strictness failing.text = .error defect ∧ e = defect.failure setting failing.offset := by
  obtain ⟨before, failing, behind, ds, hsplit, hds, hfail⟩ := Session.exists_of_read_eq_error he
  have hstop := Piece.stop_lt_limit h
  rw [hsplit, List.forall_mem_append, List.forall_mem_cons] at hstop
  obtain ⟨hstops, hlimit, -⟩ := hstop
  rw [Declaration.read_eq hlimit] at hfail
  cases hf : Form.ofPiece setting.strictness failing.text with
  | ok f =>
    rw [hf] at hfail
    cases hfail
  | error defect =>
    rw [hf] at hfail
    cases hfail
    exact ⟨before, failing, behind, defect, hsplit, hds.derives hstops, hf, rfl⟩

/-- **A source is rejected for the first complaint, and at its place.** If a source is not read as a program, there is
a first piece that is not derived. The failure is a diagnostic under the label of the setting, its cause is the one
complaint about the statement of that piece, and its position keeps the low 32 bits of the offset at which the
complaint is made: behind the pieces in front with their semicolons, the blanks before the statement, and so many
bytes of the statement. At this offset the source can be cut in two, and unless the identifier or the type is at
fault, the second part begins with the text that the cause quotes. -/
theorem Program.rejected_for_complaint (setting : Setting) (source : Text) (e : Failure) (h : source.Fits)
    (he : Program.read setting source = .error e) :
    ∃ before piece behind d depth,
      let statement := Text.trim Text.isBlank piece
      let front : Text := before.flatMap (· ++ [';']) ++ piece.takeWhile Text.isBlank
      source.splitOn ';' = before ++ piece :: behind ∧ (∀ q ∈ before, Derives setting.strictness q) ∧
        ¬Derives setting.strictness piece ∧
        e = .rejected d ∧ d.position.label = setting.label ∧
        Complaint setting.strictness statement d.cause depth ∧
        (∀ c n, Complaint setting.strictness statement c n → c = d.cause ∧ n = depth) ∧
        d.position.offset.toNat = (front.byteLength + depth) % UInt32.size ∧
        front.byteLength + depth ≤ source.byteLength ∧
        ∃ u v, source = u ++ v ∧ u.byteLength = front.byteLength + depth ∧
          (d.cause.IsVerbatim → d.cause.subject <+: v) := by
  obtain ⟨before, failing, behind, defect, hsplit, hderived, hdefect, rfl⟩ := exists_defect h he
  have htexts : source.splitOn ';' = before.map Piece.text ++ failing.text :: behind.map Piece.text := by
    rw [show ';' = Piece.separator from rfl, ← Piece.map_text_ofSource, hsplit, List.map_append, List.map_cons]
  obtain ⟨depth, hcomplaint, hdepth⟩ := Form.exists_complaint_of_ofPiece_eq_error hdefect
  -- the place of the complaint
  obtain ⟨rest, hsource⟩ := Piece.exists_eq_ended_append htexts
  obtain ⟨u, v, hstatement, hu, hverbatim⟩ := hcomplaint.exists_append
  have hpiece := Text.append_trimmedTail Text.isBlank failing.text
  rw [hstatement] at hpiece
  have hcut : source =
      (Text.ended Piece.separator (before.map Piece.text) ++ failing.text.takeWhile Text.isBlank ++ u) ++
        (v ++ (Text.trimmedTail Text.isBlank failing.text ++ rest)) := by
    conv_lhs => rw [hsource, ← hpiece]
    simp only [List.append_assoc]
  have hoffset : failing.offset + defect.depth =
      (Text.ended Piece.separator (before.map Piece.text) ++ failing.text.takeWhile Text.isBlank).byteLength + depth := by
    rw [Piece.offset_eq hsplit, hdepth, Text.byteLength_append, Nat.add_assoc]
  refine ⟨before.map Piece.text, failing.text, behind.map Piece.text, _, depth, htexts, hderived,
    Form.not_derives hdefect, rfl, rfl, hcomplaint, fun c n hc => hcomplaint.unique hc, ?_, ?_, _, _, hcut, ?_,
    fun hc => ?_⟩
  · exact UInt32.toNat_ofNat'.trans (congrArg (· % UInt32.size) hoffset)
  · have hbytes := congrArg Text.byteLength hcut
    rw [Text.byteLength_append, Text.byteLength_append, hu] at hbytes
    exact Nat.le_of_add_right_le (Nat.le_of_eq hbytes.symm)
  · rw [Text.byteLength_append, hu]
    rfl
  · exact (hverbatim hc).trans (List.prefix_append _ _)

/-- a keyword of four bytes behind a wide space, in the second of three pieces; the third would fail too -/
theorem rejected_for_complaint_behind_wide_space :
    let source : Text := "let a = 1;\u3000v\u00e4r  b;x".toList
    let d : Diagnostic := ⟨.missingAssignment " b".toList, ⟨18, shellLabel⟩⟩
    source.Fits ∧ Program.read .shell source = .error (.rejected d) ∧
      ∃ u v, source = u ++ v ∧ u.byteLength = 18 ∧ " b".toList <+: v := by
  intro source d
  have hfits : source.Fits := by decide
  have hread : Program.read .shell source = .error (.rejected d) := rfl
  refine ⟨hfits, hread, ?_⟩
  obtain ⟨before, piece, behind, d', depth, -, -, -, hd, -, -, -, hoffset, hle, u, v, hcut, hu, hverbatim⟩ :=
    Program.rejected_for_complaint .shell source _ hfits hread
  obtain rfl : d' = d := (Failure.rejected.inj hd).symm
  have hsize : source.byteLength = 22 := by decide
  have hplace : d.position.offset.toNat = 18 := by decide
  refine ⟨u, v, hcut, ?_, hverbatim (.inr (.inr ⟨_, rfl⟩))⟩
  -- the source is too small for an offset to lose bits
  rw [Nat.mod_eq_of_lt (by rw [UInt32.size]; omega)] at hoffset
  omega

end VarDecl
