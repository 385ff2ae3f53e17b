/-
Where sums of offsets overflow, and that nothing else goes wrong.

A reading works out its spans by sums of offsets, one sum after another and in between its complaints. The first sum that
passes the limit ends it with a fault. Sums only grow, and a value ends where its declarator and its statement end; so all
the sums of a reading come to three bounds: where the statement begins, where the declarator begins, and where both end.
Which of the three count depends on the complaints that stand before them.

Results:
- `Declarator.bytewise_eq`, `Declaration.bytewise_eq`: worked out on byte offsets, no part of a text is missing and no size
  falls short; what is read, or what goes wrong, is the same.
- `Declarator.read_eq_fault_iff`, `Declaration.read_eq_fault_iff`: the faults of each reader, by these bounds.
- `Piece.layBytewise_eq`: the sums that lay the pieces of a source stay within the limit, the one behind the last piece
  included.
- `Program.bytewise_eq`: so a whole source is read on byte offsets as it is read by cuts.
- `overflows_exactly`: all of these, and that no source that can be held in memory leads to a fault.
-/
import VarDecl.Bytewise
import VarDecl.Proofs.Outcomes

namespace VarDecl

/-! ## Nothing is missing -/

/-- the parts of a name are there -/
theorem Name.bytewise_eq (left : Text) : bytewise left = some (ofText left) := by
  simp only [bytewise, ofText, Text.firstOf?]
  cases hcut : Text.cutAt? ':' (left.filter (· != ' ')) with
  | none => rfl
  | some parts =>
    obtain ⟨identifier, typeName⟩ := parts
    obtain ⟨hidentifier, htypeName⟩ := Text.slice?_of_cutAt? hcut rfl
    simp only [Option.map_some, hidentifier, htypeName]
    rfl

/-- **A declarator is read on byte offsets as it is read by cuts.** -/
theorem Declarator.bytewise_eq (setting : Setting) (text : Text) (offset : Nat) :
    bytewise setting text offset = ExceptT.mk (some (read setting text offset)) := by
  unfold bytewise read
  cases hcut : Text.cutAt? '=' text with
  | none =>
    rw [Text.firstOf?, hcut]
    rfl
  | some parts =>
    obtain ⟨left, raw⟩ := parts
    obtain ⟨hleft, hraw⟩ := Text.slice?_of_cutAt? hcut rfl
    rw [Text.firstOf?, hcut]
    refine (part_bind hraw _).trans ?_
    refine outcome_bind _ fun assignment => outcome_bind _ fun rawStart => outcome_bind _ fun literal => ?_
    refine (part_bind hleft _).trans ((part_bind (Name.bytewise_eq left) _).trans ?_)
    cases hname : setting.strictness.nameCause? (Name.ofText left) with
    | some cause =>
      simp only [hname]
      rfl
    | none =>
      simp only [hname]
      exact outcome_bind _ fun stop => rfl

/-- the blanks in front of a statement have the bytes by which the piece without them is shorter -/
theorem Offset.difference?_dropWhile (p : Char → Bool) (t : Text) :
    difference? t.byteLength (Text.byteLength (t.dropWhile p)) = some (Text.byteLength (t.takeWhile p)) := by
  have hparts : t.byteLength = Text.byteLength (t.takeWhile p) + Text.byteLength (t.dropWhile p) := by
    rw [← Text.byteLength_append, List.takeWhile_append_dropWhile]
  rw [hparts, difference?_add]

/-- **A declaration is read on byte offsets as it is read by cuts.** -/
theorem Declaration.bytewise_eq (setting : Setting) (piece : Piece) :
    bytewise setting piece = ExceptT.mk (some (read setting piece)) := by
  unfold bytewise read
  refine (part_bind (Offset.difference?_dropWhile Text.isBlank piece.text) _).trans ?_
  refine outcome_bind _ fun start => ?_
  cases hcut : Text.cutAt? ' ' (Text.trim Text.isBlank piece.text) with
  | none => rfl
  | some parts =>
    obtain ⟨keyword, text⟩ := parts
    cases hword : setting.strictness.admitsKeyword keyword with
    | false =>
      simp only [hword]
      rfl
    | true =>
      simp only [hword]
      refine outcome_bind _ fun gap => outcome_bind _ fun offset => ?_
      rw [Declarator.bytewise_eq]
      exact outcome_bind _ fun declarator => outcome_bind _ fun stop => rfl

/-! ## Where a reader faults -/

section Steps

variable {α β : Type} {f : Fault}

theorem bind_eq_fault_iff {x : Except Failure α} {k : α → Except Failure β} :
    (x >>= k) = .error (.fault f) ↔ x = .error (.fault f) ∨ ∃ a, x = .ok a ∧ k a = .error (.fault f) := by
  cases x with
  | error e => simp [Bind.bind, Except.bind]
  | ok a => simp [Bind.bind, Except.bind]

/-- a sum faults itself, or what follows it does -/
theorem Offset.advance_bind_eq_fault_iff {offset bytes : Nat} {k : Nat → Except Failure α} :
    (Offset.advance offset bytes >>= k) = .error (.fault f) ↔
      f = .offsetOverflow ∧ Offset.limit ≤ offset + bytes ∨
        offset + bytes < Offset.limit ∧ k (offset + bytes) = .error (.fault f) := by
  by_cases h : offset + bytes < Offset.limit
  · rw [Offset.advance_bind h]
    simp [h]
  · have hle := Nat.not_lt.1 h
    rw [Offset.advance_of_le hle]
    simp [h, hle, eq_comm, Bind.bind, Except.bind]

/-- of two sums in a row, the second counts -/
theorem Offset.advance_twice_eq_fault_iff {offset m n : Nat} {k : Nat → Except Failure α} :
    (Offset.advance offset m >>= fun middle => Offset.advance middle n >>= k) = .error (.fault f) ↔
      f = .offsetOverflow ∧ Offset.limit ≤ offset + m + n ∨
        offset + m + n < Offset.limit ∧ k (offset + m + n) = .error (.fault f) := by
  rw [Offset.advance_bind_eq_fault_iff, Offset.advance_bind_eq_fault_iff]
  refine ⟨?_, ?_⟩
  · rintro (⟨hf, hle⟩ | ⟨-, h⟩)
    · exact .inl ⟨hf, by omega⟩
    · exact h
  · intro h
    by_cases hle : Offset.limit ≤ offset + m
    · rcases h with ⟨hf, -⟩ | ⟨hlt, -⟩
      · exact .inl ⟨hf, hle⟩
      · omega
    · exact .inr ⟨Nat.not_le.1 hle, h⟩

end Steps

variable {setting : Setting} {f : Fault}

theorem Literal.read_eq_fault_iff {raw : Text} {offset : Nat} :
    Literal.read setting raw offset = .error (.fault f) ↔
      f = .offsetOverflow ∧ Offset.limit ≤ offset + raw.byteLength := by
  rw [Literal.read, Offset.advance_bind_eq_fault_iff]
  exact or_iff_left fun h => nomatch h.2

/-- **A declarator faults exactly if it has an assignment sign and ends past the limit**, whatever its name. -/
theorem Declarator.read_eq_fault_iff {text : Text} {offset : Nat} :
    Declarator.read setting text offset = .error (.fault f) ↔
      f = .offsetOverflow ∧ '=' ∈ text ∧ Offset.limit ≤ offset + text.byteLength := by
  unfold Declarator.read
  cases hcut : Text.cutAt? '=' text with
  | none =>
    have hmem : '=' ∉ text := Text.cutAt?_eq_none_iff.1 hcut
    exact ⟨nofun, fun h => absurd h.2.1 hmem⟩
  | some parts =>
    obtain ⟨left, raw⟩ := parts
    have hmem : '=' ∈ text := by simp [(Text.cutAt?_eq_some_iff.1 hcut).1]
    have hsize : text.byteLength = left.byteLength + (1 + raw.byteLength) := Text.byteLength_of_cutAt? hcut
    simp only
    rw [Offset.advance_twice_eq_fault_iff, bind_eq_fault_iff, Literal.read_eq_fault_iff]
    refine ⟨?_, ?_⟩
    · rintro (⟨hf, hle⟩ | ⟨-, ⟨hf, hle⟩ | ⟨literal, -, h⟩⟩)
      · exact ⟨hf, hmem, by omega⟩
      · exact ⟨hf, hmem, by omega⟩
      · cases hname : setting.strictness.nameCause? (Name.ofText left) with
        | some cause =>
          rw [hname] at h
          cases h
        | none =>
          rw [hname] at h
          rcases Offset.advance_bind_eq_fault_iff.1 h with ⟨hf, hle⟩ | ⟨-, h⟩
          · exact ⟨hf, hmem, hle⟩
          · cases h
    · rintro ⟨hf, -, hle⟩
      -- a declarator that ends past the limit overflows at its assignment sign or at the end of its value
      by_cases hsign : Offset.limit ≤ offset + left.byteLength + 1
      · exact .inl ⟨hf, hsign⟩
      · exact .inr ⟨Nat.not_le.1 hsign, .inl ⟨hf, by omega⟩⟩

theorem Declarator.mem_of_read_eq_ok {text : Text} {offset : Nat} {d : Declarator}
    (h : Declarator.read setting text offset = .ok d) : '=' ∈ text := by
  unfold Declarator.read at h
  cases hcut : Text.cutAt? '=' text with
  | none =>
    rw [hcut] at h
    cases h
  | some parts => simp [(Text.cutAt?_eq_some_iff.1 hcut).1]

/-- the offset at which the statement of a piece begins -/
def Piece.statementStart (piece : Piece) : Nat :=
  piece.offset + Text.byteLength (piece.text.takeWhile Text.isBlank)

namespace Declaration

variable {piece : Piece}

theorem read_of_le_statementStart (h : Offset.limit ≤ piece.statementStart) :
    Declaration.read setting piece = .error (.fault .offsetOverflow) := by
  unfold Declaration.read
  rw [Offset.advance_of_le h]
  rfl

section Statement

variable (hstart : piece.statementStart < Offset.limit)
include hstart

theorem read_of_missing (h : Text.cutAt? ' ' (piece.text.trim Text.isBlank) = none) :
    Declaration.read setting piece =
      .error (setting.rejection (.missingKeyword (piece.text.trim Text.isBlank)) piece.statementStart) := by
  unfold Declaration.read
  refine (Offset.advance_bind hstart _).trans ?_
  simp only [h]
  rfl

variable {keyword text : Text} (hcut : Text.cutAt? ' ' (piece.text.trim Text.isBlank) = some (keyword, text))
include hcut

/-- a keyword that is not admitted is looked at before any sum behind it -/
theorem read_of_not_admits (h : setting.strictness.admitsKeyword keyword = false) :
    Declaration.read setting piece = .error (setting.rejection (.unknownKeyword keyword) piece.statementStart) := by
  unfold Declaration.read
  refine (Offset.advance_bind hstart _).trans ?_
  simp only [hcut, h]
  rfl

/-- behind an admitted keyword there are the sums up to the declarator, those of the declarator, and its end -/
theorem read_eq_fault_iff_of_admits (h : setting.strictness.admitsKeyword keyword = true) :
    Declaration.read setting piece = .error (.fault f) ↔
      f = .offsetOverflow ∧ (Offset.limit ≤ piece.statementStart + keyword.byteLength + 1 ∨
        '=' ∈ text ∧ Offset.limit ≤ piece.statementStart + Text.byteLength (piece.text.trim Text.isBlank)) := by
  have hsize : Text.byteLength (piece.text.trim Text.isBlank) = keyword.byteLength + (1 + text.byteLength) :=
    Text.byteLength_of_cutAt? hcut
  unfold Declaration.read
  rw [Offset.advance_bind hstart, show piece.offset + _ = piece.statementStart from rfl]
  simp only [hcut, h, ↓reduceIte]
  rw [Offset.advance_twice_eq_fault_iff, bind_eq_fault_iff, Declarator.read_eq_fault_iff]
  refine ⟨?_, ?_⟩
  · rintro (⟨hf, hle⟩ | ⟨-, ⟨hf, hmem, hle⟩ | ⟨declarator, hdeclarator, h⟩⟩)
    · exact ⟨hf, .inl hle⟩
    · exact ⟨hf, .inr ⟨hmem, by omega⟩⟩
    · rcases Offset.advance_bind_eq_fault_iff.1 h with ⟨hf, hle⟩ | ⟨-, h⟩
      · exact ⟨hf, .inr ⟨Declarator.mem_of_read_eq_ok hdeclarator, hle⟩⟩
      · cases h
  · rintro ⟨hf, hle⟩
    by_cases hspace : Offset.limit ≤ piece.statementStart + keyword.byteLength + 1
    · exact .inl ⟨hf, hspace⟩
    · obtain ⟨hmem, hle⟩ := hle.resolve_left hspace
      exact .inr ⟨Nat.not_le.1 hspace, .inl ⟨hf, hmem, by omega⟩⟩

end Statement

/-- **A declaration faults exactly if its statement begins past the limit, or has an admitted keyword and then begins its
declarator past the limit, or also has an assignment sign and ends past the limit.** -/
theorem read_eq_fault_iff :
    let start := piece.statementStart
    let statement := piece.text.trim Text.isBlank
    Declaration.read setting piece = .error (.fault f) ↔
      f = .offsetOverflow ∧ (Offset.limit ≤ start ∨ ∃ keyword text, statement.cutAt? ' ' = some (keyword, text) ∧
        setting.strictness.admitsKeyword keyword = true ∧
        (Offset.limit ≤ start + keyword.byteLength + 1 ∨
          '=' ∈ text ∧ Offset.limit ≤ start + statement.byteLength)) := by
  intro start statement
  by_cases hle : Offset.limit ≤ start
  · rw [read_of_le_statementStart hle]
    simp only [hle, true_or, and_true, Except.error.injEq, Failure.fault.injEq, eq_comm]
  · have hstart : start < Offset.limit := Nat.not_le.1 hle
    cases hcut : statement.cutAt? ' ' with
    | none =>
      rw [read_of_missing hstart hcut]
      simp [hle, Setting.rejection]
    | some parts =>
      obtain ⟨keyword, text⟩ := parts
      cases hword : setting.strictness.admitsKeyword keyword with
      | false =>
        rw [read_of_not_admits hstart hcut hword]
        simp [hle, hword, Setting.rejection]
      | true =>
        rw [read_eq_fault_iff_of_admits hstart hcut hword]
        simp [hle, hword, start, statement]

end Declaration

/-! ## Whole sources -/

/-- the sums that lay texts stay within the limit if the last of them does -/
theorem Piece.layBytewise_eq {offset : Nat} {ts : List Text}
    (h : offset + (Text.ended separator ts).byteLength < Offset.limit) :
    layBytewise offset ts = .ok (layFrom offset ts) := by
  induction ts generalizing offset with
  | nil => rfl
  | cons t ts ih =>
    rw [Text.ended_cons, Text.byteLength_append, Text.byteLength_cons] at h
    have hsize : Offset.add t.byteLength separator.utf8Size = .ok (t.byteLength + separator.utf8Size) :=
      if_pos (by omega)
    have hnext : Offset.add offset (t.byteLength + separator.utf8Size) =
        .ok (offset + t.byteLength + separator.utf8Size) := by
      rw [Nat.add_assoc]
      exact if_pos (by omega)
    have hrest : layBytewise (offset + t.byteLength + separator.utf8Size) ts =
        .ok (layFrom (offset + t.byteLength + separator.utf8Size) ts) := ih (by omega)
    simp only [layBytewise, hsize, hnext, hrest, layFrom, Bind.bind, Except.bind, pure, Except.pure]

theorem Piece.layBytewise_splitOn {source : Text} (h : source.Fits) :
    layBytewise 0 (source.splitOn separator) = .ok (ofSource source) := by
  refine layBytewise_eq ?_
  rw [byteLength_ended_splitOn, Nat.zero_add, show separator.utf8Size = 1 from rfl]
  unfold Text.Fits Text.maxBytes at h
  unfold Offset.limit
  omega

theorem mapM_bytewise (setting : Setting) (pieces : List Piece) :
    pieces.mapM (Declaration.bytewise setting) = ExceptT.mk (some (pieces.mapM (Declaration.read setting))) := by
  induction pieces with
  | nil => rfl
  | cons piece pieces ih =>
    rw [List.mapM_cons, List.mapM_cons, Declaration.bytewise_eq, ih]
    exact outcome_bind _ fun d => outcome_bind _ fun ds => rfl

theorem Accepts.mapM_eq {pieces : List Piece} {ds : List Declaration} (h : Accepts setting pieces ds) :
    pieces.mapM (Declaration.read setting) = .ok ds := by
  induction h with
  | nil => rfl
  | cons hd _ ih =>
    rw [List.mapM_cons, hd, ih]
    rfl

/-- a program is read as its pieces are read one after another -/
theorem Program.read_eq_mapM (setting : Setting) (source : Text) :
    Program.read setting source = (do
      let body ← (Piece.ofSource source).mapM (Declaration.read setting)
      return ⟨body, .ofOffsets setting.label 0 source.byteLength⟩) := by
  rcases accepts_or_fails setting (Piece.ofSource source) with ⟨ds, hds⟩ | ⟨_, _, _, _, e, hsplit, hds, he⟩
  · rw [Program.read, Session.read_of_accepts hds, hds.mapM_eq]
    rfl
  · rw [Program.read, Session.read_of_fails hsplit hds he, hsplit, List.mapM_append, hds.mapM_eq, List.mapM_cons, he]
    rfl

theorem Program.bytewise_eq {source : Text} (setting : Setting) (h : source.Fits) :
    bytewise setting source = ExceptT.mk (some (read setting source)) := by
  rw [bytewise, Piece.layBytewise_splitOn h, read_eq_mapM]
  show ((Piece.ofSource source).mapM (Declaration.bytewise setting) >>= _) = _
  rw [mapM_bytewise]
  exact outcome_bind _ fun body => rfl

/-- **Sums of offsets overflow exactly where a text does not fit below the limit, and nothing else goes wrong.** A literal
faults exactly if it ends past the limit. A declarator faults exactly if it has an assignment sign and ends past the
limit, whatever is demanded of its name. A declaration faults exactly if its statement begins past the limit, or if the
statement has a space behind an admitted keyword and the declarator begins past the limit, or has an assignment sign and
the statement ends past the limit. Worked out on byte offsets, declarators and declarations come to the same: no part of a
text is missing and no size falls short. So a source that can be held in memory is read or rejected, and it is laid into
its pieces and read without a fault on byte offsets, too. -/
theorem overflows_exactly (setting : Setting) :
    (∀ raw offset f, Literal.read setting raw offset = .error (.fault f) ↔
      f = .offsetOverflow ∧ Offset.limit ≤ offset + raw.byteLength) ∧
    (∀ text offset, Declarator.bytewise setting text offset = ExceptT.mk (some (Declarator.read setting text offset)) ∧
      ∀ f, Declarator.read setting text offset = .error (.fault f) ↔
        f = .offsetOverflow ∧ '=' ∈ text ∧ Offset.limit ≤ offset + text.byteLength) ∧
    (∀ piece : Piece, Declaration.bytewise setting piece = ExceptT.mk (some (Declaration.read setting piece)) ∧
      let start := piece.offset + Text.byteLength (piece.text.takeWhile Text.isBlank)
      let statement := piece.text.trim Text.isBlank
      ∀ f, Declaration.read setting piece = .error (.fault f) ↔
        f = .offsetOverflow ∧ (Offset.limit ≤ start ∨ ∃ keyword text : Text, statement = keyword ++ ' ' :: text ∧
          ' ' ∉ keyword ∧ (setting.strictness.keywords = true → ∃ k : Keyword, keyword = k.text) ∧
          (Offset.limit ≤ start + keyword.byteLength + 1 ∨
            '=' ∈ text ∧ Offset.limit ≤ start + statement.byteLength))) ∧
    ∀ source : Text, source.Fits →
      Piece.layBytewise 0 (source.splitOn ';') = .ok (Piece.ofSource source) ∧
      Program.bytewise setting source = ExceptT.mk (some (Program.read setting source)) ∧
      ((∃ p, Program.read setting source = .ok p) ∨ ∃ d, Program.read setting source = .error (.rejected d)) := by
  refine ⟨fun raw offset f => Literal.read_eq_fault_iff, fun text offset => ?_, fun piece => ?_,
    fun source hfits => ?_⟩
  · exact ⟨Declarator.bytewise_eq setting text offset, fun f => Declarator.read_eq_fault_iff⟩
  · refine ⟨Declaration.bytewise_eq setting piece, ?_⟩
    intro start statement f
    have hfault := @Declaration.read_eq_fault_iff setting f piece
    simp only [Text.cutAt?_eq_some_iff, Strictness.admitsKeyword_iff, and_assoc] at hfault
    exact hfault
  · refine ⟨Piece.layBytewise_splitOn hfits, Program.bytewise_eq setting hfits, ?_⟩
    rcases CommandLine.read_or_rejected setting hfits with ⟨p, hp, -⟩ | ⟨d, hd, -⟩
    · exact .inl ⟨p, hp⟩
    · exact .inr ⟨d, hd⟩

/-- a name that is rejected, at an offset from which its declarator does not fit: the fault comes first -/
theorem overflows_exactly_before_rejection :
    let setting : Setting := ⟨shellLabel, .strict⟩
    let source : Text := "let 1=2".toList
    source.Fits ∧ (∃ d, Program.read setting source = .error (.rejected d)) ∧
      Declarator.read setting "1=2".toList 0 = .error (setting.rejection (.invalidIdentifier "1".toList) 0) ∧
      Declarator.read setting "1=2".toList 0xfffffffffffffffd = .error (.fault .offsetOverflow) := by
  intro setting source
  have hfits : source.Fits := by decide
  have hrejected : Declarator.read setting "1=2".toList 0 = .error (setting.rejection (.invalidIdentifier "1".toList) 0) :=
    rfl
  obtain ⟨-, hdeclarator, -, hsource⟩ := overflows_exactly setting
  refine ⟨hfits, ?_, hrejected, ((hdeclarator _ _).2 _).2 ⟨rfl, by decide, by decide⟩⟩
  obtain ⟨-, -, ⟨p, hp⟩ | hd⟩ := hsource source hfits
  · have hread : ∃ e, Program.read setting source = .error e := ⟨_, rfl⟩
    obtain ⟨e, he⟩ := hread
    rw [he] at hp
    cases hp
  · exact hd

end VarDecl
