/-
How long the span of a node says that its text is.

The nodes of a tree are listed with their texts and the true offsets of these (`Literal.nodes` to `Program.nodes`). A span
keeps the low 32 bits of where a text begins and of where it ends, so what it tells about the length is known from the
true offset and the true length (`Span.length_ofOffsets`): it is the length modulo 2^32, unless the low bits of the end
come to lie before those of the start.

A reader gives the span of a node from the offset that it was told, the offsets of the parts are sums of sizes. So each
reader has one lemma: every node that it makes lies in the text that was read, at its offset, and its span is cut from
the two true ends (`Node.PlacedIn`).

Result:
- `spans_measure`: the lengths of all spans that come from a literal, a declarator, a declaration or a program, and that
  those of a source below 2^32 bytes are exact.
-/
import VarDecl.Proofs.Splitting

namespace VarDecl

/-! ## Nodes -/

inductive NodeKind where
  | program
  | declaration
  | declarator
  | literal
deriving DecidableEq, Repr

/-- a node of a tree: its span, its text, and the true offset at which the text begins -/
structure Node where
  kind : NodeKind
  span : Span
  start : Nat
  text : Text
deriving DecidableEq, Repr

/-- the node of a literal whose text begins at an offset -/
def Literal.nodes (x : Literal) (start : Nat) : List Node := [⟨.literal, x.span, start, x.raw⟩]

/-- the nodes of a declarator: its own, and the literal behind the first assignment sign -/
def Declarator.nodes (d : Declarator) (start : Nat) (text : Text) : List Node :=
  ⟨.declarator, d.span, start, text⟩ ::
    d.literal.nodes (start + Text.byteLength (text.takeWhile (· != '=')) + 1)

/-- the nodes of a declaration: its own, and those of the declarator behind the keyword and a space -/
def Declaration.nodes (d : Declaration) (start : Nat) (statement : Text) : List Node :=
  ⟨.declaration, d.span, start, statement⟩ ::
    d.declarator.nodes (start + d.keyword.byteLength + 1) (statement.drop (d.keyword.length + 1))

/-- the nodes of a declaration that was read from a piece -/
def Declaration.nodesIn (d : Declaration) (piece : Piece) : List Node :=
  d.nodes piece.statementStart (piece.text.trim Text.isBlank)

/-- the nodes of a program: its own, and those of the declarations, one for each piece of the source -/
def Program.nodes (p : Program) (source : Text) : List Node :=
  ⟨.program, p.span, 0, source⟩ :: ((Piece.ofSource source).zip p.body).flatMap fun q => q.2.nodesIn q.1

/-! ## Narrowed ends -/

/-- **The length of a span is known from the true ends**: it is the number of bytes modulo 2^32, as long as the low bits
of both ends are in order. -/
theorem Span.length_ofOffsets (label : Text) (start bytes : Nat) :
    (ofOffsets label start (start + bytes)).length =
      if start % UInt32.size + bytes % UInt32.size < UInt32.size then .ok (bytes % UInt32.size)
      else .error .spanReversed := by
  have hstart : (UInt32.ofNat start).toNat = start % UInt32.size := UInt32.toNat_ofNat'
  have hstop : (UInt32.ofNat (start + bytes)).toNat = (start + bytes) % UInt32.size := UInt32.toNat_ofNat'
  have hsum : (start + bytes) % UInt32.size = (start % UInt32.size + bytes % UInt32.size) % UInt32.size :=
    Nat.add_mod start bytes UInt32.size
  have hlow : start % UInt32.size < UInt32.size := Nat.mod_lt _ (by decide)
  have hbytes : bytes % UInt32.size < UInt32.size := Nat.mod_lt _ (by decide)
  simp only [length, ofOffsets, Position.ofOffset, UInt32.le_iff_toNat_le, hstart, hstop, hsum]
  by_cases hfits : start % UInt32.size + bytes % UInt32.size < UInt32.size
  · rw [if_pos hfits, Nat.mod_eq_of_lt hfits, if_pos (Nat.le_add_right _ _), Nat.add_sub_cancel_left]
  · -- the end has lost one bit more than the start
    have hwrapped : (start % UInt32.size + bytes % UInt32.size) % UInt32.size < start % UInt32.size := by
      calc (start % UInt32.size + bytes % UInt32.size) % UInt32.size
          = (start % UInt32.size + bytes % UInt32.size - UInt32.size) % UInt32.size :=
            Nat.mod_eq_sub_mod (Nat.not_lt.1 hfits)
        _ = start % UInt32.size + bytes % UInt32.size - UInt32.size := Nat.mod_eq_of_lt (by omega)
        _ < start % UInt32.size := by omega
    rw [if_neg hfits, if_neg (Nat.not_le.2 hwrapped)]

theorem Span.isEmpty_eq_true_iff {s : Span} : s.isEmpty = .ok true ↔ s.length = .ok 0 := by
  unfold isEmpty
  cases s.length with
  | error f => exact ⟨nofun, nofun⟩
  | ok n =>
    show Except.ok (n == 0) = Except.ok true ↔ Except.ok n = Except.ok 0
    rw [Except.ok.injEq, Except.ok.injEq, beq_iff_eq]

theorem Span.isEmpty_eq_error_iff {s : Span} {f : Fault} : s.isEmpty = .error f ↔ s.length = .error f := by
  unfold isEmpty
  cases s.length with
  | error g =>
    show Except.error g = Except.error f ↔ Except.error g = Except.error f
    rw [Except.error.injEq, Except.error.injEq]
  | ok n => exact ⟨nofun, nofun⟩

namespace Node

/-- the text of a node lies within a text that begins at an offset -/
def LiesIn (n : Node) (offset : Nat) (t : Text) : Prop :=
  ∃ before after, t = before ++ n.text ++ after ∧ n.start = offset + before.byteLength

/-- what the span of a node tells about the length of its text -/
structure Measured (n : Node) : Prop where
  length : n.span.length =
    if n.start % UInt32.size + n.text.byteLength % UInt32.size < UInt32.size then .ok (n.text.byteLength % UInt32.size)
    else .error .spanReversed
  isEmpty_eq_true_iff : n.span.isEmpty = .ok true ↔ n.span.length = .ok 0
  isEmpty_eq_error_iff : ∀ f, n.span.isEmpty = .error f ↔ n.span.length = .error f

/-- the node lies in a text, its span is cut from its true ends, and only a literal may be empty -/
structure PlacedIn (n : Node) (label : Text) (offset : Nat) (t : Text) : Prop where
  span : n.span = .ofOffsets label n.start (n.start + n.text.byteLength)
  liesIn : n.LiesIn offset t
  ne_nil : n.kind ≠ .literal → n.text ≠ []

namespace PlacedIn

variable {n : Node} {label t : Text} {offset : Nat}

theorem measured (h : n.PlacedIn label offset t) : n.Measured where
  length := by rw [h.span, Span.length_ofOffsets]
  isEmpty_eq_true_iff := Span.isEmpty_eq_true_iff
  isEmpty_eq_error_iff := fun _ => Span.isEmpty_eq_error_iff

/-- what lies in a part of a text lies in the text -/
theorem within (before part after : Text) (h : n.PlacedIn label (offset + before.byteLength) part)
    (ht : t = before ++ part ++ after) : n.PlacedIn label offset t where
  span := h.span
  liesIn := by
    obtain ⟨front, behind, rfl, hstart⟩ := h.liesIn
    refine ⟨before ++ front, behind ++ after, ?_, ?_⟩
    · rw [ht]
      simp only [List.append_assoc]
    · rw [hstart, Text.byteLength_append, Nat.add_assoc]
  ne_nil := h.ne_nil

/-- what lies in a part of a source stands in the source at its true offset -/
theorem slice {source : Text} {stop : Nat} (h : n.PlacedIn label offset t) (ht : source.Slice offset stop t) :
    source.Slice n.start (n.start + n.text.byteLength) n.text := by
  obtain ⟨before, after, hparts, hstart⟩ := h.liesIn
  exact ht.part before n.text after hparts hstart rfl

end PlacedIn

end Node

/-! ## Readers -/

section Steps

variable {α β : Type} {b : β}

theorem bind_eq_ok_iff {x : Except Failure α} {k : α → Except Failure β} :
    (x >>= k) = .ok b ↔ ∃ a, x = .ok a ∧ k a = .ok b := by
  cases x with
  | error e => simp [Bind.bind, Except.bind]
  | ok a => simp [Bind.bind, Except.bind]

/-- a sum of offsets that is followed by a result stays within the limit -/
theorem Offset.advance_bind_eq_ok_iff {offset bytes : Nat} {k : Nat → Except Failure β} :
    (Offset.advance offset bytes >>= k) = .ok b ↔ offset + bytes < Offset.limit ∧ k (offset + bytes) = .ok b := by
  by_cases h : offset + bytes < Offset.limit
  · rw [Offset.advance_bind h]
    simp [h]
  · rw [Offset.advance_of_le (Nat.not_lt.1 h)]
    simp [h, Bind.bind, Except.bind]

end Steps

variable {setting : Setting} {n : Node}

theorem Literal.placedIn {raw : Text} {offset : Nat} {x : Literal} (h : Literal.read setting raw offset = .ok x) :
    x.raw = raw ∧ ∀ n ∈ x.nodes offset, n.PlacedIn setting.label offset raw := by
  rw [Literal.read, Offset.advance_bind_eq_ok_iff] at h
  obtain ⟨-, h⟩ := h
  cases h
  refine ⟨rfl, fun n hn => ?_⟩
  obtain rfl := List.mem_singleton.1 hn
  exact ⟨rfl, ⟨[], [], by simp, rfl⟩, fun hkind => absurd rfl hkind⟩

/-- a declarator that is read has a name, an assignment sign and a literal that is read behind it -/
theorem Declarator.of_read_eq_ok {text : Text} {offset : Nat} {d : Declarator}
    (h : Declarator.read setting text offset = .ok d) :
    ∃ left raw, text.cutAt? '=' = some (left, raw) ∧
      Literal.read setting raw (offset + left.byteLength + 1) = .ok d.literal ∧
      d.span = .ofOffsets setting.label offset (offset + text.byteLength) := by
  unfold Declarator.read at h
  cases hcut : text.cutAt? '=' with
  | none =>
    rw [hcut] at h
    cases h
  | some parts =>
    obtain ⟨left, raw⟩ := parts
    simp only [hcut] at h
    obtain ⟨-, h⟩ := Offset.advance_bind_eq_ok_iff.1 h
    obtain ⟨-, h⟩ := Offset.advance_bind_eq_ok_iff.1 h
    obtain ⟨literal, hliteral, h⟩ := bind_eq_ok_iff.1 h
    cases hname : setting.strictness.nameCause? (Name.ofText left) with
    | some cause =>
      rw [hname] at h
      cases h
    | none =>
      rw [hname] at h
      obtain ⟨-, h⟩ := Offset.advance_bind_eq_ok_iff.1 h
      cases h
      exact ⟨left, raw, rfl, hliteral, rfl⟩

theorem Declarator.placedIn {text : Text} {offset : Nat} {d : Declarator}
    (h : Declarator.read setting text offset = .ok d) :
    ∀ n ∈ d.nodes offset text, n.PlacedIn setting.label offset text := by
  obtain ⟨left, raw, hcut, hliteral, hspan⟩ := of_read_eq_ok h
  obtain ⟨htext, hleft⟩ := Text.cutAt?_eq_some_iff.1 hcut
  intro n hn
  rcases List.mem_cons.1 hn with rfl | hn
  · refine ⟨hspan, ⟨[], [], by simp, rfl⟩, fun _ hnil => ?_⟩
    simp [htext] at hnil
  · have htake : text.takeWhile (· != '=') = left := by
      rw [htext]
      exact Text.takeWhile_eq_of_append (fun c hc => by simpa using ne_of_mem_of_not_mem hc hleft) (by simp)
    rw [htake] at hn
    have hplaced := (Literal.placedIn hliteral).2 n hn
    refine Node.PlacedIn.within (left ++ ['=']) raw [] ?_ (by simp [htext])
    rwa [Text.byteLength_append, ← Nat.add_assoc]

/-- a declaration that is read has a keyword, a space and a declarator that is read behind it -/
theorem Declaration.of_read_eq_ok {piece : Piece} {d : Declaration} (h : Declaration.read setting piece = .ok d) :
    ∃ text, (piece.text.trim Text.isBlank).cutAt? ' ' = some (d.keyword, text) ∧
      Declarator.read setting text (piece.statementStart + d.keyword.byteLength + 1) = .ok d.declarator ∧
      d.span = .ofOffsets setting.label piece.statementStart
        (piece.statementStart + Text.byteLength (piece.text.trim Text.isBlank)) := by
  unfold Declaration.read at h
  obtain ⟨-, h⟩ := Offset.advance_bind_eq_ok_iff.1 h
  cases hcut : (piece.text.trim Text.isBlank).cutAt? ' ' with
  | none =>
    rw [hcut] at h
    cases h
  | some parts =>
    obtain ⟨keyword, text⟩ := parts
    simp only [hcut] at h
    cases hword : setting.strictness.admitsKeyword keyword with
    | false =>
      rw [hword] at h
      cases h
    | true =>
      simp only [hword, ↓reduceIte] at h
      obtain ⟨-, h⟩ := Offset.advance_bind_eq_ok_iff.1 h
      obtain ⟨-, h⟩ := Offset.advance_bind_eq_ok_iff.1 h
      obtain ⟨declarator, hdeclarator, h⟩ := bind_eq_ok_iff.1 h
      obtain ⟨-, h⟩ := Offset.advance_bind_eq_ok_iff.1 h
      cases h
      exact ⟨text, rfl, hdeclarator, rfl⟩

theorem Declaration.placedIn {piece : Piece} {d : Declaration} (h : Declaration.read setting piece = .ok d) :
    ∀ n ∈ d.nodesIn piece, n.PlacedIn setting.label piece.offset piece.text := by
  obtain ⟨text, hcut, hdeclarator, hspan⟩ := of_read_eq_ok h
  obtain ⟨hstatement, -⟩ := Text.cutAt?_eq_some_iff.1 hcut
  intro n hn
  -- the statement lies in the piece behind the blanks in front of it
  refine Node.PlacedIn.within _ (piece.text.trim Text.isBlank) _ ?_
    (Text.append_trimmedTail Text.isBlank piece.text).symm
  rcases List.mem_cons.1 hn with rfl | hn
  · refine ⟨hspan, ⟨[], [], by simp, rfl⟩, fun _ hnil => ?_⟩
    simp [hstatement] at hnil
  · have hdrop : (piece.text.trim Text.isBlank).drop (d.keyword.length + 1) = text := by
      rw [hstatement]
      simp
    rw [hdrop] at hn
    have hplaced := Declarator.placedIn hdeclarator n hn
    refine Node.PlacedIn.within (d.keyword ++ [' ']) text [] ?_ (by simp [hstatement])
    rwa [Text.byteLength_append, ← Nat.add_assoc]

/-! ## Programs -/

/-- the empty source is no program -/
theorem Program.ne_nil_of_read_eq_ok {source : Text} {p : Program} (hp : Program.read setting source = .ok p) :
    source ≠ [] := by
  rintro rfl
  obtain ⟨hbody, -⟩ := Session.read_eq_ok_iff.1 hp
  rw [show Piece.ofSource [] = [⟨[], 0⟩] from rfl] at hbody
  generalize p.body = ds at hbody
  cases hbody with
  | cons hd _ =>
    obtain ⟨text, hcut, -⟩ := Declaration.of_read_eq_ok hd
    cases hcut

theorem Program.placedIn {source : Text} {p : Program} (hp : Program.read setting source = .ok p) :
    p.body.length = (Piece.ofSource source).length ∧ ∀ n ∈ p.nodes source, n.PlacedIn setting.label 0 source := by
  obtain ⟨hbody, hspan⟩ := Session.read_eq_ok_iff.1 hp
  refine ⟨hbody.length_eq.symm, fun n hn => ?_⟩
  rcases List.mem_cons.1 hn with rfl | hn
  · exact ⟨by simpa using hspan, ⟨[], [], by simp, rfl⟩, fun _ => ne_nil_of_read_eq_ok hp⟩
  · obtain ⟨⟨piece, d⟩, hq, hn⟩ := List.mem_flatMap.1 hn
    have hplaced := Declaration.placedIn (List.forall₂_zip hbody hq) n hn
    obtain ⟨before, after, hsource, hoffset, -⟩ := Piece.slice_of_mem_ofSource (List.of_mem_zip hq).1
    rw [← hoffset, ← Nat.zero_add before.byteLength] at hplaced
    exact hplaced.within before piece.text after hsource

theorem Text.byteLength_eq_zero_iff {t : Text} : t.byteLength = 0 ↔ t = [] := by
  refine ⟨fun h => ?_, fun h => h ▸ rfl⟩
  have hlength := t.length_le_byteLength
  rw [h] at hlength
  exact List.length_eq_zero_iff.1 (Nat.le_zero.1 hlength)

/-- in a source below 2^32 bytes no end loses a bit -/
theorem Node.PlacedIn.exact {label source : Text} (h : n.PlacedIn label 0 source)
    (hsmall : source.byteLength < UInt32.size) :
    n.span.length = .ok n.text.byteLength ∧
      n.span.isEmpty = .ok (decide (n.kind = .literal ∧ n.text = [])) := by
  have hlength : n.span.length = .ok n.text.byteLength := by
    obtain ⟨before, after, hsource, hstart⟩ := h.liesIn
    have hsize := congrArg Text.byteLength hsource
    rw [Text.byteLength_append, Text.byteLength_append] at hsize
    rw [h.measured.length, Nat.mod_eq_of_lt (by omega), Nat.mod_eq_of_lt (by omega), if_pos (by omega)]
  refine ⟨hlength, ?_⟩
  have hempty : (n.text.byteLength == 0) = decide (n.kind = .literal ∧ n.text = []) := by
    rw [Bool.eq_iff_iff, beq_iff_eq, decide_eq_true_eq, Text.byteLength_eq_zero_iff]
    refine ⟨fun hnil => ⟨?_, hnil⟩, fun hboth => hboth.2⟩
    by_contra hkind
    exact h.ne_nil hkind hnil
  rw [Span.isEmpty, hlength, ← hempty]
  rfl

/-- **The spans of all nodes tell the lengths of their texts modulo 2^32, where the low bits of both ends are in order.**
Otherwise they tell none, which is a fault; and a span is empty, or faults when asked whether it is, exactly if its length
is zero, or faults. This holds of literals, declarators and declarations with all nodes in them, at whatever offset they
were read, and of a program and all nodes in it. There is a declaration for each piece of the source, and the source has
the text of each node at the true offset of the node. If the source has less than 2^32 bytes, no length is lost and no
span faults, and the only empty ones are those of literals without a text. -/
theorem spans_measure (setting : Setting) :
    (∀ raw offset x, Literal.read setting raw offset = .ok x →
      x.raw = raw ∧ ∀ n ∈ x.nodes offset, n.LiesIn offset raw ∧ n.Measured) ∧
    (∀ text offset d, Declarator.read setting text offset = .ok d →
      ∀ n ∈ d.nodes offset text, n.LiesIn offset text ∧ n.Measured) ∧
    (∀ piece d, Declaration.read setting piece = .ok d →
      ∀ n ∈ d.nodesIn piece, n.LiesIn piece.offset piece.text ∧ n.Measured) ∧
    ∀ source p, Program.read setting source = .ok p →
      p.body.length = (Piece.ofSource source).length ∧
      ∀ n ∈ p.nodes source, source.Slice n.start (n.start + n.text.byteLength) n.text ∧ n.Measured ∧
        (source.byteLength < UInt32.size → n.span.length = .ok n.text.byteLength ∧
          n.span.isEmpty = .ok (decide (n.kind = .literal ∧ n.text = []))) := by
  refine ⟨fun raw offset x hx => ?_, fun text offset d hd n hn => ?_, fun piece d hd n hn => ?_,
    fun source p hp => ?_⟩
  · obtain ⟨hraw, hplaced⟩ := Literal.placedIn hx
    exact ⟨hraw, fun n hn => ⟨(hplaced n hn).liesIn, (hplaced n hn).measured⟩⟩
  · have hplaced := Declarator.placedIn hd n hn
    exact ⟨hplaced.liesIn, hplaced.measured⟩
  · have hplaced := Declaration.placedIn hd n hn
    exact ⟨hplaced.liesIn, hplaced.measured⟩
  · obtain ⟨hlength, hplaced⟩ := Program.placedIn hp
    exact ⟨hlength, fun n hn => ⟨(hplaced n hn).slice (.whole source), (hplaced n hn).measured, (hplaced n hn).exact⟩⟩

/-- a declarator that begins two bytes before 2^32 and its literal, which begins right there; and a source whose last
value is empty -/
theorem spans_measure_around_wrap :
    let source : Text := "let a=7;var b=".toList
    (∃ d, Declarator.read .shell "x=12".toList 0xfffffffe = .ok d ∧
      d.span.length = .error .spanReversed ∧ d.literal.span.length = .ok 2) ∧
    source.byteLength < UInt32.size ∧ ∃ p d e, Program.read .shell source = .ok p ∧ p.body = [d, e] ∧
      p.span.length = .ok 14 ∧ d.declarator.literal.span.isEmpty = .ok false ∧
      e.declarator.literal.span.isEmpty = .ok true := by
  intro source
  obtain ⟨-, hdeclarator, -, hprogram⟩ := spans_measure .shell
  have hsmall : source.byteLength < UInt32.size := by decide
  refine ⟨⟨_, rfl, ?_, ?_⟩, hsmall, _, _, _, rfl, rfl, ?_, ?_, ?_⟩
  · exact (hdeclarator "x=12".toList 0xfffffffe _ rfl _ (List.mem_cons_self)).2.length
  · exact (hdeclarator "x=12".toList 0xfffffffe _ rfl _ (List.mem_cons_of_mem _ List.mem_cons_self)).2.length
  · exact (((hprogram source _ rfl).2 _ (List.mem_cons_self)).2.2 hsmall).1
  · exact (((hprogram source _ rfl).2 _ (List.mem_of_getElem? (i := 3) rfl)).2.2 hsmall).2
  · exact (((hprogram source _ rfl).2 _ (List.mem_of_getElem? (i := 6) rfl)).2.2 hsmall).2

end VarDecl
