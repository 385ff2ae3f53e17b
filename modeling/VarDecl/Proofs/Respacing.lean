/-
Sources that differ in their layout only.

Two changes leave alone what a piece says: blanks put around it (`Padded`), and, if its statement has a space and an
assignment sign behind that, plain spaces put in between the two or right behind the sign (`Respaced`). A source is
another one laid out anew (`Relaid`) if each piece of it is a piece of the other, changed in these ways or not at all.

Three notions of a blank meet here. Around a statement every character with the property White_Space is dropped, in a
name every plain space, and around a value plain spaces only. They do not get in each other's way, because a statement
that is well formed is one whichever of these blanks are put in (`Form.exists_respaced`): only a value that is empty
hands the spaces in front of it on to the end of the piece.

What a piece amounts to, apart from any place, is its content or the cause why it has none (`Form.verdict`).

Result:
- `Session.relaid_means_same`: a source and the same source laid out anew are both accepted, with the same contents, or
  both rejected, at the same piece and because of the same.
-/
import VarDecl.Proofs.Acceptance
import VarDecl.Proofs.Continuation

namespace VarDecl

/-! ## Layouts of a piece -/

namespace Text

/-- the second text is the first with spaces put in, anywhere -/
inductive SpacedOut : Text → Text → Prop where
  | nil : SpacedOut [] []
  | keep (c : Char) {t u : Text} : SpacedOut t u → SpacedOut (c :: t) (c :: u)
  | space {t u : Text} : SpacedOut t u → SpacedOut t (' ' :: u)

theorem SpacedOut.filter_eq {t u : Text} (h : SpacedOut t u) : u.filter (· != ' ') = t.filter (· != ' ') := by
  induction h with
  | nil => rfl
  | keep c _ ih => rw [List.filter_cons, List.filter_cons, ih]
  | space _ ih => rw [List.filter_cons_of_neg (by decide), ih]

theorem SpacedOut.of_mem {t u : Text} (h : SpacedOut t u) {c : Char} (hc : c ∈ u) : c = ' ' ∨ c ∈ t := by
  induction h with
  | nil => exact .inr hc
  | keep d _ ih =>
    rcases List.mem_cons.1 hc with rfl | hc
    · exact .inr List.mem_cons_self
    · exact (ih hc).imp id (List.mem_cons_of_mem d)
  | space _ ih =>
    rcases List.mem_cons.1 hc with rfl | hc
    · exact .inl rfl
    · exact ih hc

/-- trimming does not see what is put around a text -/
theorem trim_append {p : Char → Bool} {v w : Text} (hv : ∀ c ∈ v, p c = true) (hw : ∀ c ∈ w, p c = true) (t : Text) :
    trim p (v ++ t ++ w) = trim p t := by
  obtain ⟨b, ht, hb⟩ := exists_append_trim p t
  have hfront : ∀ c ∈ v ++ t.takeWhile p, p c = true :=
    List.forall_mem_append.2 ⟨hv, fun c hc => List.mem_takeWhile_imp hc⟩
  have hback : ∀ c ∈ b ++ w, p c = true := List.forall_mem_append.2 ⟨hb, hw⟩
  have hparts : v ++ t ++ w = (v ++ t.takeWhile p) ++ trim p t ++ (b ++ w) := by
    conv_lhs => rw [ht]
    simp
  rw [hparts]
  exact trim_eq_of_append hfront (fun c hc => of_mem_head?_trim hc) (fun c hc => of_mem_getLast?_trim hc) hback

end Text

/-- the second piece is the first with blanks put around it -/
def Padded (q r : Text) : Prop :=
  ∃ v w, (∀ c ∈ v, Text.isBlank c = true) ∧ (∀ c ∈ w, Text.isBlank c = true) ∧ r = v ++ q ++ w

/-- the second piece is the first with spaces put in between the first space of its statement and the first assignment
sign behind that, and right behind that sign -/
def Respaced (q r : Text) : Prop :=
  ∃ keyword left raw left' n,
    Text.trim Text.isBlank q = keyword ++ ' ' :: (left ++ '=' :: raw) ∧ ' ' ∉ keyword ∧ '=' ∉ left ∧
      Text.SpacedOut left left' ∧
      r = q.takeWhile Text.isBlank ++ (keyword ++ ' ' :: (left' ++ '=' :: (List.replicate n ' ' ++ raw))) ++
        Text.trimmedTail Text.isBlank q

/-- the second piece is the first laid out anew: padded, or respaced and then padded -/
def RelaidPiece (q r : Text) : Prop := Padded q r ∨ ∃ m, Respaced q m ∧ Padded m r

/-- the second source consists of the pieces of the first, each of them laid out anew -/
def Relaid (source source' : Text) : Prop :=
  ∃ pieces, List.Forall₂ RelaidPiece (source.splitOn ';') pieces ∧ source' = [';'].intercalate pieces

/-! ## No new pieces -/

theorem Padded.separator_notMem {q r : Text} (h : Padded q r) (hq : ';' ∉ q) : ';' ∉ r := by
  obtain ⟨v, w, hv, hw, rfl⟩ := h
  have hblank : Text.isBlank ';' = false := by decide
  simp only [List.mem_append, not_or]
  refine ⟨⟨fun hmem => ?_, hq⟩, fun hmem => ?_⟩
  · exact absurd (hv ';' hmem) (by rw [hblank]; exact Bool.false_ne_true)
  · exact absurd (hw ';' hmem) (by rw [hblank]; exact Bool.false_ne_true)

theorem Respaced.separator_notMem {q r : Text} (h : Respaced q r) (hq : ';' ∉ q) : ';' ∉ r := by
  obtain ⟨keyword, left, raw, left', n, htrim, -, -, hspaced, rfl⟩ := h
  rw [← Text.append_trimmedTail Text.isBlank q, htrim] at hq
  simp only [List.mem_append, List.mem_cons, not_or] at hq ⊢
  obtain ⟨⟨hfront, hkeyword, hspace, hleft, hassign, hraw⟩, hback⟩ := hq
  refine ⟨⟨hfront, hkeyword, hspace, fun hmem => ?_, hassign, fun hmem => ?_, hraw⟩, hback⟩
  · exact (hspaced.of_mem hmem).elim hspace hleft
  · exact hspace (List.eq_of_mem_replicate hmem)

theorem RelaidPiece.separator_notMem {q r : Text} (h : RelaidPiece q r) (hq : ';' ∉ q) : ';' ∉ r := by
  rcases h with hpadded | ⟨m, hrespaced, hpadded⟩
  · exact hpadded.separator_notMem hq
  · exact hpadded.separator_notMem (hrespaced.separator_notMem hq)

/-- the pieces of a source that is laid out anew are the changed pieces -/
theorem Relaid.forall₂_splitOn {source source' : Text} (h : Relaid source source') :
    List.Forall₂ RelaidPiece (source.splitOn ';') (source'.splitOn ';') := by
  obtain ⟨pieces, hpieces, rfl⟩ := h
  have hold : ∀ q ∈ source.splitOn ';', ';' ∉ q := fun q hq => Text.notMem_of_mem_splitOn hq
  have hboth := (List.forall₂_and_left _ _).2 ⟨hold, hpieces⟩
  have hnew := hboth.flip.imp fun r q hqr => And.intro (hqr.2.separator_notMem hqr.1) hqr
  have hsep : ∀ r ∈ pieces, ';' ∉ r := ((List.forall₂_and_left _ _).1 hnew).1
  have hne : pieces ≠ [] := by
    rintro rfl
    exact List.splitOn_ne_nil _ _ (List.forall₂_nil_right_iff.1 hpieces)
  rwa [List.splitOn_intercalate ';' hsep hne]

/-! ## Verdicts -/

/-- spaces in front of a value are not part of it -/
theorem Value.ofText_spaces (n : Nat) (raw : Text) : ofText (List.replicate n ' ' ++ raw) = ofText raw := by
  have htrim : Text.trim (· == ' ') (List.replicate n ' ' ++ raw ++ []) = Text.trim (· == ' ') raw :=
    Text.trim_append (fun c hc => beq_iff_eq.2 (List.eq_of_mem_replicate hc)) (by simp) raw
  rw [List.append_nil] at htrim
  simp only [ofText, htrim]

/-- what is read of a content under a strictness: the content itself, or the first cause against it -/
def Content.verdict (s : Strictness) (c : Content) : Except Cause Content :=
  if s.admitsKeyword c.keyword = true then
    match s.nameCause? c.name with
    | some cause => .error cause
    | none => .ok c
  else .error (.unknownKeyword c.keyword)

namespace Form

/-- what a piece amounts to: a content, or the cause why there is none -/
def verdict (s : Strictness) (piece : Text) : Except Cause Content :=
  match ofPiece s piece with
  | .ok f => .ok f.content
  | .error e => .error e.cause

/-- a verdict looks at nothing but the statement -/
theorem verdict_eq_of_trim_eq (s : Strictness) {q r : Text}
    (h : Text.trim Text.isBlank q = Text.trim Text.isBlank r) : verdict s q = verdict s r := by
  simp only [verdict, ofPiece, h]
  cases Text.cutAt? ' ' (Text.trim Text.isBlank r) with
  | none => rfl
  | some parts =>
    obtain ⟨keyword, text⟩ := parts
    cases hword : s.admitsKeyword keyword with
    | false => simp [hword]
    | true =>
      simp only [hword, ↓reduceIte]
      cases Text.cutAt? '=' text with
      | none => rfl
      | some parts =>
        obtain ⟨left, raw⟩ := parts
        simp only
        cases s.nameCause? (Name.ofText left) with
        | some cause => rfl
        | none => rfl

/-- the verdict on a well-formed text is the one on what it says -/
theorem WellFormed.verdict_text {f : Form} (hf : f.WellFormed) (s : Strictness) :
    verdict s f.text = f.content.verdict s := by
  by_cases hword : s.admitsKeyword f.keyword = true
  · simp only [verdict, ofPiece, hf.trim_text, hf.cutAt?_statement, hf.cutAt?_declarator, hword, ↓reduceIte]
    have hname : f.content.verdict s =
        match s.nameCause? (Name.ofText f.left) with
        | some cause => .error cause
        | none => .ok f.content := if_pos hword
    rw [hname]
    cases s.nameCause? (Name.ofText f.left) with
    | some cause => rfl
    | none => rfl
  · simp only [verdict, ofPiece, hf.trim_text, hf.cutAt?_statement, hword]
    exact (if_neg hword).symm

/-- a well-formed text stays one with spaces put in, and says the same -/
theorem WellFormed.exists_respaced {f : Form} (hf : f.WellFormed) {left : Text} (h : Text.SpacedOut f.left left)
    (n : Nat) :
    ∃ g : Form, g.WellFormed ∧ g.content = f.content ∧
      g.text = f.before ++ (f.keyword ++ ' ' :: (left ++ '=' :: (List.replicate n ' ' ++ f.raw))) ++ f.after := by
  have hname : Name.ofText left = Name.ofText f.left := by simp only [Name.ofText, h.filter_eq]
  have hvalue : Value.ofText (List.replicate n ' ' ++ f.raw) = Value.ofText f.raw := Value.ofText_spaces n f.raw
  have hassign : '=' ∉ left := by
    intro hmem
    rcases h.of_mem hmem with heq | hmem
    · exact absurd heq (by decide)
    · exact hf.assignment_notMem_left hmem
  by_cases hraw : f.raw = []
  · -- nothing is left of the value, so the spaces are behind the statement
    have hafter : ∀ c ∈ List.replicate n ' ' ++ f.after, Text.isBlank c = true := by
      refine List.forall_mem_append.2 ⟨fun c hc => ?_, hf.after_blank⟩
      rw [List.eq_of_mem_replicate hc]
      decide
    refine ⟨⟨f.before, f.keyword, left, [], List.replicate n ' ' ++ f.after⟩, ?_, ?_, ?_⟩
    · exact ⟨hf.before_blank, hafter, hf.keyword_ne_nil, hf.space_notMem_keyword, hf.keyword_head, hassign, by simp⟩
    · simp only [content, hname, hraw]
    · simp [text, hraw]
  · refine ⟨⟨f.before, f.keyword, left, List.replicate n ' ' ++ f.raw, f.after⟩, ?_, ?_, ?_⟩
    · refine ⟨hf.before_blank, hf.after_blank, hf.keyword_ne_nil, hf.space_notMem_keyword, hf.keyword_head, hassign, ?_⟩
      intro c hc
      rw [List.getLast?_append_of_ne_nil _ hraw] at hc
      exact hf.raw_last c hc
    · simp only [content, hname, hvalue]
    · simp [text]

end Form

theorem Padded.verdict_eq {q r : Text} (h : Padded q r) (s : Strictness) : Form.verdict s r = Form.verdict s q := by
  obtain ⟨v, w, hv, hw, rfl⟩ := h
  exact Form.verdict_eq_of_trim_eq s (Text.trim_append hv hw q)

theorem Respaced.verdict_eq {q r : Text} (h : Respaced q r) (s : Strictness) : Form.verdict s r = Form.verdict s q := by
  obtain ⟨keyword, left, raw, left', n, htrim, hspace, hassign, hspaced, hr⟩ := h
  have hk : Text.cutAt? ' ' (Text.trim Text.isBlank q) = some (keyword, left ++ '=' :: raw) :=
    Text.cutAt?_eq_some_iff.2 ⟨htrim, hspace⟩
  have ha : Text.cutAt? '=' (left ++ '=' :: raw) = some (left, raw) := Text.cutAt?_eq_some_iff.2 ⟨rfl, hassign⟩
  have hf := Form.wellFormed_ofCuts hk ha
  obtain ⟨g, hg, hcontent, htext⟩ := hf.exists_respaced hspaced n
  calc Form.verdict s r
      = Form.verdict s g.text := by
        rw [htext]
        exact congrArg (Form.verdict s) hr
    _ = g.content.verdict s := hg.verdict_text s
    _ = (Form.ofCuts q keyword left raw).content.verdict s := by rw [hcontent]
    _ = Form.verdict s (Form.ofCuts q keyword left raw).text := (hf.verdict_text s).symm
    _ = Form.verdict s q := by rw [Form.text_ofCuts hk ha]

/-- a piece that is laid out anew amounts to the same -/
theorem RelaidPiece.verdict_eq {q r : Text} (h : RelaidPiece q r) (s : Strictness) :
    Form.verdict s q = Form.verdict s r := by
  rcases h with hpadded | ⟨m, hrespaced, hpadded⟩
  · exact (hpadded.verdict_eq s).symm
  · exact ((hpadded.verdict_eq s).trans (hrespaced.verdict_eq s)).symm

/-- blanks around a piece are not part of the value -/
theorem Padded.raw_eq {f g : Form} (hf : f.WellFormed) (hg : g.WellFormed) (h : Padded f.text g.text) :
    g.raw = f.raw := by
  obtain ⟨v, w, hv, hw, htext⟩ := h
  have hpadded : Form.WellFormed ⟨v ++ f.before, f.keyword, f.left, f.raw, f.after ++ w⟩ :=
    ⟨List.forall_mem_append.2 ⟨hv, hf.before_blank⟩, List.forall_mem_append.2 ⟨hf.after_blank, hw⟩, hf.keyword_ne_nil,
      hf.space_notMem_keyword, hf.keyword_head, hf.assignment_notMem_left, hf.raw_last⟩
  have hsame : g.text = Form.text ⟨v ++ f.before, f.keyword, f.left, f.raw, f.after ++ w⟩ := by
    rw [htext]
    simp [Form.text]
  rw [Form.eq_of_text_eq hg hpadded hsame]

/-! ## Readings -/

/-- two readings say the same, or are rejected because of the same -/
inductive Declaration.Alike : Except Failure Declaration → Except Failure Declaration → Prop where
  | accepted {d d' : Declaration} : d'.content = d.content → Alike (.ok d) (.ok d')
  | rejected {e e' : Diagnostic} : e'.cause = e.cause → Alike (.error (.rejected e)) (.error (.rejected e'))

/-- pieces that amount to the same are read alike -/
theorem Declaration.alike_of_verdict_eq {setting : Setting} {q r : Piece}
    (h : Form.verdict setting.strictness q.text = Form.verdict setting.strictness r.text)
    (hq : q.stop < Offset.limit) (hr : r.stop < Offset.limit) :
    Alike (Declaration.read setting q) (Declaration.read setting r) := by
  rw [read_eq hq, read_eq hr]
  simp only [Form.verdict] at h
  cases hf : Form.ofPiece setting.strictness q.text with
  | ok f =>
    cases hg : Form.ofPiece setting.strictness r.text with
    | ok g =>
      rw [hf, hg] at h
      exact .accepted (Except.ok.inj h).symm
    | error e =>
      rw [hf, hg] at h
      cases h
  | error e =>
    cases hg : Form.ofPiece setting.strictness r.text with
    | ok g =>
      rw [hf, hg] at h
      cases h
    | error e' =>
      rw [hf, hg] at h
      exact .rejected (Except.error.inj h).symm

theorem alike_layFrom {setting : Setting} {a b : Nat} {ts us : List Text}
    (h : List.Forall₂ (fun t u => Form.verdict setting.strictness t = Form.verdict setting.strictness u) ts us)
    (hts : ∀ p ∈ Piece.layFrom a ts, p.stop < Offset.limit) (hus : ∀ p ∈ Piece.layFrom b us, p.stop < Offset.limit) :
    List.Forall₂ Declaration.Alike ((Piece.layFrom a ts).map (Declaration.read setting))
      ((Piece.layFrom b us).map (Declaration.read setting)) := by
  induction h generalizing a b with
  | nil => exact .nil
  | cons hverdict _ ih =>
    obtain ⟨ht, hts⟩ := List.forall_mem_cons.1 hts
    obtain ⟨hu, hus⟩ := List.forall_mem_cons.1 hus
    exact .cons (Declaration.alike_of_verdict_eq hverdict ht hu) (ih hts hus)

/-- readings that are alike all succeed, with the same contents, or fail first at the same index, because of the same -/
theorem contents_eq_or_failsFirst {rs rs' : List (Except Failure Declaration)}
    (h : List.Forall₂ Declaration.Alike rs rs') :
    (∃ ds ds' : List Declaration, rs = ds.map .ok ∧ rs' = ds'.map .ok ∧
        ds'.map Declaration.content = ds.map Declaration.content) ∨
      ∃ i e e', Session.FailsFirst rs i (.rejected e) ∧ Session.FailsFirst rs' i (.rejected e') ∧
        e'.cause = e.cause := by
  induction h with
  | nil => exact .inl ⟨[], [], rfl, rfl, rfl⟩
  | cons halike _ ih =>
    cases halike with
    | rejected hcause => exact .inr ⟨0, _, _, .head _ _, .head _ _, hcause⟩
    | @accepted d d' hcontent =>
      rcases ih with ⟨ds, ds', rfl, rfl, hcontents⟩ | ⟨i, e, e', hfails, hfails', hcause⟩
      · refine .inl ⟨d :: ds, d' :: ds', rfl, rfl, ?_⟩
        rw [List.map_cons, List.map_cons, hcontent, hcontents]
      · exact .inr ⟨i + 1, e, e', hfails.cons d, hfails'.cons d', hcause⟩

/-! ## Sources -/

namespace Session

/-- a declaration of a program has the form of its piece -/
theorem exists_form_of_readings_eq {setting : Setting} {source : Text} (h : source.Fits) {ds : List Declaration}
    (hds : readings setting source = ds.map .ok) {i : Nat} {q : Text} {d : Declaration}
    (hq : (source.splitOn ';')[i]? = some q) (hd : ds[i]? = some d) :
    ∃ f : Form, f.text = q ∧ f.WellFormed ∧ ∃ offset, d = f.declaration setting.label offset := by
  rw [show ';' = Piece.separator from rfl, ← Piece.map_text_ofSource, List.getElem?_map, Option.map_eq_some_iff] at hq
  obtain ⟨piece, hpiece, rfl⟩ := hq
  have hread : Declaration.read setting piece = .ok d := by
    have hat := congrArg (·[i]?) hds
    simp only [readings, List.getElem?_map, hpiece, hd, Option.map_some] at hat
    exact Option.some.inj hat
  obtain ⟨f, htext, hf, -, rfl⟩ :=
    (Declaration.read_eq_ok_iff (Piece.stop_lt_limit h piece (List.mem_of_getElem? hpiece))).1 hread
  exact ⟨f, htext, hf, _, rfl⟩

/-- **Layout does not change what a source says.** If a source is laid out anew, by blanks around its pieces and by spaces
around the names and in front of the values of its statements, then both sources are read as programs with the same
contents, and with the same text of the value for each piece that was only padded; or both are rejected, at the same
piece and because of the same. -/
theorem relaid_means_same (setting : Setting) (source source' : Text) (h : source.Fits) (h' : source'.Fits)
    (hrelaid : Relaid source source') :
    let first := (start setting source).read.2
    let second := (start setting source').read.2
    (∃ p p', first = .ok p ∧ second = .ok p' ∧ p'.contents = p.contents ∧
        ∀ (i : Nat) (q q' : Text) (d d' : Declaration), (source.splitOn ';')[i]? = some q →
          (source'.splitOn ';')[i]? = some q' → Padded q q' → p.body[i]? = some d → p'.body[i]? = some d' →
          d'.declarator.literal.raw = d.declarator.literal.raw) ∨
      ∃ i e e', first = .error (.rejected e) ∧ second = .error (.rejected e') ∧
        FailsFirst (readings setting source) i (.rejected e) ∧
        FailsFirst (readings setting source') i (.rejected e') ∧ e'.cause = e.cause := by
  intro first second
  have hverdicts := hrelaid.forall₂_splitOn.imp fun q r hqr => hqr.verdict_eq setting.strictness
  have halike : List.Forall₂ Declaration.Alike (readings setting source) (readings setting source') :=
    alike_layFrom hverdicts (Piece.stop_lt_limit h) (Piece.stop_lt_limit h')
  rcases contents_eq_or_failsFirst halike with ⟨ds, ds', hds, hds', hcontents⟩ | ⟨i, e, e', hfails, hfails', hcause⟩
  · refine .inl ⟨_, _, congrArg Prod.snd (read_of_readings_eq hds), congrArg Prod.snd (read_of_readings_eq hds'),
      hcontents, fun i q q' d d' hq hq' hpadded hd hd' => ?_⟩
    obtain ⟨f, rfl, hf, -, rfl⟩ := exists_form_of_readings_eq h hds hq hd
    obtain ⟨g, rfl, hg, -, rfl⟩ := exists_form_of_readings_eq h' hds' hq' hd'
    exact hpadded.raw_eq hf hg
  · obtain ⟨_, -, hread⟩ := hfails.read_eq
    obtain ⟨_, -, hread'⟩ := hfails'.read_eq
    exact .inr ⟨i, e, e', congrArg Prod.snd hread, congrArg Prod.snd hread', hfails, hfails', hcause⟩

/-- a wide space in front, a space within a name, two before its value, a line break behind, and a value that is empty -/
theorem relaid_means_same_of_two_pieces :
    let source : Text := "let foo:t=1;k =".toList
    let source' : Text := "\u2003let fo o:t=  1\n;k = \t".toList
    source.Fits ∧ source'.Fits ∧ Relaid source source' ∧
      ∃ p p', (start .shell source).read.2 = .ok p ∧ (start .shell source').read.2 = .ok p' ∧
        p'.contents = p.contents := by
  intro source source'
  have hfits : source.Fits := by decide
  have hfits' : source'.Fits := by decide
  have hfirst : Padded "let fo o:t=  1".toList "\u2003let fo o:t=  1\n".toList :=
    ⟨"\u2003".toList, "\n".toList, List.forall_mem_singleton.2 (by decide), List.forall_mem_singleton.2 (by decide), rfl⟩
  have hspaced : Text.SpacedOut "foo:t".toList "fo o:t".toList :=
    .keep 'f' (.keep 'o' (.space (.keep 'o' (.keep ':' (.keep 't' .nil)))))
  have hname : Respaced "let foo:t=1".toList "let fo o:t=  1".toList :=
    ⟨"let".toList, "foo:t".toList, "1".toList, "fo o:t".toList, 2, by decide, by decide, by decide, hspaced, by decide⟩
  have hsecond : Padded "k = ".toList "k = \t".toList :=
    ⟨[], "\t".toList, by simp, List.forall_mem_singleton.2 (by decide), rfl⟩
  have hvalue : Respaced "k =".toList "k = ".toList :=
    ⟨"k".toList, [], [], [], 1, by decide, by decide, by decide, .nil, by decide⟩
  have hrelaid : Relaid source source' :=
    ⟨["\u2003let fo o:t=  1\n".toList, "k = \t".toList],
      .cons (.inr ⟨_, hname, hfirst⟩) (.cons (.inr ⟨_, hvalue, hsecond⟩) .nil), rfl⟩
  refine ⟨hfits, hfits', hrelaid, ?_⟩
  rcases relaid_means_same .shell source source' hfits hfits' hrelaid with
    ⟨p, p', hp, hp', hcontents, -⟩ | ⟨_, _, _, he, -⟩
  · exact ⟨p, p', hp, hp', hcontents⟩
  · obtain ⟨p, hp⟩ : ∃ p, (start .shell source).read.2 = .ok p := ⟨_, rfl⟩
    rw [hp] at he
    cases he

end Session

end VarDecl
