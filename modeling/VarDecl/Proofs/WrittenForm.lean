/-
Writing a tree down and reading it again.

`Content.Legible` says which contents survive: those with a keyword that a reading can cut off, a name without the
characters that end its parts, and a value that is a number or a text which is not taken for one and which trimming
leaves alone. A legible content has a form whose text is its written form (`Form.ofContent`), and whatever is read is
legible (`Form.WellFormed.legible_content`). So legibility is exactly what the round trip needs.

Results:
- `exists_read_written`: legible contents that meet the demands are read back from their written form.
- `reread_of_read`: what was read under some setting is read back under the same setting, from its written form.
- `reread_iff_legible`: a tree, read or made by hand, is read back from its written form exactly if it has a declaration
  and all its declarations are legible.
-/
import VarDecl.Proofs.Acceptance
import VarDecl.Proofs.Decimal

namespace VarDecl

/-! ## Legible contents -/

/-- a number, or a text that is no number and that stays as it is between spaces and at the end of a piece -/
def Value.Legible : Value → Prop
  | .number _ => True
  | .text t =>
    Text.Decimal.read? t = none ∧ ';' ∉ t ∧ t.head? ≠ some ' ' ∧ ∀ c ∈ t.getLast?, Text.isBlank c = false

/-- parts without the characters that end them or that are dropped from them -/
structure Name.Legible (n : Name) : Prop where
  identifier : ∀ c ∈ n.identifier, c ∉ [' ', ':', '=', ';']
  typeName : ∀ t ∈ n.typeName, ∀ c ∈ t, c ∉ [' ', '=', ';']

/-- a keyword that is cut off as a whole, with a legible name and a legible value -/
structure Content.Legible (c : Content) : Prop where
  keyword_ne_nil : c.keyword ≠ []
  keyword : ∀ x ∈ c.keyword, x ∉ [' ', ';']
  keyword_head : ∀ x ∈ c.keyword.head?, Text.isBlank x = false
  name : c.name.Legible
  value : c.value.Legible

def Content.source (c : Content) : Text := c.keyword ++ ' ' :: (c.name.source ++ " = ".toList ++ c.value.source)

def Content.written (cs : List Content) : Text := List.intercalate "; ".toList (cs.map Content.source)

theorem Program.source_eq_written (p : Program) : p.source = Content.written p.contents := by
  rw [Program.source, Content.written, Program.contents, List.map_map]
  rfl

/-! ## Values -/

namespace Value

/-- a value that is read is legible, if the text that it is read from ends where a statement can end -/
theorem legible_ofText {raw : Text} (hsep : ';' ∉ raw) (hlast : ∀ c ∈ raw.getLast?, Text.isBlank c = false) :
    (ofText raw).Legible := by
  cases hread : Text.Decimal.read? (raw.trim (· == ' ')) with
  | some n =>
    simp only [ofText, hread]
    exact trivial
  | none =>
    simp only [ofText, hread]
    obtain ⟨b, hraw, hb⟩ := Text.exists_append_trim (· == ' ') raw
    refine ⟨hread, fun hmem => hsep ?_, fun hhead => ?_, fun c hc => ?_⟩
    · rw [hraw]
      exact List.mem_append_left _ (List.mem_append_right _ hmem)
    · exact absurd (Text.of_mem_head?_trim hhead) (by decide)
    · -- nothing was trimmed behind, for the last character would have been a space
      obtain ⟨r, hr⟩ : ∃ r, raw.trim (· == ' ') = r ++ [c] := List.getLast?_eq_some_iff.1 hc
      rcases List.eq_nil_or_concat b with rfl | ⟨b', x, rfl⟩
      · apply hlast c
        rw [hraw, hr]
        simp
      · have hx : x = ' ' := by simpa using hb x (by simp)
        have hblank := hlast x (by rw [hraw]; simp)
        rw [hx] at hblank
        exact absurd hblank (by decide)

variable {v : Value}

theorem Legible.ofText_eq (hv : v.Legible) {raw : Text} (h : raw.trim (· == ' ') = v.source) : ofText raw = v := by
  cases v with
  | number n => simp only [ofText, h, source, Text.Decimal.read?_ofInt64]
  | text t => simp only [ofText, h, source, hv.1]

theorem Legible.separator_notMem (hv : v.Legible) : ';' ∉ v.source := by
  cases v with
  | number n =>
    intro hmem
    rcases Text.Decimal.of_mem_ofInt64 hmem with h | h
    · exact absurd h (by decide)
    · exact absurd h (by decide)
  | text t => exact hv.2.1

theorem Legible.head_source (hv : v.Legible) : ∀ c ∈ v.source.head?, (c == ' ') = false := by
  intro c hc
  rw [beq_eq_false_iff_ne]
  rintro rfl
  cases v with
  | number n =>
    exact absurd (Text.Decimal.isBlank_of_mem_ofInt64 (List.mem_of_mem_head? hc)) (by decide)
  | text t => exact hv.2.2.1 hc

theorem Legible.last_source (hv : v.Legible) : ∀ c ∈ v.source.getLast?, Text.isBlank c = false := by
  intro c hc
  cases v with
  | number n => exact Text.Decimal.isBlank_of_mem_ofInt64 (List.mem_of_mem_getLast? hc)
  | text t => exact hv.2.2.2 c hc

/-- the space that is written before a value is dropped again -/
theorem Legible.ofText_spaced (hv : v.Legible) : ofText (' ' :: v.source) = v := by
  apply hv.ofText_eq
  have htrim := Text.trim_eq_of_append (p := (· == ' ')) (a := [' ']) (b := []) (by simp) hv.head_source
    (fun c hc => beq_eq_false_iff_ne.2 ?_) (by simp)
  · simpa using htrim
  · rintro rfl
    exact absurd (hv.last_source ' ' hc) (by decide)

end Value

/-! ## Names -/

namespace Name

/-- a name that is read is legible -/
theorem SpelledBy.legible {n : Name} {left : Text} (h : n.SpelledBy left) (hassign : '=' ∉ left) (hsep : ';' ∉ left) :
    n.Legible := by
  have hmem : ∀ c ∈ left.filter (· != ' '), c ∉ [' ', '=', ';'] := by
    intro c hc
    obtain ⟨hleft, hspace⟩ := List.mem_filter.1 hc
    simp only [List.mem_cons, List.not_mem_nil, or_false, not_or]
    exact ⟨by simpa using hspace, fun hc => hassign (hc ▸ hleft), fun hc => hsep (hc ▸ hleft)⟩
  rw [h.spelling] at hmem
  refine ⟨?_, ?_⟩
  · intro c hc hforbidden
    have hc' := hmem c (List.mem_append_left _ hc)
    have hcolon : c ≠ ':' := fun heq => h.colon_notMem_identifier (heq ▸ hc)
    simp only [List.mem_cons, List.not_mem_nil, or_false] at hc' hforbidden
    tauto
  · intro t ht c hc
    rw [Option.mem_def.1 ht] at hmem
    exact hmem c (List.mem_append_right _ (List.mem_cons_of_mem _ hc))

variable {n : Name}

theorem Legible.notMem_source (hn : n.Legible) {c : Char} (hc : c ∈ ['=', ';']) : c ∉ n.source := by
  intro hmem
  rcases List.mem_append.1 hmem with hmem | hmem
  · exact hn.identifier c hmem (List.mem_cons_of_mem ' ' (List.mem_cons_of_mem ':' hc))
  · cases htype : n.typeName with
    | none => simp [htype] at hmem
    | some t =>
      rw [htype] at hmem
      rcases List.mem_append.1 hmem with hmem | hmem
      · -- neither character stands between the parts
        rcases List.mem_pair.1 hc with rfl | rfl
        · exact absurd hmem (by decide)
        · exact absurd hmem (by decide)
      · exact hn.typeName t htype c hmem (List.mem_cons_of_mem ' ' hc)

/-- a written name, with the space behind it, spells the name -/
theorem Legible.spelledBy_source (hn : n.Legible) : n.SpelledBy (n.source ++ [' ']) := by
  refine ⟨fun hcolon => hn.identifier ':' hcolon (by simp), ?_⟩
  have hidentifier : n.identifier.filter (· != ' ') = n.identifier :=
    List.filter_eq_self.2 fun c hc => bne_iff_ne.2 fun heq => hn.identifier c hc (by simp [heq])
  rw [source, List.filter_append, List.filter_append, hidentifier]
  cases htype : n.typeName with
  | none => simp
  | some t =>
    have ht : t.filter (· != ' ') = t :=
      List.filter_eq_self.2 fun c hc => bne_iff_ne.2 fun heq => hn.typeName t htype c hc (by simp [heq])
    simp [ht]

end Name

/-! ## Contents and forms -/

theorem Content.Legible.separator_notMem {c : Content} (hc : c.Legible) : ';' ∉ c.source := by
  have hequals : ';' ∉ " = ".toList := by decide
  have hkeyword : ';' ∉ c.keyword := fun hmem => hc.keyword ';' hmem (by simp)
  simp only [source, List.mem_append, List.mem_cons, not_or]
  exact ⟨hkeyword, by decide, ⟨hc.name.notMem_source (by simp), hequals⟩, hc.value.separator_notMem⟩

namespace Form

theorem WellFormed.legible_content {f : Form} (hf : f.WellFormed) (hsep : ';' ∉ f.text) : f.content.Legible := by
  simp only [text, List.mem_append, List.mem_cons, not_or] at hsep
  obtain ⟨⟨⟨⟨-, hkeyword⟩, -, hleft⟩, -, hraw⟩, -⟩ := hsep
  refine ⟨hf.keyword_ne_nil, fun x hx => ?_, hf.keyword_head, ?_, Value.legible_ofText hraw hf.raw_last⟩
  · simp only [List.mem_cons, List.not_mem_nil, or_false, not_or]
    exact ⟨fun heq => hf.space_notMem_keyword (heq ▸ hx), fun heq => hkeyword (heq ▸ hx)⟩
  · exact Name.SpelledBy.legible (Name.spelledBy_iff.2 rfl) hf.assignment_notMem_left hleft

/-- the form of a written content behind some blanks; an empty value leaves its space to the end of the piece -/
def ofContent (before : Text) (c : Content) : Form :=
  if c.value.source = [] then ⟨before, c.keyword, c.name.source ++ [' '], [], [' ']⟩
  else ⟨before, c.keyword, c.name.source ++ [' '], ' ' :: c.value.source, []⟩

theorem text_ofContent (before : Text) (c : Content) : (ofContent before c).text = before ++ c.source := by
  unfold ofContent
  split
  · rename_i hvalue
    simp [text, Content.source, hvalue]
  · simp [text, Content.source]

section OfContent

variable {before : Text} {c : Content} (hc : c.Legible)
include hc

theorem wellFormed_ofContent (hbefore : ∀ x ∈ before, Text.isBlank x = true) : (ofContent before c).WellFormed := by
  have hspace : ' ' ∉ c.keyword := fun hmem => hc.keyword ' ' hmem (by simp)
  have hassign : '=' ∉ c.name.source ++ [' '] := by
    rw [List.mem_append, not_or]
    exact ⟨hc.name.notMem_source (by simp), by decide⟩
  unfold ofContent
  split
  · have hafter : ∀ x ∈ [' '], Text.isBlank x = true := List.forall_mem_singleton.2 (by decide)
    exact ⟨hbefore, hafter, hc.keyword_ne_nil, hspace, hc.keyword_head, hassign, by simp⟩
  · rename_i hvalue
    refine ⟨hbefore, by simp, hc.keyword_ne_nil, hspace, hc.keyword_head, hassign, fun x hx => ?_⟩
    rw [List.getLast?_cons_of_ne_nil hvalue] at hx
    exact hc.value.last_source x hx

theorem content_ofContent (before : Text) : (ofContent before c).content = c := by
  have hname : Name.ofText (c.name.source ++ [' ']) = c.name := Name.spelledBy_iff.1 hc.name.spelledBy_source
  unfold ofContent
  split
  · rename_i hvalue
    have hempty : Value.ofText [] = c.value := hc.value.ofText_eq hvalue.symm
    simp only [content, hname, hempty]
  · simp only [content, hname, hc.value.ofText_spaced]

end OfContent

/-- the forms of contents written one after another -/
def ofContents : List Content → List Form
  | [] => []
  | c :: cs => ofContent [] c :: cs.map (ofContent [' '])

theorem map_content_ofContents {cs : List Content} (h : ∀ c ∈ cs, c.Legible) : (ofContents cs).map content = cs := by
  cases cs with
  | nil => rfl
  | cons c cs =>
    obtain ⟨hc, hcs⟩ := List.forall_mem_cons.1 h
    have hrest : cs.map (content ∘ ofContent [' ']) = cs :=
      calc cs.map (content ∘ ofContent [' '])
          = cs.map id := List.map_congr_left fun d hd => content_ofContent (hcs d hd) [' ']
        _ = cs := List.map_id cs
    rw [ofContents, List.map_cons, content_ofContent hc, List.map_map, hrest]

theorem wellFormed_of_mem_ofContents {cs : List Content} (h : ∀ c ∈ cs, c.Legible) {f : Form}
    (hf : f ∈ ofContents cs) : f.WellFormed := by
  cases cs with
  | nil => simp [ofContents] at hf
  | cons c cs =>
    obtain ⟨hc, hcs⟩ := List.forall_mem_cons.1 h
    rcases List.mem_cons.1 hf with rfl | hf
    · exact wellFormed_ofContent hc (by simp)
    · obtain ⟨d, hd, rfl⟩ := List.mem_map.1 hf
      exact wellFormed_ofContent (hcs d hd) (List.forall_mem_singleton.2 (by decide))

end Form

/-! ## Written contents -/

/-- the blank of a two-character separator belongs to the text behind it -/
theorem intercalate_pair (a b : Char) (t : Text) (ts : List Text) :
    [a, b].intercalate (t :: ts) = [a].intercalate (t :: ts.map (b :: ·)) := by
  induction ts generalizing t with
  | nil => simp
  | cons u ts ih =>
    rw [List.intercalate_cons_cons, ih u, List.map_cons, List.intercalate_cons_cons, List.intercalate_cons_cons_left]
    simp

theorem splitOn_written {cs : List Content} (hne : cs ≠ []) (h : ∀ c ∈ cs, c.Legible) :
    (Content.written cs).splitOn Piece.separator = (Form.ofContents cs).map Form.text := by
  obtain ⟨c, cs, rfl⟩ := List.exists_cons_of_ne_nil hne
  obtain ⟨hc, hcs⟩ := List.forall_mem_cons.1 h
  have htexts : (Form.ofContents (c :: cs)).map Form.text = c.source :: cs.map fun d => ' ' :: d.source := by
    simp [Form.ofContents, Form.text_ofContent]
  have hwritten : Content.written (c :: cs) =
      [Piece.separator].intercalate (c.source :: cs.map fun d => ' ' :: d.source) := by
    rw [Content.written, List.map_cons, show "; ".toList = [Piece.separator, ' '] from rfl, intercalate_pair,
      List.map_map]
    rfl
  have hsep : ∀ t ∈ c.source :: cs.map fun d => ' ' :: d.source, Piece.separator ∉ t := by
    refine List.forall_mem_cons.2 ⟨hc.separator_notMem, fun t ht => ?_⟩
    obtain ⟨d, hd, rfl⟩ := List.mem_map.1 ht
    exact List.not_mem_cons_of_ne_of_not_mem (by decide) (hcs d hd).separator_notMem
  calc (Content.written (c :: cs)).splitOn Piece.separator
      = ([Piece.separator].intercalate (c.source :: cs.map fun d => ' ' :: d.source)).splitOn Piece.separator := by
        rw [hwritten]
    _ = c.source :: cs.map fun d => ' ' :: d.source :=
        List.splitOn_intercalate Piece.separator hsep (List.cons_ne_nil _ _)
    _ = (Form.ofContents (c :: cs)).map Form.text := htexts.symm

/-- **Legible contents are read back from their written form**, under every strictness that they meet. -/
theorem exists_read_written {setting : Setting} {cs : List Content} (hne : cs ≠ []) (hlegible : ∀ c ∈ cs, c.Legible)
    (hmeets : ∀ c ∈ cs, c.Meets setting.strictness) (h : (Content.written cs).Fits) :
    ∃ p, Program.read setting (Content.written cs) = .ok p ∧ p.contents = cs := by
  refine ⟨_, (Program.read_eq_ok_iff h).2 ⟨Form.ofContents cs, splitOn_written hne hlegible, fun f hf => ?_, rfl⟩, ?_⟩
  · have hcontent : f.content ∈ cs := by
      rw [← Form.map_content_ofContents hlegible]
      exact List.mem_map_of_mem hf
    exact ⟨Form.wellFormed_of_mem_ofContents hlegible hf, Form.meets_iff.2 (hmeets _ hcontent)⟩
  · rw [Program.contents, Form.map_content_declarationsFrom, Form.map_content_ofContents hlegible]

/-- **What is read is legible and meets the demands**, and there is at least one declaration. -/
theorem legible_of_read {setting : Setting} {source : Text} {p : Program} (h : source.Fits)
    (hp : Program.read setting source = .ok p) :
    p.contents ≠ [] ∧ ∀ c ∈ p.contents, c.Legible ∧ c.Meets setting.strictness := by
  obtain ⟨fs, hts, hfs, rfl⟩ := (Program.read_eq_ok_iff h).1 hp
  rw [Program.contents, Form.map_content_declarationsFrom]
  refine ⟨?_, ?_⟩
  · intro hnil
    rw [List.map_eq_nil_iff.1 hnil] at hts
    exact List.splitOn_ne_nil _ _ hts
  · intro c hc
    obtain ⟨f, hf, rfl⟩ := List.mem_map.1 hc
    obtain ⟨hwf, hm⟩ := hfs f hf
    have hpiece : f.text ∈ source.splitOn Piece.separator := by
      rw [hts]
      exact List.mem_map_of_mem hf
    exact ⟨hwf.legible_content (Text.notMem_of_mem_splitOn hpiece), Form.meets_iff.1 hm⟩

/-! ## Round trips -/

/-- **Reading, writing and reading again changes nothing.** Whatever was read under a setting is read back from its
written form under the same setting: the same declarations in the same order, with equal keywords, names and values, and
so with the same written form. -/
theorem reread_of_read (setting : Setting) (source : Text) (p : Program) (hsource : source.Fits)
    (hp : Program.read setting source = .ok p) (hwritten : p.source.Fits) :
    ∃ q, Program.read setting p.source = .ok q ∧ q.contents = p.contents ∧ q.source = p.source := by
  obtain ⟨hne, hcontents⟩ := legible_of_read hsource hp
  rw [p.source_eq_written] at hwritten ⊢
  obtain ⟨q, hq, hsame⟩ := exists_read_written hne (fun c hc => (hcontents c hc).1) (fun c hc => (hcontents c hc).2)
    hwritten
  exact ⟨q, hq, hsame, by rw [q.source_eq_written, hsame]⟩

/-- spaces in a name, a number with a sign and leading zeros, an empty type, and values that begin with a tab or are empty -/
theorem reread_of_read_odd_layout :
    let source : Text := "\u2003let f o o : my type = +007 ;\nvar x:=\t'q' ;k =".toList
    let written : Text := "let foo: mytype = 7; var x:  = \t'q'; k  = ".toList
    source.Fits ∧ (∃ p, Program.read .shell source = .ok p ∧ p.source = written) ∧ written.Fits ∧
      ∃ q, Program.read .shell written = .ok q ∧ q.source = written := by
  intro source written
  have hsource : source.Fits := by decide
  have hwritten : written.Fits := by decide
  have hread : (Program.read .shell source).map Program.source = .ok written := by decide +kernel
  cases hp : Program.read .shell source with
  | error e =>
    rw [hp] at hread
    cases hread
  | ok p =>
    rw [hp] at hread
    have hsame : p.source = written := Except.ok.inj hread
    obtain ⟨q, hq, -, hagain⟩ := reread_of_read .shell source p hsource hp (by rwa [hsame])
    rw [hsame] at hq hagain
    exact ⟨hsource, ⟨p, rfl, hsame⟩, hwritten, q, hq, hagain⟩

/-- **Exactly the legible trees survive being written.** A tree, whoever made it and whatever its spans and raw texts are,
is read back from its written form if and only if it has a declaration and every declaration of it is legible. -/
theorem reread_iff_legible (p : Program) (h : p.source.Fits) :
    (∃ q, Program.read .shell p.source = .ok q ∧ q.contents = p.contents) ↔
      p.body ≠ [] ∧ ∀ d ∈ p.body, d.content.Legible := by
  have hbody : (p.contents ≠ [] ∧ ∀ c ∈ p.contents, c.Legible) ↔ p.body ≠ [] ∧ ∀ d ∈ p.body, d.content.Legible := by
    simp [Program.contents]
  rw [← hbody]
  refine ⟨?_, ?_⟩
  · intro hreread
    obtain ⟨q, hq, hsame⟩ := hreread
    obtain ⟨hne, hcontents⟩ := legible_of_read h hq
    rw [hsame] at hne hcontents
    exact ⟨hne, fun c hc => (hcontents c hc).1⟩
  · intro hall
    obtain ⟨hne, hlegible⟩ := hall
    rw [p.source_eq_written] at h ⊢
    exact exists_read_written hne hlegible (fun c _ => c.meets_lenient) h

/-- a tree made by hand, of one declaration without an identifier -/
def handmade (value : Value) : Program :=
  let nowhere : Span := ⟨.null, .null⟩
  ⟨[⟨"k=".toList, ⟨⟨[], some ":".toList⟩, ⟨value, [], nowhere⟩, nowhere⟩, nowhere⟩], nowhere⟩

/-- an empty value survives, a text that looks like a number does not -/
theorem reread_iff_legible_of_texts :
    ((handmade (.text [])).source.Fits ∧
        ∃ q, Program.read .shell (handmade (.text [])).source = .ok q ∧ q.contents = (handmade (.text [])).contents) ∧
      (handmade (.text "12".toList)).source.Fits ∧
        ¬∃ q, Program.read .shell (handmade (.text "12".toList)).source = .ok q ∧
          q.contents = (handmade (.text "12".toList)).contents := by
  refine ⟨⟨by decide, (reread_iff_legible _ (by decide)).2 ⟨by simp [handmade], ?_⟩⟩, by decide, fun h => ?_⟩
  · intro d hd
    obtain rfl := List.mem_singleton.1 hd
    have hkeyword : ∀ x ∈ ['k', '='], x ∉ [' ', ';'] :=
      List.forall_mem_cons.2 ⟨by decide, List.forall_mem_singleton.2 (by decide)⟩
    have hhead : ∀ x ∈ ['k', '='].head?, Text.isBlank x = false := by
      intro x hx
      cases hx
      decide
    exact ⟨by decide, hkeyword, hhead, ⟨by simp [Declaration.content], by simp [Declaration.content]⟩,
      by decide, by simp, by simp, by simp⟩
  · have hlegible := ((reread_iff_legible _ (by decide)).1 h).2 _ List.mem_cons_self
    exact absurd hlegible.value.1 (by decide)

end VarDecl
