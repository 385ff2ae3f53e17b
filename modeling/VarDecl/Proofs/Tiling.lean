/-
Where the declarations of a program stand in its source.

A text stands in a source between two byte offsets (`Text.Slice`) if the source has it there; both offsets then lie between
two characters. The true offsets of a declaration are its `Extent`; a span keeps the low 32 bits of two of them
(`Span.Marks`). `Declaration.StandsAt` says what the source has at each part of an extent, and `Extent.Tiles` what it has
around and between extents.

The readers never look at the source as a whole: each works out its offsets from the one it was given and from the sizes
of its parts. That these offsets are the true ones is one fact about parts of a text (`Text.Slice.part`), applied to the
text of a form and to the forms of a source one after another.

Result:
- `Program.spans_tile`: the spans of a program are those of extents at which the declarations stand, in order, and which
  cover the source but for blanks and one separator between two of them.
-/
import Mathlib.Data.List.Chain
import VarDecl.Proofs.Acceptance
import VarDecl.Text.Bytes

namespace VarDecl

/-! ## Parts of a source -/

namespace Text.Slice

variable {source t : Text} {start stop : Nat}

theorem whole (source : Text) : Slice source 0 source.byteLength source := ⟨[], [], by simp, rfl, rfl⟩

theorem isBoundary_start (h : Slice source start stop t) : source.isBoundary start = true := by
  obtain ⟨before, after, hsource, hstart, -⟩ := h
  exact isBoundary_iff.2 ⟨before, t ++ after, by rw [hsource, List.append_assoc], hstart⟩

theorem isBoundary_stop (h : Slice source start stop t) : source.isBoundary stop = true := by
  obtain ⟨before, after, hsource, -, hstop⟩ := h
  exact isBoundary_iff.2 ⟨before ++ t, after, hsource, hstop⟩

theorem stop_eq (h : Slice source start stop t) : stop = start + t.byteLength := by
  obtain ⟨before, after, -, rfl, rfl⟩ := h
  exact byteLength_append before t

/-- the offsets of a part are told by the sizes of what is in front of it and of the part itself -/
theorem part {w : Text} {a b : Nat} (h : Slice source a b w) (u t v : Text) (hw : w = u ++ t ++ v)
    (hstart : start = a + u.byteLength) (hstop : stop = start + t.byteLength) : Slice source start stop t := by
  obtain ⟨before, after, rfl, rfl, -⟩ := h
  refine ⟨before ++ u, v ++ after, ?_, ?_, ?_⟩
  · simp [hw]
  · rw [byteLength_append, hstart]
  · rw [byteLength_append, byteLength_append, hstop, hstart]

/-- the first of several joined texts -/
theorem head {sep : Char} {a b : Nat} {ts : List Text} (h : Slice source a b ([sep].intercalate (t :: ts))) :
    Slice source a (a + t.byteLength) t := by
  obtain ⟨x, hx⟩ := exists_intercalate_cons [sep] t ts
  exact h.part [] t x hx rfl rfl

/-- the joined texts behind the first -/
theorem tail {sep : Char} {a b : Nat} {u : Text} {ts : List Text}
    (h : Slice source a b ([sep].intercalate (t :: u :: ts))) :
    Slice source (a + t.byteLength + sep.utf8Size) b ([sep].intercalate (u :: ts)) := by
  have hstop := h.stop_eq
  rw [List.intercalate_cons_cons] at h hstop
  refine h.part (t ++ [sep]) _ [] (by simp) ?_ ?_
  · simp [Nat.add_assoc]
  · simp only [byteLength_append, byteLength_cons, byteLength_nil] at hstop
    omega

end Text.Slice

theorem Text.utf8Size_space : (' ' : Char).utf8Size = 1 := rfl

theorem Text.utf8Size_assignment : ('=' : Char).utf8Size = 1 := rfl

/-- a text of blanks -/
def Text.AllBlank (t : Text) : Prop := ∀ c ∈ t, isBlank c = true

/-! ## True offsets -/

/-- the true offsets of a declaration: of its keyword, of its name, of its value, and of the end of all three -/
structure Extent where
  start : Nat
  nameStart : Nat
  rawStart : Nat
  stop : Nat
deriving DecidableEq, Repr

/-- the ends of a span are these offsets modulo 2^32, under a label -/
structure Span.Marks (s : Span) (label : Text) (start stop : Nat) : Prop where
  start_label : s.start.label = label
  stop_label : s.stop.label = label
  start_offset : s.start.offset.toNat = start % UInt32.size
  stop_offset : s.stop.offset.toNat = stop % UInt32.size

theorem Span.marks_ofOffsets (label : Text) (start stop : Nat) : (ofOffsets label start stop).Marks label start stop :=
  ⟨rfl, rfl, UInt32.toNat_ofNat', UInt32.toNat_ofNat'⟩

/-- what the source has at the extent of a declaration, which was read from a piece, and what its three spans mark -/
structure Declaration.StandsAt (d : Declaration) (label source piece : Text) (x : Extent) : Prop where
  span : d.span.Marks label x.start x.stop
  declarator_span : d.declarator.span.Marks label x.nameStart x.stop
  literal_span : d.declarator.literal.span.Marks label x.rawStart x.stop
  statement : source.Slice x.start x.stop (Text.trim Text.isBlank piece)
  /-- the keyword and one space stand in front of the declarator -/
  nameStart_eq : x.nameStart = x.start + d.keyword.byteLength + 1
  declarator : ∃ t, Text.trim Text.isBlank piece = d.keyword ++ ' ' :: t ∧ source.Slice x.nameStart x.stop t
  raw : source.Slice x.rawStart x.stop d.declarator.literal.raw
  /-- the sign right in front of the value is the first one of the declarator -/
  assignment : source.Slice (x.rawStart - 1) x.rawStart ['=']
  name : ∃ left, source.Slice x.nameStart (x.rawStart - 1) left ∧ '=' ∉ left

namespace Extent

/-- only blanks stand before the first extent and behind the last, only blanks and one separator between two extents -/
structure Tiles (xs : List Extent) (source : Text) : Prop where
  before : ∀ x ∈ xs.head?, ∃ v, Text.AllBlank v ∧ source.Slice 0 x.start v
  between : xs.IsChain fun x y => ∃ v w, Text.AllBlank v ∧ Text.AllBlank w ∧ source.Slice x.stop y.start (v ++ ';' :: w)
  behind : ∀ x ∈ xs.getLast?, ∃ w, Text.AllBlank w ∧ source.Slice x.stop source.byteLength w

theorem Tiles.isChain_lt {xs : List Extent} {source : Text} (h : Tiles xs source) :
    xs.IsChain fun x y => x.stop < y.start := by
  refine h.between.imp fun x y hxy => ?_
  obtain ⟨v, w, -, -, hslice⟩ := hxy
  have hstart := hslice.stop_eq
  have hsep : (';' : Char).utf8Size = 1 := rfl
  simp only [Text.byteLength_append, Text.byteLength_cons, hsep] at hstart
  omega

/-- if each extent begins behind its neighbour, it begins behind all those before it -/
theorem pairwise_lt {xs : List Extent} (hchain : xs.IsChain fun x y => x.stop < y.start)
    (hne : ∀ x ∈ xs, x.start < x.stop) : xs.Pairwise fun x y => x.stop < y.start := by
  induction xs with
  | nil => exact .nil
  | cons x xs ih =>
    obtain ⟨-, hrest⟩ := List.forall_mem_cons.1 hne
    obtain ⟨hhead, hchain⟩ := List.isChain_cons.1 hchain
    have hpairs := ih hchain hrest
    refine List.pairwise_cons.2 ⟨fun y hy => ?_, hpairs⟩
    cases xs with
    | nil => simp at hy
    | cons z xs =>
      have hz : x.stop < z.start := hhead z rfl
      rcases List.mem_cons.1 hy with rfl | hy
      · exact hz
      · have hzy := (List.pairwise_cons.1 hpairs).1 y hy
        have hlength := hrest z List.mem_cons_self
        omega

end Extent

/-! ## Forms in a source -/

namespace Form

/-- the extent of a form whose text begins at an offset -/
def extent (offset : Nat) (f : Form) : Extent :=
  let start := offset + f.before.byteLength
  let nameStart := start + f.keyword.byteLength + 1
  let rawStart := nameStart + f.left.byteLength + 1
  ⟨start, nameStart, rawStart, rawStart + f.raw.byteLength⟩

/-- the extents of forms, laid from an offset on with a separator after each -/
def extentsFrom (offset : Nat) : List Form → List Extent
  | [] => []
  | f :: fs => f.extent offset :: extentsFrom (offset + f.text.byteLength + Piece.separator.utf8Size) fs

theorem length_extentsFrom (label : Text) (offset : Nat) (fs : List Form) :
    (extentsFrom offset fs).length = (declarationsFrom label offset fs).length := by
  induction fs generalizing offset with
  | nil => rfl
  | cons f fs ih => simp only [extentsFrom, declarationsFrom, List.length_cons, ih]

theorem start_lt_stop_of_mem_extentsFrom {offset : Nat} {fs : List Form} {x : Extent} (hx : x ∈ extentsFrom offset fs) :
    x.start < x.stop := by
  induction fs generalizing offset with
  | nil => simp [extentsFrom] at hx
  | cons f fs ih =>
    rcases List.mem_cons.1 hx with rfl | hx
    · simp only [extent]
      omega
    · exact ih hx

section Placed

variable {source : Text} {f : Form} {offset stop : Nat} (h : source.Slice offset stop f.text)
include h

theorem slice_statement : source.Slice (f.extent offset).start (f.extent offset).stop f.statement := by
  refine h.part f.before _ f.after f.text_eq rfl ?_
  simp [extent, statement, Text.utf8Size_space, Text.utf8Size_assignment, Nat.add_assoc]

theorem slice_declarator :
    source.Slice (f.extent offset).nameStart (f.extent offset).stop (f.left ++ '=' :: f.raw) := by
  refine h.part (f.before ++ f.keyword ++ [' ']) _ f.after (by simp [text]) ?_ ?_
  · simp [extent, Text.utf8Size_space, Nat.add_assoc]
  · simp [extent, Text.utf8Size_assignment, Nat.add_assoc]

theorem slice_raw : source.Slice (f.extent offset).rawStart (f.extent offset).stop f.raw := by
  refine h.part (f.before ++ f.keyword ++ ' ' :: f.left ++ ['=']) _ f.after (by simp [text]) ?_ rfl
  simp [extent, Text.utf8Size_space, Text.utf8Size_assignment, Nat.add_assoc]

theorem slice_assignment : source.Slice ((f.extent offset).rawStart - 1) (f.extent offset).rawStart ['='] := by
  refine h.part (f.before ++ f.keyword ++ ' ' :: f.left) _ (f.raw ++ f.after) (by simp [text]) ?_ rfl
  simp only [extent, Nat.add_sub_cancel, Text.byteLength_append, Text.byteLength_cons, Text.utf8Size_space]
  omega

theorem slice_left : source.Slice (f.extent offset).nameStart ((f.extent offset).rawStart - 1) f.left := by
  refine h.part (f.before ++ f.keyword ++ [' ']) _ ('=' :: f.raw ++ f.after) (by simp [text]) ?_ rfl
  simp [extent, Text.utf8Size_space, Nat.add_assoc]

theorem slice_before : source.Slice offset (f.extent offset).start f.before :=
  h.part [] _ (f.statement ++ f.after) (by simp [text_eq]) rfl rfl

/-- **The declaration of a form stands where the form was read.** -/
theorem standsAt_extent (hf : f.WellFormed) (label : Text) :
    (f.declaration label offset).StandsAt label source f.text (f.extent offset) where
  span := Span.marks_ofOffsets label _ _
  declarator_span := Span.marks_ofOffsets label _ _
  literal_span := Span.marks_ofOffsets label _ _
  statement := by
    rw [hf.trim_text]
    exact slice_statement h
  nameStart_eq := rfl
  declarator := ⟨_, hf.trim_text, slice_declarator h⟩
  raw := slice_raw h
  assignment := slice_assignment h
  name := ⟨f.left, slice_left h, hf.assignment_notMem_left⟩

end Placed

section Joined

variable {source : Text} {offset stop : Nat}

theorem byteLength_text (f : Form) :
    f.text.byteLength = f.before.byteLength + f.statement.byteLength + f.after.byteLength := by
  rw [text_eq, Text.byteLength_append, Text.byteLength_append]

/-- an extent ends where the statement does, in front of the blanks behind it -/
theorem extent_stop (offset : Nat) (f : Form) :
    (f.extent offset).stop = offset + (f.before ++ f.statement).byteLength := by
  simp [extent, statement, Text.utf8Size_space, Text.utf8Size_assignment, Nat.add_assoc]

theorem slice_after (f : Form) (h : source.Slice offset stop f.text) :
    source.Slice (f.extent offset).stop stop f.after := by
  refine h.part (f.before ++ f.statement) _ [] (by simp [text_eq]) (f.extent_stop offset) ?_
  rw [h.stop_eq, extent_stop, byteLength_text, Text.byteLength_append]
  omega

/-- between the statements of two forms stand the blanks of both and a separator -/
theorem slice_between {f g : Form} {ts : List Text}
    (h : source.Slice offset stop ([Piece.separator].intercalate (f.text :: g.text :: ts))) :
    source.Slice (f.extent offset).stop (g.extent (offset + f.text.byteLength + Piece.separator.utf8Size)).start
      (f.after ++ ';' :: g.before) := by
  obtain ⟨x, hx⟩ := Text.exists_intercalate_cons [Piece.separator] g.text ts
  rw [List.intercalate_cons_cons, hx] at h
  refine h.part (f.before ++ f.statement) _ (g.statement ++ g.after ++ x) ?_ (f.extent_stop offset) ?_
  · simp [text_eq, Piece.separator]
  · rw [extent_stop, byteLength_text]
    simp only [extent, Text.byteLength_append, Text.byteLength_cons, Piece.separator]
    omega

variable {fs : List Form} (h : source.Slice offset source.byteLength ([Piece.separator].intercalate (fs.map text)))
include h

theorem standsAt_extentsFrom (label : Text) (hfs : ∀ f ∈ fs, f.WellFormed) :
    List.Forall₂ (fun piece (q : Declaration × Extent) => q.1.StandsAt label source piece q.2) (fs.map text)
      ((declarationsFrom label offset fs).zip (extentsFrom offset fs)) := by
  induction fs generalizing offset with
  | nil => exact .nil
  | cons f fs ih =>
    obtain ⟨hf, hrest⟩ := List.forall_mem_cons.1 hfs
    refine .cons (standsAt_extent h.head hf label) ?_
    cases fs with
    | nil => exact .nil
    | cons g fs => exact ih h.tail hrest

theorem between_extentsFrom (hfs : ∀ f ∈ fs, f.WellFormed) :
    (extentsFrom offset fs).IsChain fun x y =>
      ∃ v w, Text.AllBlank v ∧ Text.AllBlank w ∧ source.Slice x.stop y.start (v ++ ';' :: w) := by
  induction fs generalizing offset with
  | nil => exact .nil
  | cons f fs ih =>
    obtain ⟨hf, hrest⟩ := List.forall_mem_cons.1 hfs
    cases fs with
    | nil => exact .singleton _
    | cons g fs =>
      have hg := hrest g List.mem_cons_self
      exact .cons_cons ⟨f.after, g.before, hf.after_blank, hg.before_blank, slice_between h⟩ (ih h.tail hrest)

theorem behind_extentsFrom (hfs : ∀ f ∈ fs, f.WellFormed) :
    ∀ x ∈ (extentsFrom offset fs).getLast?, ∃ w, Text.AllBlank w ∧ source.Slice x.stop source.byteLength w := by
  induction fs generalizing offset with
  | nil => simp [extentsFrom]
  | cons f fs ih =>
    obtain ⟨hf, hrest⟩ := List.forall_mem_cons.1 hfs
    cases fs with
    | nil =>
      intro x hx
      obtain rfl : f.extent offset = x := by simpa [extentsFrom] using hx
      rw [List.map_singleton, List.intercalate_singleton] at h
      exact ⟨f.after, hf.after_blank, slice_after f h⟩
    | cons g fs =>
      intro x hx
      rw [extentsFrom, extentsFrom, List.getLast?_cons_cons] at hx
      exact ih h.tail hrest x hx

end Joined

/-- the extents of the forms of a source tile it -/
theorem tiles_extentsFrom {source : Text} {fs : List Form} (hfs : ∀ f ∈ fs, f.WellFormed)
    (h : source.Slice 0 source.byteLength ([Piece.separator].intercalate (fs.map text))) :
    Extent.Tiles (extentsFrom 0 fs) source := by
  refine ⟨?_, between_extentsFrom h hfs, behind_extentsFrom h hfs⟩
  cases fs with
  | nil => simp [extentsFrom]
  | cons f fs =>
    intro x hx
    obtain rfl : f.extent 0 = x := by simpa [extentsFrom] using hx
    exact ⟨f.before, (hfs f List.mem_cons_self).before_blank, slice_before h.head⟩

end Form

/-! ## Programs -/

/-- **The spans of a program tile its source.** There are true offsets, all of them between characters of the source, such
that every span keeps the ones of its node modulo 2^32, under the label of the setting. Between the offsets of a
declaration the source has the trimmed piece, which is the keyword, a space and the text of the declarator; the value
ends the declarator, and in front of it are its first assignment sign and the text of the name. In front of the first
declaration and behind the last are only blanks, and between two are only blanks and one semicolon. So no declaration is
empty, and each begins behind all those before it. -/
theorem Program.spans_tile (setting : Setting) (source : Text) (p : Program) (h : source.Fits)
    (hp : Program.read setting source = .ok p) :
    p.span.Marks setting.label 0 source.byteLength ∧
      ∃ xs : List Extent, xs.length = p.body.length ∧ xs ≠ [] ∧
        List.Forall₂ (fun piece (q : Declaration × Extent) => q.1.StandsAt setting.label source piece q.2)
          (source.splitOn ';') (p.body.zip xs) ∧
        Extent.Tiles xs source ∧ (∀ x ∈ xs, x.start < x.stop) ∧ xs.Pairwise fun x y => x.stop < y.start := by
  obtain ⟨fs, hts, hfs, rfl⟩ := (Program.read_eq_ok_iff h).1 hp
  have hwf : ∀ f ∈ fs, f.WellFormed := fun f hf => (hfs f hf).1
  have hslice : source.Slice 0 source.byteLength ([Piece.separator].intercalate (fs.map Form.text)) := by
    rw [← hts, List.intercalate_splitOn]
    exact .whole source
  have hstands := Form.standsAt_extentsFrom hslice setting.label hwf
  rw [← hts] at hstands
  have htiles := Form.tiles_extentsFrom hwf hslice
  have hlt : ∀ x ∈ Form.extentsFrom 0 fs, x.start < x.stop := fun x hx => Form.start_lt_stop_of_mem_extentsFrom hx
  refine ⟨Span.marks_ofOffsets _ _ _, Form.extentsFrom 0 fs, Form.length_extentsFrom _ 0 fs, ?_, hstands, htiles, hlt,
    Extent.pairwise_lt htiles.isChain_lt hlt⟩
  intro hnil
  rw [hnil, List.zip_nil_right] at hstands
  exact List.splitOn_ne_nil _ _ (List.forall₂_nil_right_iff.1 hstands)

/-- blanks of three, two and one bytes, a name of two bytes, an assignment sign in a value, and a value that is empty -/
theorem spans_tile_of_wide_characters :
    let source : Text := "\u3000let \u00e9 = a=b\u00a0;\tvar y=".toList
    source.Fits ∧ ∃ p, Program.read .shell source = .ok p ∧
      ∃ xs : List Extent, xs.length = 2 ∧ Extent.Tiles xs source ∧ xs.Pairwise fun x y => x.stop < y.start := by
  intro source
  have hfits : source.Fits := by decide
  refine ⟨hfits, _, rfl, ?_⟩
  obtain ⟨-, xs, hlength, -, -, htiles, -, hpairs⟩ := Program.spans_tile .shell source _ hfits rfl
  exact ⟨xs, hlength, htiles, hpairs⟩

end VarDecl
