/-
No two trees have one outline.

In an outline nothing marks where a part ends but what stands around it: a word or a number ends where a bracket closes
or a comma stands. So what is shown is that a drawn sketch can be told from what stands behind it, if that begins as what
stands behind a part does (`Ends`). By induction on sketches: the first characters tell what kind of sketch it is
(`Sketch.ofText_draw`), a bracket tells itself (`Bracket.opening_append_inj`), and the parts inside are told one after
the other, whether they stand on one line or each on a line of its own (`Bracket.enclose_append_inj`). A sketch tells its
tree.

Nothing is asked of the escaping, so it does not matter which characters a quoted text shows.

Results:
- `Sketch.told_draw`: a drawn sketch tells the sketch, and where it ends.
- `outlines_identify`: the outline of a program tells the program, and so for diagnostics, in every layout.
-/
import VarDecl.Proofs.Grammar
import VarDecl.Proofs.Quoting

namespace VarDecl

/-! ## Where a part begins and ends -/

/-- whether a part of an outline can begin with a character -/
def opens (c : Char) : Bool := Name.begins c || Text.Decimal.isMark c || c == '\x22' || c == '['

/-- what can stand behind a part of an outline -/
inductive Ends : Text → Prop
  | nil : Ends []
  | comma (x : Text) : Ends (',' :: x)
  | parenthesis (x : Text) : Ends (')' :: x)
  | bracket (x : Text) : Ends (']' :: x)
  | brace (x : Text) : Ends (' ' :: '\x7d' :: x)

/-- what stands behind a part is no part -/
theorem Ends.opens_eq_false {x : Text} (h : Ends x) {c : Char} (hc : c ∈ x.head?) : opens c = false := by
  cases h with
  | nil => cases hc
  | comma x | parenthesis x | bracket x | brace x =>
    cases hc
    rfl

theorem Ends.ne_of_opens {x y : Text} (hx : Ends x) (hy : ∃ c ∈ y.head?, opens c = true) : x ≠ y := by
  intro h
  obtain ⟨c, hc, hopen⟩ := hy
  rw [← h] at hc
  rw [hx.opens_eq_false hc] at hopen
  cases hopen

theorem Ends.begins_eq_false {x : Text} (h : Ends x) : ∀ c ∈ x.head?, Name.begins c = false := by
  intro c hc
  have hopens := h.opens_eq_false hc
  simp only [opens, Bool.or_eq_false_iff] at hopens
  exact hopens.1.1.1

theorem Ends.isMark_eq_false {x : Text} (h : Ends x) : ∀ c ∈ x.head?, Text.Decimal.isMark c = false := by
  intro c hc
  have hopens := h.opens_eq_false hc
  simp only [opens, Bool.or_eq_false_iff] at hopens
  exact hopens.1.1.2

/-- the text of one thing tells it from any other, and where it ends -/
def Told {α : Type} (f : α → Text) (a : α) : Prop :=
  ∀ (b : α) (x y : Text), Ends x → Ends y → f a ++ x = f b ++ y → a = b ∧ x = y

/-! ## Tags -/

namespace Tag

theorem begins_of_mem {tag : Tag} {c : Char} (h : c ∈ tag.text) : Name.begins c = true :=
  List.all_eq_true.1 tag.begins c h

theorem text_inj {s t : Tag} (h : s.text = t.text) : s = t := by
  obtain ⟨s, _, _⟩ := s
  obtain ⟨t, _, _⟩ := t
  obtain rfl : s = t := String.toList_inj.1 h
  rfl

/-- a tag ends in front of anything that is no letter -/
theorem text_append_inj {s t : Tag} {x y : Text} (hx : ∀ c ∈ x.head?, Name.begins c = false)
    (hy : ∀ c ∈ y.head?, Name.begins c = false) (h : s.text ++ x = t.text ++ y) : s = t ∧ x = y := by
  obtain ⟨htag, hbehind⟩ := Text.append_inj_of_class (fun _ => begins_of_mem) (fun _ => begins_of_mem) hx hy h
  exact ⟨text_inj htag, hbehind⟩

theorem exists_opens (tag : Tag) (x : Text) : ∃ c ∈ (tag.text ++ x).head?, opens c = true := by
  obtain ⟨c, t, htext⟩ := List.exists_cons_of_ne_nil tag.ne_nil
  have hbegins : Name.begins c = true := tag.begins_of_mem (by rw [text, htext]; exact List.mem_cons_self)
  refine ⟨c, by rw [text, htext]; rfl, ?_⟩
  rw [opens, hbegins]
  rfl

end Tag

/-! ## Parts one after another -/

section Parts

variable {α : Type} {f : α → Text} {as bs : List α} {stop x y : Text}

/-- things with a text around each, told one after the other until the end, which is no further thing -/
theorem flatMap_append_inj {lead trail : Text} (has : ∀ a ∈ as, Told f a)
    (hends : ∀ (cs : List α) z, Ends (trail ++ (cs.flatMap (fun c => lead ++ (f c ++ trail)) ++ (stop ++ z))))
    (hstop : ∀ u v, stop ++ u ≠ lead ++ v)
    (h : as.flatMap (fun c => lead ++ (f c ++ trail)) ++ (stop ++ x) =
      bs.flatMap (fun c => lead ++ (f c ++ trail)) ++ (stop ++ y)) : as = bs ∧ x = y := by
  induction as generalizing bs with
  | nil =>
    cases bs with
    | nil => exact ⟨rfl, List.append_cancel_left h⟩
    | cons b bs =>
      simp only [List.flatMap_nil, List.nil_append, List.flatMap_cons, List.append_assoc] at h
      exact absurd h (hstop _ _)
  | cons a as ih =>
    obtain ⟨ha, has⟩ := List.forall_mem_cons.1 has
    cases bs with
    | nil =>
      simp only [List.flatMap_nil, List.nil_append, List.flatMap_cons, List.append_assoc] at h
      exact absurd h.symm (hstop _ _)
    | cons b bs =>
      rw [List.flatMap_cons, List.flatMap_cons] at h
      simp only [List.append_assoc] at h hends ih
      obtain ⟨rfl, hrest⟩ := ha b _ _ (hends as x) (hends bs y) (List.append_cancel_left h)
      obtain ⟨rfl, hbehind⟩ := ih has (List.append_cancel_left hrest)
      exact ⟨rfl, hbehind⟩

theorem intercalate_cons_eq_append_flatMap (sep t : Text) (ts : List Text) :
    sep.intercalate (t :: ts) = t ++ ts.flatMap fun u => sep ++ u := by
  induction ts generalizing t with
  | nil => simp
  | cons u ts ih => rw [List.intercalate_cons_cons, ih, List.flatMap_cons, List.append_assoc, List.append_assoc]

/-- things with commas between them, told one after the other -/
theorem intercalate_append_inj (has : ∀ a ∈ as, Told f a)
    (hopens : ∀ a z, ∃ c ∈ (f a ++ z).head?, opens c = true) (hends : ∀ z, Ends (stop ++ z))
    (hstop : ∀ u v, stop ++ u ≠ ", ".toList ++ v)
    (h : List.intercalate ", ".toList (as.map f) ++ (stop ++ x) =
      List.intercalate ", ".toList (bs.map f) ++ (stop ++ y)) : as = bs ∧ x = y := by
  have hcons : ∀ c cs z, List.intercalate ", ".toList ((c :: cs).map f) ++ (stop ++ z) =
      f c ++ (cs.flatMap (fun d => ", ".toList ++ (f d ++ [])) ++ (stop ++ z)) := by
    intro c cs z
    rw [List.map_cons, intercalate_cons_eq_append_flatMap, List.flatMap_map, List.append_assoc]
    simp only [List.append_nil]
  have hpart : ∀ c cs z w, stop ++ w ≠ List.intercalate ", ".toList ((c :: cs).map f) ++ (stop ++ z) := by
    intro c cs z w hw
    rw [hcons] at hw
    exact (hends w).ne_of_opens (hopens c _) hw
  have hbehind : ∀ (cs : List α) z, Ends ([] ++ (cs.flatMap (fun c => ", ".toList ++ (f c ++ [])) ++ (stop ++ z))) := by
    intro cs z
    cases cs with
    | nil => exact hends z
    | cons c cs => exact .comma _
  cases as with
  | nil =>
    cases bs with
    | nil => exact ⟨rfl, List.append_cancel_left h⟩
    | cons b bs => exact absurd h (hpart _ _ _ _)
  | cons a as =>
    obtain ⟨ha, has⟩ := List.forall_mem_cons.1 has
    cases bs with
    | nil => exact absurd h.symm (hpart _ _ _ _)
    | cons b bs =>
      rw [hcons, hcons] at h
      obtain ⟨rfl, hrest⟩ := ha b _ _ (hbehind as x) (hbehind bs y) h
      obtain ⟨rfl, hend⟩ := flatMap_append_inj has hbehind hstop hrest
      exact ⟨rfl, hend⟩

end Parts

/-! ## Brackets -/

theorem Layout.lineBreak_succ (depth : Nat) : lineBreak (depth + 1) = lineBreak depth ++ List.replicate 4 ' ' := by
  rw [lineBreak, lineBreak, Nat.mul_succ, List.cons_append, List.replicate_append_replicate]

namespace Bracket

/-- the word in front of a bracket, if there is one -/
def title : Bracket → Text
  | record tag => tag.text
  | tuple tag => tag.text
  | sequence => []

/-- the bracket itself -/
def mark : Bracket → Text
  | record _ => " \x7b".toList
  | tuple _ => "(".toList
  | sequence => "[".toList

theorem opening_eq (b : Bracket) : b.opening = b.title ++ b.mark := by
  cases b with
  | record tag | tuple tag | sequence => rfl

theorem begins_of_mem_title {b : Bracket} {c : Char} (h : c ∈ b.title) : Name.begins c = true := by
  cases b with
  | record tag | tuple tag => exact tag.begins_of_mem h
  | sequence => cases h

theorem begins_mark_eq_false (b : Bracket) (x : Text) : ∀ c ∈ (b.mark ++ x).head?, Name.begins c = false := by
  intro c hc
  cases b with
  | record tag | tuple tag | sequence =>
    cases hc
    rfl

/-- **A bracket tells itself** by what is written in front of its parts. -/
theorem opening_append_inj {b b' : Bracket} {x y : Text} (h : b.opening ++ x = b'.opening ++ y) : b = b' ∧ x = y := by
  rw [opening_eq, opening_eq, List.append_assoc, List.append_assoc] at h
  obtain ⟨htitle, hmark⟩ := Text.append_inj_of_class (fun _ => begins_of_mem_title) (fun _ => begins_of_mem_title)
    (b.begins_mark_eq_false x) (b'.begins_mark_eq_false y) h
  cases b <;> cases b'
  case record.record s t | tuple.tuple s t =>
    obtain rfl := Tag.text_inj htitle
    exact ⟨rfl, List.append_cancel_left hmark⟩
  case sequence.sequence => exact ⟨rfl, List.append_cancel_left hmark⟩
  all_goals exact absurd (List.cons.inj hmark).1 (by decide)

theorem exists_opens (b : Bracket) (x : Text) : ∃ c ∈ (b.opening ++ x).head?, opens c = true := by
  cases b with
  | record tag | tuple tag =>
    rw [opening, List.append_assoc]
    exact tag.exists_opens _
  | sequence => exact ⟨'[', rfl, rfl⟩

theorem exists_enclose_eq (b : Bracket) (l : Layout) (ts : List Text) : ∃ r, b.enclose l ts = b.opening ++ r := by
  unfold enclose Layout.enclose
  split
  · exact ⟨_, rfl⟩
  · cases l with
    | compact =>
      refine ⟨b.gap ++ List.intercalate ", ".toList ts ++ b.gap ++ b.closing, ?_⟩
      simp only [List.append_assoc]
    | indented depth =>
      refine ⟨ts.flatMap (fun t => Layout.lineBreak (depth + 1) ++ t ++ ",".toList) ++ Layout.lineBreak depth ++ b.closing, ?_⟩
      simp only [List.append_assoc]

theorem ends_closing (b : Bracket) (x : Text) : Ends (b.gap ++ (b.closing ++ x)) := by
  cases b with
  | record tag => exact .brace x
  | tuple tag => exact .parenthesis x
  | sequence => exact .bracket x

theorem closing_ne_comma (b : Bracket) (x y : Text) : b.gap ++ (b.closing ++ x) ≠ ", ".toList ++ y := by
  cases b with
  | record tag | tuple tag | sequence =>
    intro h
    exact absurd (List.cons.inj h).1 (by decide)

theorem closing_ne_blank (b : Bracket) (x y : Text) : b.closing ++ x ≠ ' ' :: y := by
  cases b with
  | record tag | tuple tag | sequence =>
    intro h
    exact absurd (List.cons.inj h).1 (by decide)

/-- parts in brackets, laid out, are told one after the other -/
theorem layout_enclose_append_inj {α : Type} {f : α → Text} {as bs : List α} {x y : Text} (b : Bracket) (l : Layout)
    (has : ∀ a ∈ as, Told f a) (hopens : ∀ a z, ∃ c ∈ (f a ++ z).head?, opens c = true)
    (h : l.enclose b.opening b.gap b.closing (as.map f) ++ x =
      l.enclose b.opening b.gap b.closing (bs.map f) ++ y) : as = bs ∧ x = y := by
  cases l with
  | compact =>
    simp only [Layout.enclose, List.append_assoc] at h
    have hinside := List.append_cancel_left (List.append_cancel_left h)
    rw [← List.append_assoc b.gap, ← List.append_assoc b.gap] at hinside
    apply intercalate_append_inj has hopens _ _ hinside
    · intro z
      rw [List.append_assoc]
      exact b.ends_closing z
    · intro u v
      rw [List.append_assoc]
      exact b.closing_ne_comma u v
  | indented depth =>
    simp only [Layout.enclose, List.append_assoc, List.flatMap_map] at h
    have hinside := List.append_cancel_left h
    rw [← List.append_assoc (Layout.lineBreak depth), ← List.append_assoc (Layout.lineBreak depth)] at hinside
    apply flatMap_append_inj has _ _ hinside
    · exact fun _ _ => .comma _
    · -- the line of the closing bracket begins like the line of a part, but with four blanks less
      intro u v hline
      rw [Layout.lineBreak_succ, List.append_assoc, List.append_assoc] at hline
      exact b.closing_ne_blank u _ (List.append_cancel_left hline)

/-- an empty sequence is told from any other, though it is not broken into lines -/
theorem sequence_nil_ne_cons {α : Type} {f : α → Text} {c : α} {cs : List α} {l : Layout} {x y : Text}
    (hopens : ∀ a z, ∃ c ∈ (f a ++ z).head?, opens c = true) :
    sequence.enclose l [] ++ x ≠ sequence.enclose l ((c :: cs).map f) ++ y := by
  intro h
  cases l with
  | compact =>
    have hnil : [] = c :: cs := (layout_enclose_append_inj sequence .compact (by simp) hopens h).1
    cases hnil
  | indented depth => exact absurd (List.cons.inj (List.cons.inj h).2).1 (by decide)

/-- **Parts in brackets tell the bracket and the parts**, and where the bracket closes, in either layout. -/
theorem enclose_append_inj {α : Type} {f : α → Text} {as bs : List α} {b b' : Bracket} {l : Layout} {x y : Text}
    (has : ∀ a ∈ as, Told f a) (hopens : ∀ a z, ∃ c ∈ (f a ++ z).head?, opens c = true)
    (h : b.enclose l (as.map f) ++ x = b'.enclose l (bs.map f) ++ y) : b = b' ∧ as = bs ∧ x = y := by
  obtain ⟨u, hu⟩ := b.exists_enclose_eq l (as.map f)
  obtain ⟨v, hv⟩ := b'.exists_enclose_eq l (bs.map f)
  obtain ⟨rfl, -⟩ : b = b' ∧ u ++ x = v ++ y := by
    apply opening_append_inj
    rw [← List.append_assoc, ← hu, h, hv, List.append_assoc]
  refine ⟨rfl, ?_⟩
  -- only an empty sequence is not laid out
  cases b with
  | record tag | tuple tag => exact layout_enclose_append_inj _ l has hopens h
  | sequence =>
    cases as with
    | nil =>
      cases bs with
      | nil => exact ⟨rfl, List.append_cancel_left h⟩
      | cons b bs => exact absurd h (sequence_nil_ne_cons hopens)
    | cons a as =>
      cases bs with
      | nil => exact absurd h.symm (sequence_nil_ne_cons hopens)
      | cons b bs => exact layout_enclose_append_inj _ l has hopens h

end Bracket

/-! ## Sketches -/

/-- what the first characters of a drawn sketch tell -/
inductive Sketch.Kind where
  | word
  | decimal
  | quoted
  | field
  | node
deriving DecidableEq

def Sketch.kind : Sketch → Kind
  | word _ => .word
  | decimal _ => .decimal
  | quoted _ => .quoted
  | field _ _ => .field
  | node _ _ => .node

/-- the kind of a drawn sketch: what stands behind the first letters, if there are any, tells it -/
def Sketch.Kind.ofText (t : Text) : Kind :=
  match t.dropWhile Name.begins with
  | [] => word
  | c :: r =>
    if Text.Decimal.isMark c then decimal
    else if c == '\x22' then quoted
    else if c == ':' then field
    else if c == '(' || c == '[' || c == ' ' && r.head? == some '\x7b' then node
    else word

theorem Text.dropWhile_eq_of_append {p : Char → Bool} {t x : Text} (ht : ∀ c ∈ t, p c = true)
    (hx : ∀ c ∈ x.head?, p c = false) : (t ++ x).dropWhile p = x := by
  rw [List.dropWhile_append_of_pos ht]
  cases x with
  | nil => rfl
  | cons c x => exact List.dropWhile_cons_of_neg (by simp [hx c rfl])

/-- no digit and no sign begins a word -/
theorem begins_eq_false_of_isMark {c : Char} (h : Text.Decimal.isMark c = true) : Name.begins c = false := by
  rw [Text.Decimal.isMark, Bool.or_eq_true, beq_iff_eq, Name.isDigit_iff] at h
  rcases h with ⟨-, hnine⟩ | rfl
  · have hletter : ¬ Name.IsLetter c := by
      rintro (⟨hupper, -⟩ | ⟨hlower, -⟩ | rfl)
      · exact absurd (Char.le_trans hupper hnine) (by decide)
      · exact absurd (Char.le_trans hlower hnine) (by decide)
      · exact absurd hnine (by decide)
    rwa [Bool.eq_false_iff, ne_eq, Name.begins_iff]
  · rfl

theorem Text.Decimal.exists_cons_ofInt (i : Int) : ∃ c t, ofInt i = c :: t ∧ isMark c = true := by
  obtain ⟨c, t, htext⟩ := List.exists_cons_of_ne_nil (ofInt_ne_nil i)
  exact ⟨c, t, htext, isMark_of_mem_ofInt (htext ▸ List.mem_cons_self)⟩

namespace Sketch

variable (e : Escaping)

theorem ofText_append_eq_word (tag : Tag) {x : Text} (hx : Ends x) : Kind.ofText (tag.text ++ x) = .word := by
  rw [Kind.ofText, Text.dropWhile_eq_of_append (fun _ => tag.begins_of_mem) hx.begins_eq_false]
  cases hx with
  | nil | comma | parenthesis | bracket | brace => rfl

theorem ofText_append_eq_decimal (i : Int) (x : Text) : Kind.ofText (Text.Decimal.ofInt i ++ x) = .decimal := by
  obtain ⟨c, t, htext, hmark⟩ := Text.Decimal.exists_cons_ofInt i
  have hkeeps : (c :: t ++ x).dropWhile Name.begins = c :: (t ++ x) :=
    List.dropWhile_cons_of_neg (by simp [begins_eq_false_of_isMark hmark])
  rw [Kind.ofText, htext, hkeeps]
  exact if_pos hmark

theorem begins_colon_eq_false {x : Text} : ∀ c ∈ (": ".toList ++ x).head?, Name.begins c = false := by
  intro c hc
  cases hc
  rfl

theorem ofText_append_eq_field (tag : Tag) (x : Text) : Kind.ofText (tag.text ++ (": ".toList ++ x)) = .field := by
  rw [Kind.ofText, Text.dropWhile_eq_of_append (fun _ => tag.begins_of_mem) begins_colon_eq_false]
  rfl

theorem ofText_append_eq_node (b : Bracket) (x : Text) : Kind.ofText (b.opening ++ x) = .node := by
  rw [Kind.ofText, b.opening_eq, List.append_assoc,
    Text.dropWhile_eq_of_append (fun _ => Bracket.begins_of_mem_title) (b.begins_mark_eq_false x)]
  cases b with
  | record tag | tuple tag | sequence => rfl

theorem ofText_draw (s : Sketch) (l : Layout) {x : Text} (hx : Ends x) : Kind.ofText (s.draw e l ++ x) = s.kind := by
  cases s with
  | word tag =>
    rw [draw]
    exact ofText_append_eq_word tag hx
  | decimal i =>
    rw [draw]
    exact ofText_append_eq_decimal i x
  | quoted t =>
    rw [draw]
    rfl
  | field tag value =>
    rw [draw, List.append_assoc, List.append_assoc]
    exact ofText_append_eq_field tag _
  | node b parts =>
    rw [draw]
    obtain ⟨r, hr⟩ := b.exists_enclose_eq l (parts.map fun part => part.draw e l.inner)
    rw [hr, List.append_assoc]
    exact ofText_append_eq_node b _

/-- equal texts begin with sketches of one kind, whatever stands behind these -/
theorem kind_eq {s t : Sketch} {l : Layout} {x y : Text} (hx : Ends x) (hy : Ends y)
    (h : s.draw e l ++ x = t.draw e l ++ y) : s.kind = t.kind := by
  calc s.kind = Kind.ofText (s.draw e l ++ x) := (ofText_draw e s l hx).symm
    _ = Kind.ofText (t.draw e l ++ y) := by rw [h]
    _ = t.kind := ofText_draw e t l hy

theorem exists_opens (s : Sketch) (l : Layout) (x : Text) : ∃ c ∈ (s.draw e l ++ x).head?, opens c = true := by
  cases s with
  | word tag =>
    rw [draw]
    exact tag.exists_opens x
  | decimal i =>
    obtain ⟨c, t, htext, hmark⟩ := Text.Decimal.exists_cons_ofInt i
    rw [draw, htext]
    exact ⟨c, rfl, by simp [opens, hmark]⟩
  | quoted t =>
    rw [draw]
    exact ⟨'\x22', rfl, rfl⟩
  | field tag value =>
    rw [draw, List.append_assoc, List.append_assoc]
    exact tag.exists_opens _
  | node b parts =>
    rw [draw]
    obtain ⟨r, hr⟩ := b.exists_enclose_eq l (parts.map fun part => part.draw e l.inner)
    rw [hr, List.append_assoc]
    exact b.exists_opens _

/-- **A drawn sketch tells the sketch**, and where it ends, whatever texts it quotes. -/
theorem told_draw (l : Layout) (s : Sketch) : Told (Sketch.draw e l) s := by
  -- the parts of a node are drawn in another layout than the node, so the induction follows the drawing
  induction l, s using Sketch.draw.induct with
  | case1 l tag =>
    intro t x y hx hy h
    have hkind := kind_eq e hx hy h
    cases t with
    | word tag' =>
      rw [draw, draw] at h
      obtain ⟨rfl, hbehind⟩ := Tag.text_append_inj hx.begins_eq_false hy.begins_eq_false h
      exact ⟨rfl, hbehind⟩
    | _ => cases hkind
  | case2 l i =>
    intro t x y hx hy h
    have hkind := kind_eq e hx hy h
    cases t with
    | decimal j =>
      rw [draw, draw] at h
      obtain ⟨rfl, hbehind⟩ := Text.Decimal.ofInt_append_inj hx.isMark_eq_false hy.isMark_eq_false h
      exact ⟨rfl, hbehind⟩
    | _ => cases hkind
  | case3 l q =>
    intro t x y hx hy h
    have hkind := kind_eq e hx hy h
    cases t with
    | quoted q' =>
      rw [draw, draw] at h
      obtain ⟨rfl, hbehind⟩ := e.encode_append_inj h
      exact ⟨rfl, hbehind⟩
    | _ => cases hkind
  | case4 l tag value ih =>
    intro t x y hx hy h
    have hkind := kind_eq e hx hy h
    cases t with
    | field tag' value' =>
      rw [draw, draw, List.append_assoc, List.append_assoc, List.append_assoc, List.append_assoc] at h
      obtain ⟨rfl, hvalue⟩ := Tag.text_append_inj begins_colon_eq_false begins_colon_eq_false h
      obtain ⟨rfl, hbehind⟩ := ih value' x y hx hy (List.append_cancel_left hvalue)
      exact ⟨rfl, hbehind⟩
    | _ => cases hkind
  | case5 l b parts ih =>
    intro t x y hx hy h
    have hkind := kind_eq e hx hy h
    cases t with
    | node b' parts' =>
      rw [draw, draw] at h
      obtain ⟨rfl, rfl, hbehind⟩ :=
        Bracket.enclose_append_inj ih (fun part z => part.exists_opens e l.inner z) h
      exact ⟨rfl, hbehind⟩
    | _ => cases hkind

/-- a drawn sketch with nothing behind it -/
theorem draw_inj {l : Layout} {s t : Sketch} (h : s.draw e l = t.draw e l) : s = t :=
  (told_draw e l s t [] [] .nil .nil (by rw [h])).1

end Sketch

/-! ## What a sketch shows -/

open Function (Injective)

theorem Position.sketch_injective : Injective Position.sketch := by
  intro p q h
  simp only [sketch, Sketch.node.injEq, List.cons.injEq, Sketch.decimal.injEq, Sketch.quoted.injEq, Int.natCast_inj,
    UInt32.toNat_inj, and_true, true_and] at h
  obtain ⟨hoffset, hlabel⟩ := h
  exact (Position.mk.injEq ..).mpr ⟨hoffset, hlabel⟩

theorem Span.sketch_injective : Injective Span.sketch := by
  intro s t h
  simp only [sketch, Sketch.node.injEq, List.cons.injEq, Sketch.field.injEq, and_true, true_and] at h
  obtain ⟨hstart, hstop⟩ := h
  exact (Span.mk.injEq ..).mpr ⟨Position.sketch_injective hstart, Position.sketch_injective hstop⟩

theorem Value.sketch_injective : Injective Value.sketch := by
  intro v w h
  cases v <;> cases w
  case number.number m n =>
    simp only [sketch, Sketch.node.injEq, List.cons.injEq, Sketch.decimal.injEq, Int64.toInt_inj, and_true, true_and] at h
    rw [h]
  case text.text t u =>
    simp only [sketch, Sketch.node.injEq, List.cons.injEq, Sketch.quoted.injEq, and_true, true_and] at h
    rw [h]
  all_goals
    simp only [sketch, Sketch.node.injEq, List.cons.injEq, reduceCtorEq, false_and, and_false] at h

theorem Name.typeName_eq_of_typeSketch_eq {m n : Name} (h : m.typeSketch = n.typeSketch) : m.typeName = n.typeName := by
  unfold typeSketch at h
  cases hm : m.typeName <;> cases hn : n.typeName
  case none.none => rfl
  case some.some t u =>
    simp only [hm, hn, Sketch.node.injEq, List.cons.injEq, Sketch.quoted.injEq, and_true, true_and] at h
    rw [h]
  all_goals
    simp only [hm, hn, reduceCtorEq] at h

theorem Literal.sketch_injective : Injective Literal.sketch := by
  intro x y h
  simp only [sketch, Sketch.node.injEq, List.cons.injEq, Sketch.field.injEq, Sketch.quoted.injEq, and_true, true_and] at h
  obtain ⟨hvalue, hraw, hspan⟩ := h
  exact (Literal.mk.injEq ..).mpr ⟨Value.sketch_injective hvalue, hraw, Span.sketch_injective hspan⟩

theorem Declarator.sketch_injective : Injective Declarator.sketch := by
  intro c d h
  simp only [sketch, Sketch.node.injEq, List.cons.injEq, Sketch.field.injEq, Sketch.quoted.injEq, and_true, true_and] at h
  obtain ⟨hidentifier, htype, hliteral, hspan⟩ := h
  have hname : c.name = d.name := (Name.mk.injEq ..).mpr ⟨hidentifier, Name.typeName_eq_of_typeSketch_eq htype⟩
  exact (Declarator.mk.injEq ..).mpr ⟨hname, Literal.sketch_injective hliteral, Span.sketch_injective hspan⟩

theorem Declaration.sketch_injective : Injective Declaration.sketch := by
  intro c d h
  simp only [sketch, Sketch.node.injEq, List.cons.injEq, Sketch.field.injEq, Sketch.quoted.injEq, and_true, true_and] at h
  obtain ⟨hkeyword, hdeclarator, hspan⟩ := h
  exact (Declaration.mk.injEq ..).mpr
    ⟨hkeyword, Declarator.sketch_injective hdeclarator, Span.sketch_injective hspan⟩

theorem Program.sketch_injective : Injective Program.sketch := by
  intro p q h
  simp only [sketch, Sketch.node.injEq, List.cons.injEq, Sketch.field.injEq, and_true, true_and] at h
  obtain ⟨hbody, hspan⟩ := h
  exact (Program.mk.injEq ..).mpr
    ⟨List.map_injective_iff.2 Declaration.sketch_injective hbody, Span.sketch_injective hspan⟩

theorem Cause.sketch_injective : Injective Cause.sketch := by
  intro c d h
  simp only [sketch, Sketch.node.injEq, Bracket.record.injEq, List.cons.injEq, Sketch.field.injEq, Sketch.quoted.injEq,
    and_true] at h
  obtain ⟨htag, -, hsubject⟩ := h
  have hname : c.name = d.name := congrArg Tag.name htag
  cases c <;> cases d <;> simp_all [name, subject]

theorem Diagnostic.sketch_injective : Injective Diagnostic.sketch := by
  intro c d h
  simp only [sketch, Sketch.node.injEq, List.cons.injEq, Sketch.field.injEq, and_true, true_and] at h
  obtain ⟨hcause, hposition⟩ := h
  exact (Diagnostic.mk.injEq ..).mpr ⟨Cause.sketch_injective hcause, Position.sketch_injective hposition⟩

/-! ## Outlines -/

/-- **An outline tells what it is an outline of**, on one line or over many: programs with one outline are equal in every
field, and so are diagnostics. The outline is the sketch, drawn; and the same holds of it for any way to write the
characters of a quoted text. -/
theorem outlines_identify (l : Layout) :
    ((∀ p q : Program, p.outline l = q.outline l ↔ p = q) ∧
      ∀ d d' : Diagnostic, d.outline l = d'.outline l ↔ d = d') ∧
    ((∀ p : Program, p.outline l = p.sketch.draw .visible l) ∧
      ∀ d : Diagnostic, d.outline l = d.sketch.draw .visible l) ∧
    ∀ e : Escaping,
      (∀ p q : Program, p.sketch.draw e l = q.sketch.draw e l ↔ p = q) ∧
        ∀ d d' : Diagnostic, d.sketch.draw e l = d'.sketch.draw e l ↔ d = d' := by
  have hprograms : ∀ (e : Escaping) (p q : Program), p.sketch.draw e l = q.sketch.draw e l ↔ p = q := by
    intro e p q
    exact ⟨fun h => Program.sketch_injective (Sketch.draw_inj e h), fun h => by rw [h]⟩
  have hdiagnostics : ∀ (e : Escaping) (d d' : Diagnostic), d.sketch.draw e l = d'.sketch.draw e l ↔ d = d' := by
    intro e d d'
    exact ⟨fun h => Diagnostic.sketch_injective (Sketch.draw_inj e h), fun h => by rw [h]⟩
  refine ⟨⟨?_, ?_⟩, ⟨fun p => (p.draw_sketch l).symm, fun d => (d.draw_sketch l).symm⟩, ?_⟩
  · intro p q
    rw [← p.draw_sketch, ← q.draw_sketch]
    exact hprograms .visible p q
  · intro d d'
    rw [← d.draw_sketch, ← d'.draw_sketch]
    exact hdiagnostics .visible d d'
  · exact fun e => ⟨hprograms e, hdiagnostics e⟩

end VarDecl
