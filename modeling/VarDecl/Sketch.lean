/-
Outlines before they are laid out.

A sketch is what an outline shows, as a tree of its own: words, numbers, quoted texts, and nodes with their parts in
brackets. `Sketch.draw` lays it out. Each of the trees here and each diagnostic has a sketch, which drawn in a layout is
its outline (`Program.draw_sketch`, `Diagnostic.draw_sketch`).

A sketch is drawn with an `Escaping`, which is any way to write the characters of a quoted text that writes a few of them
as everyone does, and every other one either as itself or by its code point. `Escaping.visible` is the one that outlines
use: it shows the visible characters.
-/
import VarDecl.Diagnostic.Outline

namespace VarDecl

/-! ## Escapings -/

/-- the characters that are written as a backslash and another character, whatever is visible -/
def Text.Quoted.fixedEscapes : List (Char × Char) :=
  [('\x00', '0'), ('\t', 't'), ('\n', 'n'), ('\r', 'r'), ('\x22', '\x22'), ('\\', '\\')]

/-- a way to write the characters of a quoted text -/
structure Escaping where
  escape : Char → Text
  fixed : ∀ p ∈ Text.Quoted.fixedEscapes, escape p.1 = ['\\', p.2]
  other : ∀ c, c ∉ Text.Quoted.fixedEscapes.map Prod.fst → escape c = [c] ∨ escape c = Text.Quoted.codeEscape c

namespace Escaping

/-- the text between quotation marks -/
def encode (e : Escaping) (t : Text) : Text := '\x22' :: t.flatMap e.escape ++ ['\x22']

/-- the visible characters as themselves, all others by their code points -/
def visible : Escaping where
  escape := Text.Quoted.escape
  fixed := by decide
  other := by
    intro c hc
    simp only [Text.Quoted.fixedEscapes, List.map_cons, List.map_nil, List.mem_cons, List.not_mem_nil, or_false,
      not_or] at hc
    obtain ⟨hnull, htab, hfeed, hreturn, hquote, hslash⟩ := hc
    simp only [Text.Quoted.escape, hnull, htab, hfeed, hreturn, hquote, hslash, ↓reduceIte]
    split
    · exact .inl rfl
    · exact .inr rfl

theorem encode_visible (t : Text) : visible.encode t = Text.Quoted.encode t := rfl

end Escaping

/-! ## Sketches -/

/-- a word of letters and underscores, the name of a node or of a part -/
structure Tag where
  name : String
  ne_nil : name.toList ≠ [] := by decide
  begins : name.toList.all Name.begins = true := by decide

def Tag.text (tag : Tag) : Text := tag.name.toList

/-- what a node has around its parts -/
inductive Bracket where
  | record (tag : Tag)
  | tuple (tag : Tag)
  | sequence

/-- what an outline shows -/
inductive Sketch where
  | word (tag : Tag)
  | decimal (i : Int)
  | quoted (t : Text)
  | field (tag : Tag) (value : Sketch)
  | node (b : Bracket) (parts : List Sketch)

/-! ## Drawing -/

namespace Bracket

def opening : Bracket → Text
  | record tag => tag.text ++ " \x7b".toList
  | tuple tag => tag.text ++ "(".toList
  | sequence => "[".toList

/-- what stands inside of each bracket on one line -/
def gap : Bracket → Text
  | record _ => " ".toList
  | tuple _ => []
  | sequence => []

def closing : Bracket → Text
  | record _ => "\x7d".toList
  | tuple _ => ")".toList
  | sequence => "]".toList

/-- the parts of a node, laid out, in brackets; an empty sequence is never broken -/
def enclose (b : Bracket) (l : Layout) (parts : List Text) : Text :=
  match b, parts with
  | sequence, [] => b.opening ++ b.closing
  | _, _ => l.enclose b.opening b.gap b.closing parts

end Bracket

def Sketch.draw (e : Escaping) (l : Layout) : Sketch → Text
  | word tag => tag.text
  | decimal i => Text.Decimal.ofInt i
  | quoted t => e.encode t
  | field tag value => tag.text ++ ": ".toList ++ value.draw e l
  | node b parts => b.enclose l (parts.map fun part => part.draw e l.inner)

-- a sketch that is known is drawn by the equations
attribute [simp] Sketch.draw

/-! ## What is shown of trees and diagnostics -/

def Position.sketch (p : Position) : Sketch :=
  .node (.tuple { name := "Position" }) [.decimal p.offset.toNat, .quoted p.label]

def Span.sketch (s : Span) : Sketch :=
  .node (.record { name := "Span" })
    [.field { name := "start" } s.start.sketch, .field { name := "end" } s.stop.sketch]

def Value.sketch : Value → Sketch
  | .number n => .node (.tuple { name := "Number" }) [.decimal n.toInt]
  | .text t => .node (.tuple { name := "String" }) [.quoted t]

def Name.typeSketch (n : Name) : Sketch :=
  match n.typeName with
  | none => .word { name := "None" }
  | some typeName => .node (.tuple { name := "Some" }) [.quoted typeName]

def Literal.sketch (x : Literal) : Sketch :=
  .node (.record { name := "Literal" })
    [.field { name := "value" } x.value.sketch, .field { name := "raw" } (.quoted x.raw),
     .field { name := "span" } x.span.sketch]

def Declarator.sketch (d : Declarator) : Sketch :=
  .node (.record { name := "Declarator" })
    [.field { name := "identifier" } (.quoted d.name.identifier),
     .field { name := "type_annotation" } d.name.typeSketch,
     .field { name := "value" } d.literal.sketch, .field { name := "span" } d.span.sketch]

def Declaration.sketch (d : Declaration) : Sketch :=
  .node (.record { name := "Declaration" })
    [.field { name := "kind" } (.quoted d.keyword), .field { name := "declarator" } d.declarator.sketch,
     .field { name := "span" } d.span.sketch]

def Program.sketch (p : Program) : Sketch :=
  .node (.record { name := "Program" })
    [.field { name := "body" } (.node .sequence (p.body.map Declaration.sketch)),
     .field { name := "span" } p.span.sketch]

def Cause.tag (c : Cause) : Tag where
  name := c.name
  ne_nil := by cases c <;> simp only [Cause.name] <;> decide
  begins := by cases c <;> simp only [Cause.name] <;> decide

def Cause.subjectTag (c : Cause) : Tag where
  name := c.subjectName
  ne_nil := by cases c <;> simp only [Cause.subjectName] <;> decide
  begins := by cases c <;> simp only [Cause.subjectName] <;> decide

def Cause.sketch (c : Cause) : Sketch := .node (.record c.tag) [.field c.subjectTag (.quoted c.subject)]

def Diagnostic.sketch (d : Diagnostic) : Sketch :=
  .node (.record { name := "Error" })
    [.field { name := "internal_error" } d.cause.sketch, .field { name := "position" } d.position.sketch]

/-! ## Outlines are drawn sketches -/

theorem Text.Decimal.ofInt_natCast (n : Nat) : ofInt (n : Int) = ofNat n := if_neg (Int.not_lt.2 (Int.natCast_nonneg n))

section Drawn

variable (l : Layout)

theorem Position.draw_sketch (p : Position) : p.sketch.draw .visible l = p.outline l := by
  simp only [Position.sketch, Sketch.draw, List.map_cons, List.map_nil, Text.Decimal.ofInt_natCast]
  rfl

theorem Span.draw_sketch (s : Span) : s.sketch.draw .visible l = s.outline l := by
  simp only [Span.sketch, Sketch.draw, List.map_cons, List.map_nil, Position.draw_sketch]
  rfl

theorem Value.draw_sketch (v : Value) : v.sketch.draw .visible l = v.outline l := by
  cases v with
  | number n =>
    simp only [Value.sketch, Sketch.draw, List.map_cons, List.map_nil]
    rfl
  | text t =>
    simp only [Value.sketch, Sketch.draw, List.map_cons, List.map_nil]
    rfl

theorem Name.draw_typeSketch (n : Name) : n.typeSketch.draw .visible l = n.typeOutline l := by
  unfold Name.typeSketch Name.typeOutline
  cases n.typeName with
  | none =>
    simp only [Sketch.draw]
    rfl
  | some typeName =>
    simp only [Sketch.draw, List.map_cons, List.map_nil]
    rfl

theorem Literal.draw_sketch (x : Literal) : x.sketch.draw .visible l = x.outline l := by
  simp only [Literal.sketch, Sketch.draw, List.map_cons, List.map_nil, Value.draw_sketch, Span.draw_sketch]
  rfl

theorem Declarator.draw_sketch (d : Declarator) : d.sketch.draw .visible l = d.outline l := by
  simp only [Declarator.sketch, Sketch.draw, List.map_cons, List.map_nil, Name.draw_typeSketch, Literal.draw_sketch,
    Span.draw_sketch]
  rfl

theorem Declaration.draw_sketch (d : Declaration) : d.sketch.draw .visible l = d.outline l := by
  simp only [Declaration.sketch, Sketch.draw, List.map_cons, List.map_nil, Declarator.draw_sketch, Span.draw_sketch]
  rfl

theorem Bracket.enclose_sequence (parts : List Text) : sequence.enclose l parts = l.sequence parts := by
  cases parts with
  | nil => rfl
  | cons part parts => rfl

/-- **The outline of a program is its sketch, drawn with the visible characters shown.** -/
theorem Program.draw_sketch (p : Program) : p.sketch.draw .visible l = p.outline l := by
  simp only [Program.sketch, Sketch.draw, List.map_cons, List.map_nil, List.map_map, Function.comp_def,
    Declaration.draw_sketch, Span.draw_sketch, Bracket.enclose_sequence]
  rfl

theorem Cause.draw_sketch (c : Cause) : c.sketch.draw .visible l = c.outline l := by
  simp only [Cause.sketch, Sketch.draw, List.map_cons, List.map_nil]
  rfl

/-- **The outline of a diagnostic is its sketch, drawn with the visible characters shown.** -/
theorem Diagnostic.draw_sketch (d : Diagnostic) : d.sketch.draw .visible l = d.outline l := by
  simp only [Diagnostic.sketch, Sketch.draw, List.map_cons, List.map_nil, Cause.draw_sketch, Position.draw_sketch]
  rfl

end Drawn

end VarDecl
