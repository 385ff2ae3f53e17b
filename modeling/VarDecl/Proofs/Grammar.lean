/-
Pieces and forms: reading a piece finds the one form that it has.

`Form.ofPiece` reads a piece without any offset: it cuts the piece into a form, or says which cause it found and how many
bytes into the piece. It is what a reading of declarations does before positions come into it.

Results:
- `Form.ofPiece_eq_ok_iff`: the form that is found is well formed, meets the demands and has the piece as its text, and
  every such form is found. So a piece has at most one well-formed reading (`Form.eq_of_text_eq`).
- `Name.spelledBy_iff`, `Name.isPlain_iff`, `Strictness.nameCause?_eq_none_iff`, `Strictness.admitsKeyword_iff`: what the
  reader computes of a name and of a keyword is what the grammar says about them.
-/
import Mathlib.Data.List.Basic
import Mathlib.Data.List.TakeWhile
import VarDecl.Grammar
import VarDecl.Tree.Reading

namespace VarDecl

/-! ## Names -/

namespace Name

theorem ofText_of_notMem {text : Text} (h : ':' ∉ text.filter (· != ' ')) :
    ofText text = ⟨text.filter (· != ' '), none⟩ := by
  simp only [ofText, Text.cutAt?_eq_none_iff.2 h]

theorem ofText_of_eq {text identifier typeName : Text} (h : text.filter (· != ' ') = identifier ++ ':' :: typeName)
    (hcolon : ':' ∉ identifier) : ofText text = ⟨identifier, some typeName⟩ := by
  simp only [ofText, Text.cutAt?_eq_some_iff.2 ⟨h, hcolon⟩]

/-- a text spells exactly one name, the one that is read off it -/
theorem spelledBy_iff {n : Name} {text : Text} : n.SpelledBy text ↔ ofText text = n := by
  refine ⟨?_, ?_⟩
  · intro hspelled
    obtain ⟨hcolon, hspell⟩ := hspelled
    obtain ⟨identifier, _ | typeName⟩ := n
    · simp only [Option.elim_none, List.append_nil] at hcolon hspell
      rw [ofText_of_notMem (by rwa [hspell]), hspell]
    · exact ofText_of_eq hspell hcolon
  · rintro rfl
    by_cases hcolon : ':' ∈ text.filter (· != ' ')
    · obtain ⟨identifier, typeName, hspell, hfirst⟩ := List.eq_append_cons_of_mem hcolon
      rw [ofText_of_eq hspell hfirst]
      exact ⟨hfirst, hspell⟩
    · rw [ofText_of_notMem hcolon]
      exact ⟨hcolon, by simp⟩

theorem isUpper_iff {c : Char} : c.isUpper = true ↔ 'A' ≤ c ∧ c ≤ 'Z' := by
  change decide ('A' ≤ c ∧ c ≤ 'Z') = true ↔ _
  rw [decide_eq_true_iff]

theorem isLower_iff {c : Char} : c.isLower = true ↔ 'a' ≤ c ∧ c ≤ 'z' := by
  change (decide ('a' ≤ c) && decide (c ≤ 'z')) = true ↔ _
  rw [Bool.and_eq_true, decide_eq_true_iff, decide_eq_true_iff]

theorem isDigit_iff {c : Char} : c.isDigit = true ↔ IsDigit c := by
  change (decide ('0' ≤ c) && decide (c ≤ '9')) = true ↔ _
  rw [Bool.and_eq_true, decide_eq_true_iff, decide_eq_true_iff]
  rfl

theorem begins_iff {c : Char} : begins c = true ↔ IsLetter c := by
  change (c.isUpper || c.isLower || c == '_') = true ↔ _
  rw [Bool.or_eq_true, Bool.or_eq_true, isUpper_iff, isLower_iff, beq_iff_eq, IsLetter]
  tauto

theorem continues_iff {c : Char} : continues c = true ↔ IsLetter c ∨ IsDigit c := by
  change (c.isAlpha || c.isDigit || c == '_') = true ↔ _
  rw [← begins_iff, ← isDigit_iff, begins, Bool.or_eq_true, Bool.or_eq_true, Bool.or_eq_true]
  tauto

theorem isPlain_iff {t : Text} : isPlain t = true ↔ IsWord t := by
  cases t with
  | nil => simp [isPlain, IsWord]
  | cons c t => simp [isPlain, IsWord, begins_iff, continues_iff]

end Name

/-! ## Demands -/

namespace Strictness

theorem admitsKeyword_iff {s : Strictness} {keyword : Text} :
    s.admitsKeyword keyword = true ↔ (s.keywords = true → ∃ k : Keyword, keyword = k.text) := by
  simp only [admitsKeyword, Bool.or_eq_true, Bool.not_eq_true', Option.isSome_iff_exists, Keyword.ofText?_eq_some_iff]
  cases s.keywords <;> simp

theorem admitsPart_iff {s : Strictness} {part : Text} :
    s.admitsPart part = true ↔ (s.identifiers = true → Name.IsWord part) := by
  rw [admitsPart, Bool.or_eq_true, Bool.not_eq_true', Name.isPlain_iff]
  cases s.identifiers <;> simp

theorem nameCause?_eq_none_iff {s : Strictness} {n : Name} :
    s.nameCause? n = none ↔ (s.identifiers = true → n.IsConventional) := by
  have hparts : s.nameCause? n = none ↔
      s.admitsPart n.identifier = true ∧ ∀ t ∈ n.typeName, s.admitsPart t = true := by
    unfold nameCause?
    split <;> simp_all [Option.filter_eq_none_iff]
  rw [hparts, admitsPart_iff]
  simp only [admitsPart_iff]
  exact ⟨fun ⟨hi, ht⟩ hs => ⟨hi hs, fun t hmem => ht t hmem hs⟩,
    fun h => ⟨fun hs => (h hs).identifier, fun t hmem hs => (h hs).typeName t hmem⟩⟩

end Strictness

/-- what a reader checks of a content -/
def Content.Meets (c : Content) (s : Strictness) : Prop := s.admitsKeyword c.keyword = true ∧ s.nameCause? c.name = none

theorem Content.meets_lenient (c : Content) : c.Meets .lenient :=
  ⟨Strictness.admitsKeyword_iff.2 nofun, Strictness.nameCause?_eq_none_iff.2 nofun⟩

/-! ## The parts of a well-formed text -/

namespace Form

/-- the text without the blanks around it -/
def statement (f : Form) : Text := f.keyword ++ ' ' :: (f.left ++ '=' :: f.raw)

theorem text_eq (f : Form) : f.text = f.before ++ f.statement ++ f.after := by
  simp [text, statement]

namespace WellFormed

variable {f : Form}

theorem head_statement (hf : f.WellFormed) : ∀ c ∈ f.statement.head?, Text.isBlank c = false := by
  intro c hc
  rw [statement, List.head?_append_of_ne_nil _ hf.keyword_ne_nil] at hc
  exact hf.keyword_head c hc

theorem last_statement (hf : f.WellFormed) : ∀ c ∈ f.statement.getLast?, Text.isBlank c = false := by
  intro c hc
  rw [statement, ← List.cons_append, ← List.append_assoc, List.getLast?_append_cons] at hc
  cases hraw : f.raw with
  | nil =>
    rw [hraw] at hc
    obtain rfl : '=' = c := by simpa using hc
    decide
  | cons d r =>
    rw [hraw, List.getLast?_cons_cons, ← hraw] at hc
    exact hf.raw_last c hc

theorem trim_text (hf : f.WellFormed) : Text.trim Text.isBlank f.text = f.statement := by
  rw [text_eq]
  exact Text.trim_eq_of_append hf.before_blank hf.head_statement hf.last_statement hf.after_blank

theorem takeWhile_text (hf : f.WellFormed) : f.text.takeWhile Text.isBlank = f.before := by
  rw [text_eq, List.append_assoc]
  apply Text.takeWhile_eq_of_append hf.before_blank
  intro c hc
  rw [List.head?_append_of_ne_nil _ (by simp [statement])] at hc
  exact hf.head_statement c hc

theorem trimmedTail_text (hf : f.WellFormed) : Text.trimmedTail Text.isBlank f.text = f.after := by
  apply Text.trimmedTail_eq
  rw [hf.takeWhile_text, hf.trim_text, text_eq]

theorem cutAt?_statement (hf : f.WellFormed) :
    Text.cutAt? ' ' f.statement = some (f.keyword, f.left ++ '=' :: f.raw) :=
  Text.cutAt?_eq_some_iff.2 ⟨rfl, hf.space_notMem_keyword⟩

theorem cutAt?_declarator (hf : f.WellFormed) : Text.cutAt? '=' (f.left ++ '=' :: f.raw) = some (f.left, f.raw) :=
  Text.cutAt?_eq_some_iff.2 ⟨rfl, hf.assignment_notMem_left⟩

end WellFormed

/-- the form of a piece whose statement is cut into these parts -/
def ofCuts (piece keyword left raw : Text) : Form :=
  ⟨piece.takeWhile Text.isBlank, keyword, left, raw, Text.trimmedTail Text.isBlank piece⟩

theorem WellFormed.ofCuts_text {f : Form} (hf : f.WellFormed) : ofCuts f.text f.keyword f.left f.raw = f := by
  rw [ofCuts, hf.takeWhile_text, hf.trimmedTail_text]

section Cuts

variable {piece keyword text left raw : Text} (hk : Text.cutAt? ' ' (Text.trim Text.isBlank piece) = some (keyword, text))
  (ha : Text.cutAt? '=' text = some (left, raw))
include hk ha

theorem statement_ofCuts : (ofCuts piece keyword left raw).statement = Text.trim Text.isBlank piece := by
  rw [(Text.cutAt?_eq_some_iff.1 hk).1, (Text.cutAt?_eq_some_iff.1 ha).1]
  rfl

theorem text_ofCuts : (ofCuts piece keyword left raw).text = piece := by
  rw [text_eq, statement_ofCuts hk ha]
  exact Text.append_trimmedTail Text.isBlank piece

theorem wellFormed_ofCuts : (ofCuts piece keyword left raw).WellFormed := by
  have hstatement : keyword ++ ' ' :: (left ++ '=' :: raw) = Text.trim Text.isBlank piece := statement_ofCuts hk ha
  have hne : keyword ≠ [] := by
    rintro rfl
    -- the statement would begin with the space
    have hspace : Text.isBlank ' ' = false := Text.of_mem_head?_trim (by rw [← hstatement]; rfl)
    exact absurd hspace (by decide)
  refine ⟨fun c hc => List.mem_takeWhile_imp hc, fun c hc => Text.of_mem_trimmedTail hc, hne,
    (Text.cutAt?_eq_some_iff.1 hk).2, ?_, (Text.cutAt?_eq_some_iff.1 ha).2, ?_⟩
  · intro c hc
    apply Text.of_mem_head?_trim (t := piece)
    rwa [← hstatement, List.head?_append_of_ne_nil _ hne]
  · intro c hc
    obtain ⟨r, rfl⟩ : ∃ r, raw = r ++ [c] := List.getLast?_eq_some_iff.1 hc
    have hend : Text.trim Text.isBlank piece = (keyword ++ ' ' :: (left ++ '=' :: r)) ++ [c] := by simp [← hstatement]
    apply Text.of_mem_getLast?_trim (t := piece)
    rw [hend, List.getLast?_concat, Option.mem_def]

end Cuts

/-! ## Reading a piece -/

/-- why a piece has no form: a cause, found so many bytes into the piece -/
structure Defect where
  cause : Cause
  depth : Nat
deriving DecidableEq, Repr

/-- the form of a piece that meets the demands, or the first thing against it -/
def ofPiece (s : Strictness) (piece : Text) : Except Defect Form :=
  let statement := Text.trim Text.isBlank piece
  let start := Text.byteLength (piece.takeWhile Text.isBlank)
  match Text.cutAt? ' ' statement with
  | none => .error ⟨.missingKeyword statement, start⟩
  | some (keyword, text) =>
    if s.admitsKeyword keyword = true then
      let nameStart := start + keyword.byteLength + 1
      match Text.cutAt? '=' text with
      | none => .error ⟨.missingAssignment text, nameStart⟩
      | some (left, raw) =>
        match s.nameCause? (Name.ofText left) with
        | some cause => .error ⟨cause, nameStart⟩
        | none => .ok (ofCuts piece keyword left raw)
    else .error ⟨.unknownKeyword keyword, start⟩

/-- the demands are looked up in the content: the keyword, and the name that is read off the text before the assignment -/
theorem meets_iff {f : Form} {s : Strictness} : f.Meets s ↔ f.content.Meets s := by
  rw [Content.Meets, Strictness.admitsKeyword_iff, Strictness.nameCause?_eq_none_iff]
  refine ⟨?_, ?_⟩
  · intro hmeets
    obtain ⟨hk, hn⟩ := hmeets
    exact ⟨hk, fun hs => hn hs _ (Name.spelledBy_iff.2 rfl)⟩
  · intro hmeets
    obtain ⟨hk, hn⟩ := hmeets
    refine ⟨hk, fun hs n hspelled => ?_⟩
    obtain rfl := Name.spelledBy_iff.1 hspelled
    exact hn hs

/-- a piece is read as exactly the well-formed form that meets the demands, if there is one -/
theorem ofPiece_eq_ok_iff {s : Strictness} {piece : Text} {f : Form} :
    ofPiece s piece = .ok f ↔ f.text = piece ∧ f.WellFormed ∧ f.Meets s := by
  refine ⟨?_, ?_⟩
  · intro h
    simp only [ofPiece] at h
    split at h
    · cases h
    · rename_i keyword text hk
      split at h
      · rename_i hword
        split at h
        · cases h
        · rename_i left raw ha
          split at h
          · cases h
          · rename_i hname
            cases h
            exact ⟨text_ofCuts hk ha, wellFormed_ofCuts hk ha, meets_iff.2 ⟨hword, hname⟩⟩
      · cases h
  · intro hform
    obtain ⟨rfl, hf, hm⟩ := hform
    obtain ⟨hword, hname⟩ : s.admitsKeyword f.keyword = true ∧ s.nameCause? (Name.ofText f.left) = none :=
      meets_iff.1 hm
    simp only [ofPiece, hf.trim_text, hf.cutAt?_statement, hword, ↓reduceIte, hf.cutAt?_declarator, hname, hf.ofCuts_text]

/-- a text has at most one well-formed reading -/
theorem eq_of_text_eq {f g : Form} (hf : f.WellFormed) (hg : g.WellFormed) (h : f.text = g.text) : f = g := by
  have hlenient : ∀ e : Form, e.Meets .lenient := fun e => meets_iff.2 e.content.meets_lenient
  have hread : ofPiece .lenient f.text = .ok f := ofPiece_eq_ok_iff.2 ⟨rfl, hf, hlenient f⟩
  have hread' : ofPiece .lenient f.text = .ok g := ofPiece_eq_ok_iff.2 ⟨h.symm, hg, hlenient g⟩
  exact Except.ok.inj (hread.symm.trans hread')

end Form

end VarDecl
