/-
The grammar of a piece, as a description apart from any reader.

A piece is derived if it can be put together from blanks, a keyword, a space, a text for the name, an assignment sign, a
text for the value and blanks again (`Form.text`). The conditions of `Form.WellFormed` say where each part has to end: no
space in the keyword, no assignment sign before the first, no blank at either end but the outer ones. `Form.Meets` adds
the demands of a strictness, on the keyword and on the name that is spelled before the assignment sign
(`Name.SpelledBy`). `Form.content` is what a declaration of that form says.
-/
import VarDecl.Text.Blank
import VarDecl.Tree.Basic

namespace VarDecl

/-! ## Names -/

namespace Name

/-- the text, apart from its spaces, is the identifier and then, from the first colon on, the type -/
structure SpelledBy (n : Name) (text : Text) : Prop where
  colon_notMem_identifier : ':' ∉ n.identifier
  spelling : text.filter (· != ' ') = n.identifier ++ n.typeName.elim [] (':' :: ·)

/-- a letter of ASCII or an underscore -/
def IsLetter (c : Char) : Prop := ('a' ≤ c ∧ c ≤ 'z') ∨ ('A' ≤ c ∧ c ≤ 'Z') ∨ c = '_'

/-- a digit of ASCII -/
def IsDigit (c : Char) : Prop := '0' ≤ c ∧ c ≤ '9'

/-- a letter, then letters and digits to the end of the text -/
def IsWord (t : Text) : Prop := ∃ c r, t = c :: r ∧ IsLetter c ∧ ∀ d ∈ r, IsLetter d ∨ IsDigit d

/-- both parts of a name are words -/
structure IsConventional (n : Name) : Prop where
  identifier : IsWord n.identifier
  typeName : ∀ t ∈ n.typeName, IsWord t

end Name

/-! ## Forms -/

/-- the parts of a piece -/
structure Form where
  before : Text
  keyword : Text
  left : Text
  raw : Text
  after : Text
deriving DecidableEq, Repr

namespace Form

/-- the parts put together -/
def text (f : Form) : Text := f.before ++ f.keyword ++ ' ' :: f.left ++ '=' :: f.raw ++ f.after

/-- the conditions on the parts: where each of them has to end -/
structure WellFormed (f : Form) : Prop where
  before_blank : ∀ c ∈ f.before, Text.isBlank c = true
  after_blank : ∀ c ∈ f.after, Text.isBlank c = true
  keyword_ne_nil : f.keyword ≠ []
  space_notMem_keyword : ' ' ∉ f.keyword
  keyword_head : ∀ c ∈ f.keyword.head?, Text.isBlank c = false
  assignment_notMem_left : '=' ∉ f.left
  raw_last : ∀ c ∈ f.raw.getLast?, Text.isBlank c = false

/-- the demands of a strictness: a conventional keyword, and a conventional name -/
structure Meets (f : Form) (s : Strictness) : Prop where
  keyword : s.keywords = true → ∃ k : Keyword, f.keyword = k.text
  name : s.identifiers = true → ∀ n : Name, n.SpelledBy f.left → n.IsConventional

/-- what a declaration of this form says -/
def content (f : Form) : Content := ⟨f.keyword, Name.ofText f.left, Value.ofText f.raw⟩

end Form

/-- whether a piece has a well-formed reading that meets the demands -/
def Derives (s : Strictness) (piece : Text) : Prop := ∃ f : Form, f.text = piece ∧ f.WellFormed ∧ f.Meets s

end VarDecl
