/-
Strictness: what a declaration may look like beyond its form.

A lenient reading accepts any word as keyword and any text as name. A strict one accepts the three conventional keywords
only, and names only of plain parts. Either half can be asked for alone. `s ≤ t` says that `t` demands all that `s` does.
-/
import VarDecl.Tree.Name

namespace VarDecl

/-! ## Keywords -/

/-- the conventional keywords of a declaration -/
inductive Keyword where
  | constWord
  | letWord
  | varWord
deriving DecidableEq, Repr

namespace Keyword

def text : Keyword → Text
  | constWord => "const".toList
  | letWord => "let".toList
  | varWord => "var".toList

def ofText? (t : Text) : Option Keyword := [constWord, letWord, varWord].find? fun k => k.text == t

theorem ofText?_eq_some_iff {t : Text} {k : Keyword} : ofText? t = some k ↔ t = k.text := by
  constructor
  · intro h
    have hk := List.find?_some h
    exact (beq_iff_eq.1 hk).symm
  · rintro rfl
    cases k <;> decide

end Keyword

/-! ## Demands -/

/-- which of the two demands are made -/
structure Strictness where
  keywords : Bool := false
  identifiers : Bool := false
deriving DecidableEq, Repr

namespace Strictness

def lenient : Strictness := {}

def strict : Strictness := ⟨true, true⟩

instance : LE Strictness where
  le s t := (s.keywords = true → t.keywords = true) ∧ (s.identifiers = true → t.identifiers = true)

theorem lenient_le (s : Strictness) : lenient ≤ s := ⟨nofun, nofun⟩

def admitsKeyword (s : Strictness) (keyword : Text) : Bool := !s.keywords || (Keyword.ofText? keyword).isSome

def admitsPart (s : Strictness) (part : Text) : Bool := !s.identifiers || Name.isPlain part

end Strictness

end VarDecl
