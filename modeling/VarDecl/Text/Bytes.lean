/-
Texts by byte offsets.

An offset is a boundary of a text if some part of the text, from its start on, has that many bytes. A text can be taken
apart at its boundaries and nowhere else: at an offset inside a character or past the end, `splitAt?` and `slice?` have no
answer. `splitAt?_eq_some_iff` says exactly what is answered to the left and to the right of an offset, and
`slice?_eq_some_iff` that between two offsets stands the text of which the source has it there (`Slice`).
-/
import VarDecl.Text.Basic

namespace VarDecl

namespace Text

/-! ## Bytes and characters -/

theorem byteLength_eq_length {t : Text} (h : ∀ c ∈ t, c.utf8Size = 1) : t.byteLength = t.length := by
  induction t with
  | nil => rfl
  | cons c t ih =>
    obtain ⟨hc, ht⟩ := List.forall_mem_cons.1 h
    rw [byteLength_cons, hc, ih ht, List.length_cons, Nat.add_comm]

theorem length_le_byteLength (t : Text) : t.length ≤ t.byteLength := by
  induction t with
  | nil => exact Nat.le_refl 0
  | cons c t ih =>
    have hpos := c.utf8Size_pos
    rw [byteLength_cons, List.length_cons]
    omega

theorem utf8Size_of_isDigit {c : Char} (h : c.isDigit = true) : c.utf8Size = 1 := by
  simp only [Char.isDigit, Bool.and_eq_true, decide_eq_true_eq] at h
  exact Char.utf8Size_eq_one_iff.2 (UInt32.le_trans h.2 (by decide))

theorem byteLength_reverse (t : Text) : byteLength t.reverse = t.byteLength := by
  induction t with
  | nil => rfl
  | cons c t ih =>
    rw [List.reverse_cons, byteLength_append, ih, byteLength_cons, byteLength_cons, byteLength_nil]
    omega

theorem byteLength_take_le (t : Text) (n : Nat) : byteLength (t.take n) ≤ t.byteLength := by
  have hparts := byteLength_append (t.take n) (t.drop n)
  rw [List.take_append_drop] at hparts
  omega

/-- every character has a byte -/
theorem byteLength_take_lt {t : Text} {m n : Nat} (hmn : m < n) (hn : n ≤ t.length) :
    byteLength (t.take m) < byteLength (t.take n) := by
  induction t generalizing m n with
  | nil => simp only [List.length_nil] at hn; omega
  | cons c t ih =>
    obtain ⟨n, rfl⟩ : ∃ k, n = k + 1 := Nat.exists_eq_add_one.2 (by omega)
    have hpos := c.utf8Size_pos
    cases m with
    | zero =>
      rw [List.take_zero, List.take_succ_cons, byteLength_cons, byteLength_nil]
      omega
    | succ m =>
      have hrest := ih (m := m) (n := n) (by omega) (by simpa using hn)
      rw [List.take_succ_cons, List.take_succ_cons, byteLength_cons, byteLength_cons]
      omega

/-! ## Boundaries -/

/-- the text in front of an offset and the text behind it, if the offset is a boundary -/
def splitAt? : Text → Nat → Option (Text × Text)
  | t, 0 => some ([], t)
  | [], _ + 1 => none
  | c :: t, n + 1 =>
    if c.utf8Size ≤ n + 1 then (splitAt? t (n + 1 - c.utf8Size)).map fun p => (c :: p.1, p.2) else none

def isBoundary (t : Text) (offset : Nat) : Bool := (t.splitAt? offset).isSome

/-- the last boundary up to an offset, looked for byte by byte; there is none if not even the start is a boundary -/
def boundaryUpTo? (t : Text) : Nat → Option Nat
  | 0 => if t.isBoundary 0 then some 0 else none
  | n + 1 => if t.isBoundary (n + 1) then some (n + 1) else boundaryUpTo? t n

theorem splitAt?_append (before after : Text) :
    splitAt? (before ++ after) before.byteLength = some (before, after) := by
  induction before with
  | nil => simp [splitAt?]
  | cons c before ih =>
    have hpos := c.utf8Size_pos
    obtain ⟨n, hn⟩ : ∃ n, c.utf8Size + byteLength before = n + 1 := Nat.exists_eq_add_one.2 (by omega)
    have hfits : c.utf8Size ≤ n + 1 := by omega
    have hrest : n + 1 - c.utf8Size = byteLength before := by omega
    rw [byteLength_cons, hn, List.cons_append, splitAt?, if_pos hfits, hrest, ih]
    rfl

theorem of_splitAt?_eq_some {t before after : Text} {offset : Nat} (h : t.splitAt? offset = some (before, after)) :
    t = before ++ after ∧ before.byteLength = offset := by
  fun_induction splitAt? t offset generalizing before with
  | case1 t =>
    cases h
    exact ⟨rfl, rfl⟩
  | case2 => cases h
  | case3 c t n hfits ih =>
    obtain ⟨⟨front, behind⟩, hsplit, hparts⟩ := Option.map_eq_some_iff.1 h
    cases hparts
    obtain ⟨rfl, hsize⟩ := ih hsplit
    exact ⟨rfl, by rw [byteLength_cons, hsize]; omega⟩
  | case4 => cases h

theorem splitAt?_eq_some_iff {t before after : Text} {offset : Nat} :
    t.splitAt? offset = some (before, after) ↔ t = before ++ after ∧ before.byteLength = offset := by
  refine ⟨of_splitAt?_eq_some, ?_⟩
  rintro ⟨rfl, rfl⟩
  exact splitAt?_append before after

theorem isBoundary_iff {t : Text} {offset : Nat} :
    t.isBoundary offset = true ↔ ∃ before after, t = before ++ after ∧ before.byteLength = offset := by
  simp only [isBoundary, Option.isSome_iff_exists, Prod.exists, splitAt?_eq_some_iff]

/-! ## Parts -/

/-- the source has a text between two byte offsets; both offsets lie between characters, or at an end of the source -/
def Slice (source : Text) (start stop : Nat) (t : Text) : Prop :=
  ∃ before after, source = before ++ t ++ after ∧ before.byteLength = start ∧ (before ++ t).byteLength = stop

/-- the text between two offsets, if both are boundaries and the first is not behind the second -/
def slice? (t : Text) (start stop : Nat) : Option Text :=
  (t.splitAt? stop).bind fun p => (p.1.splitAt? start).map (·.2)

theorem slice?_eq_some_iff {t s : Text} {start stop : Nat} : t.slice? start stop = some s ↔ t.Slice start stop s := by
  simp only [slice?, Slice, Option.bind_eq_some_iff, Option.map_eq_some_iff, Prod.exists, splitAt?_eq_some_iff]
  refine ⟨?_, ?_⟩
  · rintro ⟨front, after, ⟨rfl, hstop⟩, before, s, ⟨rfl, hstart⟩, rfl⟩
    exact ⟨before, after, rfl, hstart, hstop⟩
  · rintro ⟨before, after, rfl, hstart, hstop⟩
    exact ⟨before ++ s, after, ⟨rfl, hstop⟩, before, s, ⟨rfl, hstart⟩, rfl⟩

theorem slice?_append (before t after : Text) :
    slice? (before ++ t ++ after) before.byteLength (before ++ t).byteLength = some t :=
  slice?_eq_some_iff.2 ⟨before, after, rfl, rfl, rfl⟩

theorem slice?_left (before after : Text) : slice? (before ++ after) 0 before.byteLength = some before :=
  slice?_append [] before after

theorem slice?_right (before after : Text) :
    slice? (before ++ after) before.byteLength (before ++ after).byteLength = some after :=
  slice?_eq_some_iff.2 ⟨before, [], (List.append_nil _).symm, rfl, rfl⟩

/-! ## Offsets of characters -/

def firstOf? (c : Char) (t : Text) : Option Nat := (t.cutAt? c).map fun p => p.1.byteLength

def lastOf? (c : Char) (t : Text) : Option Nat := (cutAt? c t.reverse).map fun p => p.2.byteLength

/-- what a cut at a character of one byte leaves are the parts in front of the offset of the character and behind it -/
theorem slice?_of_cutAt? {sep : Char} {t before after : Text} (h : t.cutAt? sep = some (before, after))
    (hsize : sep.utf8Size = 1) :
    t.slice? 0 before.byteLength = some before ∧ t.slice? (before.byteLength + 1) t.byteLength = some after := by
  obtain ⟨rfl, -⟩ := cutAt?_eq_some_iff.1 h
  refine ⟨slice?_left before (sep :: after), ?_⟩
  have hright := slice?_right (before ++ [sep]) after
  simpa only [List.append_assoc, List.cons_append, List.nil_append, byteLength_append, byteLength_cons, byteLength_nil,
    hsize] using hright

end Text

end VarDecl
