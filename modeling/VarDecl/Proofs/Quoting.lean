/-
Quoted texts and numbers can be told from what stands behind them.

A text in which no character lies outside of a class ends where the first other character stands
(`Text.append_inj_of_class`): a number ends behind its digits, a word behind its letters. A quoted text may contain
anything, a quotation mark among the rest. But each of its characters is written in a way that can be read off the front of
any text (`Escaping.unescape?`), and no such way begins with the mark that ends the whole. Which characters are written by
their code points does not matter, so all of this is stated for any `Escaping`.

Results:
- `Escaping.unescape?_escape_append`: a written character is read back.
- `Escaping.encode_append_inj`: a quoted text and what stands behind it can be told from the two together.
- `Text.Decimal.ofInt_append_inj`: so can a number, if what stands behind it begins with neither digit nor sign.
-/
import VarDecl.Proofs.Decimal
import VarDecl.Sketch

namespace VarDecl

/-- a text of a class ends where the class does -/
theorem Text.append_inj_of_class {p : Char → Bool} {s t x y : Text} (hs : ∀ c ∈ s, p c = true)
    (ht : ∀ c ∈ t, p c = true) (hx : ∀ c ∈ x.head?, p c = false) (hy : ∀ c ∈ y.head?, p c = false)
    (h : s ++ x = t ++ y) : s = t ∧ x = y := by
  have hfront : s = t := by
    calc s = (s ++ x).takeWhile p := (takeWhile_eq_of_append hs hx).symm
      _ = (t ++ y).takeWhile p := by rw [h]
      _ = t := takeWhile_eq_of_append ht hy
  rw [hfront] at h
  exact ⟨hfront, List.append_cancel_left h⟩

/-! ## Code points -/

namespace Text.Quoted

/-- the value of a digit of a code point -/
def digitValue (c : Char) : Nat := if c.isDigit then c.toNat - '0'.toNat else c.toNat - 'a'.toNat + 10

/-- the code point that digits denote -/
def ofDigits (t : Text) : Nat := t.foldl (fun n c => 16 * n + digitValue c) 0

theorem digitValue_digitChar : ∀ d < 16, digitValue d.digitChar = d := by decide

theorem ofDigits_toDigits (n : Nat) : ofDigits (Nat.toDigits 16 n) = n := by
  induction n using Nat.strongRecOn with
  | ind n ih =>
    rw [Nat.toDigits_eq_if (by decide)]
    split
    · rename_i hlt
      exact (Nat.zero_add _).trans (digitValue_digitChar n hlt)
    · have hlast : digitValue (n % 16).digitChar = n % 16 := digitValue_digitChar _ (Nat.mod_lt n (by decide))
      have hfront := ih (n / 16) (by omega)
      unfold ofDigits at hfront ⊢
      rw [List.foldl_append, hfront, List.foldl_cons, List.foldl_nil, hlast]
      exact Nat.div_add_mod n 16

theorem brace_notMem_toDigits (n : Nat) : '\x7d' ∉ Nat.toDigits 16 n := by
  induction n using Nat.strongRecOn with
  | ind n ih =>
    have hdigit : ∀ d : Nat, '\x7d' ∉ [d.digitChar] := by
      intro d hmem
      exact Nat.digitChar_ne '\x7d' (by decide) (List.mem_singleton.1 hmem).symm
    rw [Nat.toDigits_eq_if (by decide)]
    split
    · exact hdigit n
    · intro hmem
      rcases List.mem_append.1 hmem with hfront | hlast
      · exact ih (n / 16) (by omega) hfront
      · exact hdigit _ hlast

end Text.Quoted

/-! ## Written characters -/

namespace Escaping

open Text.Quoted

/-- reads one written character off the front of a text; a quotation mark is the end and no character -/
def unescape? : Text → Option (Char × Text)
  | [] => none
  | '\x22' :: _ => none
  | '\\' :: 'u' :: '\x7b' :: t => (Text.cutAt? '\x7d' t).map fun p => (Char.ofNat (ofDigits p.1), p.2)
  | '\\' :: k :: t => (fixedEscapes.find? fun p => p.2 == k).map fun p => (p.1, t)
  | c :: t => some (c, t)

theorem unescape?_codeEscape_append (c : Char) (t : Text) : unescape? (codeEscape c ++ t) = some (c, t) := by
  have hparts : codeEscape c ++ t = '\\' :: 'u' :: '\x7b' :: (Nat.toDigits 16 c.toNat ++ '\x7d' :: t) := by
    simp [codeEscape]
  have hcut : Text.cutAt? '\x7d' (Nat.toDigits 16 c.toNat ++ '\x7d' :: t) = some (Nat.toDigits 16 c.toNat, t) :=
    Text.cutAt?_eq_some_iff.2 ⟨rfl, brace_notMem_toDigits c.toNat⟩
  rw [hparts]
  simp only [unescape?, hcut, Option.map_some, ofDigits_toDigits, Char.ofNat_toNat]

/-- **A written character is read back**, whatever stands behind it. -/
theorem unescape?_escape_append (e : Escaping) (c : Char) (t : Text) :
    unescape? (e.escape c ++ t) = some (c, t) := by
  by_cases hfixed : c ∈ fixedEscapes.map Prod.fst
  · obtain ⟨p, hp, rfl⟩ := List.mem_map.1 hfixed
    rw [e.fixed p hp]
    simp only [fixedEscapes, List.mem_cons, List.not_mem_nil, or_false] at hp
    rcases hp with rfl | rfl | rfl | rfl | rfl | rfl
    all_goals rfl
  · rcases e.other c hfixed with hself | hcode
    · have hne : ∀ d ∈ fixedEscapes.map Prod.fst, c ≠ d := by
        rintro d hd rfl
        exact hfixed hd
      rw [hself, List.singleton_append, unescape?]
      · exact hne '\x22' (by decide)
      · exact fun _ hslash => absurd hslash (hne '\\' (by decide))
      · exact fun _ _ hslash => absurd hslash (hne '\\' (by decide))
    · rw [hcode]
      exact unescape?_codeEscape_append c t

/-! ## Quoted texts -/

variable (e : Escaping)

theorem flatMap_escape_append_inj {t u x y : Text}
    (h : t.flatMap e.escape ++ '\x22' :: x = u.flatMap e.escape ++ '\x22' :: y) : t = u ∧ x = y := by
  induction t generalizing u with
  | nil =>
    cases u with
    | nil => exact ⟨rfl, (List.cons.inj h).2⟩
    | cons d u =>
      have hread := congrArg unescape? h
      rw [List.flatMap_cons, List.append_assoc, unescape?_escape_append] at hread
      cases hread
  | cons c t ih =>
    have hread := congrArg unescape? h
    rw [List.flatMap_cons, List.append_assoc, unescape?_escape_append] at hread
    cases u with
    | nil => cases hread
    | cons d u =>
      rw [List.flatMap_cons, List.append_assoc, unescape?_escape_append] at hread
      obtain ⟨rfl, hrest⟩ := Prod.mk.inj (Option.some.inj hread)
      obtain ⟨rfl, hbehind⟩ := ih hrest
      exact ⟨rfl, hbehind⟩

/-- **A quoted text ends at its own quotation mark**, whatever the text and whatever stands behind it. -/
theorem encode_append_inj {t u x y : Text} (h : e.encode t ++ x = e.encode u ++ y) : t = u ∧ x = y := by
  apply e.flatMap_escape_append_inj
  have hparts : ∀ s z : Text, e.encode s ++ z = '\x22' :: (s.flatMap e.escape ++ '\x22' :: z) := by
    intro s z
    simp [encode]
  rw [hparts, hparts] at h
  exact (List.cons.inj h).2

end Escaping

/-! ## Numbers -/

namespace Text.Decimal

theorem ofNat_inj {m n : Nat} (h : ofNat m = ofNat n) : m = n := by
  calc m = Nat.ofDigitChars 10 (ofNat m) 0 := Nat.ofDigitChars_ten_toDigits.symm
    _ = Nat.ofDigitChars 10 (ofNat n) 0 := by rw [h]
    _ = n := Nat.ofDigitChars_ten_toDigits

/-- whether a character can stand in a number -/
def isMark (c : Char) : Bool := c.isDigit || c == '-'

theorem isMark_of_mem_ofInt {i : Int} {c : Char} (h : c ∈ ofInt i) : isMark c = true := by
  have hdigit : ∀ {n : Nat}, c ∈ ofNat n → isMark c = true := by
    intro n hn
    simp [isMark, isDigit_of_mem_ofNat hn]
  unfold ofInt at h
  split at h
  · rcases List.mem_cons.1 h with rfl | h
    · rfl
    · exact hdigit h
  · exact hdigit h

theorem ofInt_ne_nil (i : Int) : ofInt i ≠ [] := by
  unfold ofInt
  split
  · exact List.cons_ne_nil _ _
  · exact Nat.toDigits_ne_nil

theorem minus_ne_ofNat {t : Text} {n : Nat} (h : '-' :: t = ofNat n) : False :=
  absurd (isDigit_of_mem_ofNat (h ▸ List.mem_cons_self)) (by decide)

theorem ofInt_inj {i j : Int} (h : ofInt i = ofInt j) : i = j := by
  unfold ofInt at h
  split at h
  · split at h
    · have habs := ofNat_inj (List.cons.inj h).2
      omega
    · exact (minus_ne_ofNat h).elim
  · split at h
    · exact (minus_ne_ofNat h.symm).elim
    · have habs := ofNat_inj h
      omega

/-- **A number ends behind its digits.** -/
theorem ofInt_append_inj {i j : Int} {x y : Text} (hx : ∀ c ∈ x.head?, isMark c = false)
    (hy : ∀ c ∈ y.head?, isMark c = false) (h : ofInt i ++ x = ofInt j ++ y) : i = j ∧ x = y := by
  obtain ⟨hnumber, hbehind⟩ :=
    append_inj_of_class (fun _ => isMark_of_mem_ofInt) (fun _ => isMark_of_mem_ofInt) hx hy h
  exact ⟨ofInt_inj hnumber, hbehind⟩

end Text.Decimal

end VarDecl
