/-
Which texts are numbers.

A numeral is one optional sign and then digits of ASCII, at least one and as many as one likes; what it denotes is worked
out in integers without bounds (`Numeral`). The reader of values works within 64 bits and gives up on the way.

Results:
- `Text.Decimal.read?_eq_some_iff`, `Text.Decimal.read?_eq_none_iff`: the reader accepts exactly the numerals of signed
  64-bit integers, and reads them as what they denote.
- `Value.ofText_source_ofText`: a value that is written down is read as itself.
- `Value.recognises_integers`: a text is read as a number or as a text, apart from the spaces around it, according to
  whether it is the numeral of a signed 64-bit integer.
-/
import Mathlib.Data.List.TakeWhile
import VarDecl.Proofs.Decimal
import VarDecl.Tree.Value

namespace VarDecl

/-! ## Numerals -/

/-- digits, at least one, of a natural number -/
structure Digits (t : Text) (n : Nat) : Prop where
  ne_nil : t ≠ []
  isDigit : ∀ c ∈ t, c.isDigit = true
  value : Nat.ofDigitChars 10 t 0 = n

/-- the notations of an integer: digits, or one sign and digits -/
inductive Numeral : Text → Int → Prop
  | unsigned {t : Text} {n : Nat} : Digits t n → Numeral t n
  | plus {t : Text} {n : Nat} : Digits t n → Numeral ('+' :: t) n
  | minus {t : Text} {n : Nat} : Digits t n → Numeral ('-' :: t) (-n)

/-- the range of signed 64-bit integers, from -2^63 to 2^63 - 1 -/
def Within64 (n : Int) : Prop := -0x8000000000000000 ≤ n ∧ n ≤ 0x7fffffffffffffff

theorem within64_toInt (n : Int64) : Within64 n.toInt := by
  have hlow := n.le_toInt
  have hhigh := n.toInt_lt
  exact ⟨by omega, by omega⟩

theorem toInt_ofInt_of_within64 {n : Int} (h : Within64 n) : (Int64.ofInt n).toInt = n := by
  obtain ⟨hlow, hhigh⟩ := h
  exact Int64.toInt_ofInt_of_le (by omega) (by omega)

namespace Text.Decimal

theorem magnitude?_eq_some_iff_digits {limit n : Nat} {t : Text} :
    magnitude? limit t = some n ↔ Digits t n ∧ n ≤ limit := by
  rw [magnitude?_eq_some_iff]
  exact ⟨fun ⟨hne, hdigit, hvalue, hle⟩ => ⟨⟨hne, hdigit, hvalue⟩, hle⟩,
    fun ⟨h, hle⟩ => ⟨h.ne_nil, h.isDigit, h.value, hle⟩⟩

/-- digits behind a sign: if the limit is what the sign allows, the limit and the range come to the same -/
theorem map_magnitude?_eq_some_iff {limit : Nat} {sign : Nat → Int} (hsign : ∀ m, m ≤ limit ↔ Within64 (sign m))
    {t : Text} {n : Int64} :
    ((magnitude? limit t).map fun m => Int64.ofInt (sign m)) = some n ↔ ∃ m, Digits t m ∧ sign m = n.toInt := by
  rw [Option.map_eq_some_iff]
  refine ⟨?_, ?_⟩
  · rintro ⟨m, hm, rfl⟩
    obtain ⟨hdigits, hle⟩ := magnitude?_eq_some_iff_digits.1 hm
    exact ⟨m, hdigits, (toInt_ofInt_of_within64 ((hsign m).1 hle)).symm⟩
  · rintro ⟨m, hdigits, hvalue⟩
    have hle : m ≤ limit := (hsign m).2 (hvalue ▸ within64_toInt n)
    exact ⟨m, magnitude?_eq_some_iff_digits.2 ⟨hdigits, hle⟩, by rw [hvalue, Int64.ofInt_toInt]⟩

theorem le_positiveLimit_iff (m : Nat) : m ≤ positiveLimit ↔ Within64 m := by
  unfold positiveLimit Within64
  omega

theorem le_negativeLimit_iff (m : Nat) : m ≤ negativeLimit ↔ Within64 (-m) := by
  unfold negativeLimit Within64
  omega

/-- **The reader accepts exactly the numerals of signed 64-bit integers.** -/
theorem read?_eq_some_iff {t : Text} {n : Int64} : read? t = some n ↔ Numeral t n.toInt := by
  refine ⟨fun h => ?_, fun h => ?_⟩
  · unfold read? at h
    split at h
    · obtain ⟨m, hdigits, hm⟩ := (map_magnitude?_eq_some_iff le_negativeLimit_iff).1 h
      rw [← hm]
      exact .minus hdigits
    · obtain ⟨m, hdigits, hm⟩ := (map_magnitude?_eq_some_iff le_positiveLimit_iff).1 h
      rw [← hm]
      exact .plus hdigits
    · obtain ⟨m, hdigits, hm⟩ := (map_magnitude?_eq_some_iff le_positiveLimit_iff).1 h
      rw [← hm]
      exact .unsigned hdigits
  · generalize hi : n.toInt = i at h
    cases h with
    | minus hdigits => exact (map_magnitude?_eq_some_iff le_negativeLimit_iff).2 ⟨_, hdigits, hi.symm⟩
    | plus hdigits => exact (map_magnitude?_eq_some_iff le_positiveLimit_iff).2 ⟨_, hdigits, hi.symm⟩
    | unsigned hdigits =>
      have hhead : ∀ c, t.head? = some c → c.isDigit = true := fun c hc => hdigits.isDigit c (List.mem_of_mem_head? hc)
      -- a sign is no digit
      rw [read?_of_head (fun h => absurd (hhead _ h) (by decide)) (fun h => absurd (hhead _ h) (by decide))]
      exact (map_magnitude?_eq_some_iff le_positiveLimit_iff).2 ⟨_, hdigits, hi.symm⟩

theorem read?_eq_none_iff {t : Text} : read? t = none ↔ ¬∃ n, Numeral t n ∧ Within64 n := by
  rw [Option.eq_none_iff_forall_ne_some]
  refine ⟨?_, ?_⟩
  · rintro hnone ⟨n, hn, hrange⟩
    refine hnone (Int64.ofInt n) (read?_eq_some_iff.2 ?_)
    rwa [toInt_ofInt_of_within64 hrange]
  · intro hno n hn
    exact hno ⟨n.toInt, read?_eq_some_iff.1 hn, within64_toInt n⟩

end Text.Decimal

/-! ## Values -/

theorem Text.trim_eq_self {p : Char → Bool} {t : Text} (hh : ∀ c ∈ t.head?, p c = false)
    (hl : ∀ c ∈ t.getLast?, p c = false) : trim p t = t := by
  have htrim := trim_eq_of_append (p := p) (a := []) (b := []) (by simp) hh hl (by simp)
  simpa using htrim

theorem Text.trim_trim (p : Char → Bool) (t : Text) : trim p (trim p t) = trim p t :=
  trim_eq_self (fun _ h => of_mem_head?_trim h) (fun _ h => of_mem_getLast?_trim h)

/-- what is trimmed are spaces -/
theorem Text.exists_eq_spaces_append_trim (t : Text) :
    ∃ before behind, t = List.replicate before ' ' ++ trim (· == ' ') t ++ List.replicate behind ' ' := by
  have hspaces : ∀ u : Text, (∀ c ∈ u, (c == ' ') = true) → List.replicate u.length ' ' = u :=
    fun u hu => (List.eq_replicate_of_mem fun c hc => beq_iff_eq.1 (hu c hc)).symm
  refine ⟨(t.takeWhile (· == ' ')).length, (trimmedTail (· == ' ') t).length, ?_⟩
  rw [hspaces (t.takeWhile _) fun _ => List.mem_takeWhile_imp, hspaces (trimmedTail _ t) fun _ => of_mem_trimmedTail,
    append_trimmedTail]

namespace Value

variable {raw : Text}

theorem ofText_eq_number_iff {n : Int64} : ofText raw = number n ↔ Numeral (raw.trim (· == ' ')) n.toInt := by
  rw [← Text.Decimal.read?_eq_some_iff, ofText]
  cases Text.Decimal.read? (raw.trim (· == ' ')) with
  | none => simp
  | some m => simp

theorem ofText_eq_text_iff {t : Text} :
    ofText raw = text t ↔ raw.trim (· == ' ') = t ∧ ¬∃ n, Numeral (raw.trim (· == ' ')) n ∧ Within64 n := by
  rw [← Text.Decimal.read?_eq_none_iff, ofText]
  cases Text.Decimal.read? (raw.trim (· == ' ')) with
  | none => simp
  | some m => simp

/-- no digit and no sign is a space, so nothing is trimmed from a number that is written down -/
theorem trim_ofInt64 (n : Int64) : (Text.Decimal.ofInt64 n).trim (· == ' ') = Text.Decimal.ofInt64 n := by
  have hspace : ∀ c ∈ Text.Decimal.ofInt64 n, (c == ' ') = false := by
    intro c hc
    rw [beq_eq_false_iff_ne]
    rintro rfl
    exact absurd (Text.Decimal.isBlank_of_mem_ofInt64 hc) (by decide)
  exact Text.trim_eq_self (fun c hc => hspace c (List.mem_of_mem_head? hc))
    (fun c hc => hspace c (List.mem_of_mem_getLast? hc))

/-- **A value that is written down is read as itself.** -/
theorem ofText_source_ofText (raw : Text) : ofText (ofText raw).source = ofText raw := by
  cases h : ofText raw with
  | number n => simp only [source, ofText, trim_ofInt64, Text.Decimal.read?_ofInt64]
  | text t =>
    obtain ⟨rfl, hno⟩ := ofText_eq_text_iff.1 h
    exact ofText_eq_text_iff.2 (by rw [source, Text.trim_trim]; exact ⟨rfl, hno⟩)

/-- **A text is a number exactly if it is the numeral of a signed 64-bit integer**, apart from spaces around it. What is
left without these spaces is read as the integer that it denotes, if it denotes one in the range, and stays as it is
otherwise, however long it is; and either value is read again from its written form. -/
theorem recognises_integers (raw : Text) :
    ∃ (before behind : Nat) (t : Text),
      raw = List.replicate before ' ' ++ t ++ List.replicate behind ' ' ∧ t.head? ≠ some ' ' ∧ t.getLast? ≠ some ' ' ∧
      (∀ n : Int, (∃ m : Int64, ofText raw = number m ∧ m.toInt = n) ↔
        Numeral t n ∧ -0x8000000000000000 ≤ n ∧ n ≤ 0x7fffffffffffffff) ∧
      (∀ s : Text, ofText raw = text s ↔
        s = t ∧ ¬∃ n : Int, Numeral t n ∧ -0x8000000000000000 ≤ n ∧ n ≤ 0x7fffffffffffffff) ∧
      ofText (ofText raw).source = ofText raw := by
  obtain ⟨before, behind, hraw⟩ := Text.exists_eq_spaces_append_trim raw
  refine ⟨before, behind, raw.trim (· == ' '), hraw, ?_, ?_, ?_, ?_, ofText_source_ofText raw⟩
  · intro hhead
    exact absurd (Text.of_mem_head?_trim hhead) (by decide)
  · intro hlast
    exact absurd (Text.of_mem_getLast?_trim hlast) (by decide)
  · intro n
    refine ⟨?_, ?_⟩
    · rintro ⟨m, hm, rfl⟩
      exact ⟨ofText_eq_number_iff.1 hm, within64_toInt m⟩
    · rintro ⟨hn, hrange⟩
      have hvalue : (Int64.ofInt n).toInt = n := toInt_ofInt_of_within64 hrange
      exact ⟨Int64.ofInt n, ofText_eq_number_iff.2 (by rwa [hvalue]), hvalue⟩
  · intro s
    rw [ofText_eq_text_iff, eq_comm]
    rfl

example : ofText " +007 ".toList = number 7 := by decide

example : ofText " -9223372036854775809".toList = text "-9223372036854775809".toList := by decide

end Value

end VarDecl
