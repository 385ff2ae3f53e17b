/-
Decimal notation: how a number is written, what is accepted as a number, and that a number which is written down is read
back.

The reader gives up as soon as the digits pass its limit. Since further digits never make a number smaller, that is the
same as reading all digits and looking at the limit afterwards (`extend?_eq_some_iff`, `magnitude?_eq_some_iff`).

Results:
- `ofInt64_eq_toString`: a signed 64-bit integer is written as the core library shows it.
- `read?_ofInt64`: the notation of a signed 64-bit integer is read as this integer.
- `of_mem_ofInt64`, `isBlank_of_mem_ofInt64`: it consists of digits and perhaps a minus sign, and no character of it is
  blank.
-/
import VarDecl.Text.Blank
import VarDecl.Text.Decimal

namespace VarDecl

namespace Text.Decimal

/-! ## The notation of the core library -/

theorem digit?_of_isDigit {c : Char} (h : c.isDigit = true) : digit? c = some (c.toNat - '0'.toNat) := if_pos h

theorem digit?_of_not_isDigit {c : Char} (h : c.isDigit = false) : digit? c = none :=
  if_neg (by rw [h]; exact Bool.false_ne_true)

/-- further digits never make a number smaller -/
theorem le_ofDigitChars (n : Nat) (t : Text) : n ≤ Nat.ofDigitChars 10 t n := by
  rw [Nat.ofDigitChars_eq_ofDigitChars_zero]
  have hpow : 1 * n ≤ 10 ^ t.length * n := Nat.mul_le_mul_right n (Nat.one_le_pow _ _ (by decide))
  omega

theorem extend?_eq_some_iff {limit n m : Nat} {t : Text} :
    extend? limit n t = some m ↔
      (∀ c ∈ t, c.isDigit = true) ∧ Nat.ofDigitChars 10 t n = m ∧ (t ≠ [] → m ≤ limit) := by
  induction t generalizing n with
  | nil => simp [extend?]
  | cons c t ih =>
    simp only [extend?, Nat.ofDigitChars_cons]
    cases hc : c.isDigit with
    | false => simp [digit?_of_not_isDigit hc, hc]
    | true =>
      simp only [digit?_of_isDigit hc]
      have hle := le_ofDigitChars (10 * n + (c.toNat - '0'.toNat)) t
      split
      · rename_i hlimit
        rw [ih]
        refine ⟨?_, ?_⟩
        · intro hall
          obtain ⟨hdigits, hvalue, hbound⟩ := hall
          refine ⟨by simpa [hc] using hdigits, hvalue, fun _ => ?_⟩
          cases t with
          | nil => rwa [← hvalue]
          | cons d t => exact hbound (by simp)
        · intro hall
          obtain ⟨hdigits, hvalue, hbound⟩ := hall
          exact ⟨fun d hd => hdigits d (List.mem_cons_of_mem c hd), hvalue, fun _ => hbound (by simp)⟩
      · rename_i hlimit
        refine ⟨?_, ?_⟩
        · intro h
          cases h
        · intro hall
          obtain ⟨-, hvalue, hbound⟩ := hall
          have hm := hbound (by simp)
          omega

theorem magnitude?_eq_some_iff {limit n : Nat} {t : Text} :
    magnitude? limit t = some n ↔
      t ≠ [] ∧ (∀ c ∈ t, c.isDigit = true) ∧ Nat.ofDigitChars 10 t 0 = n ∧ n ≤ limit := by
  cases t with
  | nil => simp [magnitude?]
  | cons c t =>
    rw [magnitude?, extend?_eq_some_iff]
    simp

/-! ## Written numbers -/

theorem isDigit_of_mem_ofNat {n : Nat} {c : Char} (h : c ∈ ofNat n) : c.isDigit = true :=
  Nat.isDigit_of_mem_toDigits (by decide) (by decide) h

theorem magnitude?_ofNat {limit n : Nat} (h : n ≤ limit) : magnitude? limit (ofNat n) = some n :=
  magnitude?_eq_some_iff.2
    ⟨Nat.toDigits_ne_nil, fun _ hc => isDigit_of_mem_ofNat hc, Nat.ofDigitChars_ten_toDigits, h⟩

/-- without a sign in front, the digits are read as they stand -/
theorem read?_of_head {t : Text} (hminus : t.head? ≠ some '-') (hplus : t.head? ≠ some '+') :
    read? t = (magnitude? positiveLimit t).map fun n : Nat => Int64.ofInt n := by
  unfold read?
  split
  · exact absurd rfl hminus
  · exact absurd rfl hplus
  · rfl

theorem isDigit_of_mem_head?_ofNat {n : Nat} {c : Char} (h : (ofNat n).head? = some c) : c.isDigit = true :=
  isDigit_of_mem_ofNat (List.mem_of_mem_head? h)

/-- **A signed 64-bit integer that is written down is read back.** -/
theorem read?_ofInt64 (n : Int64) : read? (ofInt64 n) = some n := by
  have hlow := n.le_toInt
  have hhigh := n.toInt_lt
  unfold ofInt64 ofInt
  split
  · rename_i hneg
    have hmagnitude : magnitude? negativeLimit (ofNat n.toInt.natAbs) = some n.toInt.natAbs :=
      magnitude?_ofNat (by unfold negativeLimit; omega)
    have hvalue : -(n.toInt.natAbs : Int) = n.toInt := by omega
    simp only [read?, hmagnitude, Option.map_some, hvalue, Int64.ofInt_toInt]
  · rename_i hnonneg
    have hmagnitude : magnitude? positiveLimit (ofNat n.toInt.natAbs) = some n.toInt.natAbs :=
      magnitude?_ofNat (by unfold positiveLimit; omega)
    have hvalue : (n.toInt.natAbs : Int) = n.toInt := by omega
    rw [read?_of_head (fun h => absurd (isDigit_of_mem_head?_ofNat h) (by decide))
      (fun h => absurd (isDigit_of_mem_head?_ofNat h) (by decide)), hmagnitude]
    simp only [Option.map_some, hvalue, Int64.ofInt_toInt]

/-! ## The characters of a written number -/

theorem of_mem_ofInt64 {n : Int64} {c : Char} (h : c ∈ ofInt64 n) : c = '-' ∨ c.isDigit = true := by
  unfold ofInt64 ofInt at h
  split at h
  · rcases List.mem_cons.1 h with rfl | hc
    · exact .inl rfl
    · exact .inr (isDigit_of_mem_ofNat hc)
  · exact .inr (isDigit_of_mem_ofNat h)

theorem isBlank_of_isDigit {c : Char} (h : c.isDigit = true) : isBlank c = false := by
  obtain ⟨hlow, hhigh⟩ := Char.isDigit_iff_toNat.1 h
  have hzero : '0'.toNat = 0x30 := rfl
  have hnine : '9'.toNat = 0x39 := rfl
  rw [Bool.eq_false_iff]
  intro hblank
  simp only [isBlank, liesIn, blankRanges, List.any_cons, List.any_nil, Bool.or_eq_true, Bool.and_eq_true,
    decide_eq_true_eq, Bool.false_eq_true, or_false] at hblank
  omega

theorem isBlank_of_mem_ofInt64 {n : Int64} {c : Char} (h : c ∈ ofInt64 n) : isBlank c = false := by
  rcases of_mem_ofInt64 h with rfl | hc
  · decide
  · exact isBlank_of_isDigit hc

end Text.Decimal

end VarDecl
