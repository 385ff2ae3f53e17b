/-
Texts as lists of characters, and the measures and cuts that reading a declaration needs.

- `byteLength`: the size in UTF-8, the unit of every offset. It is additive (`byteLength_append`). A text that can be held
  in memory has less than 2^63 bytes (`Fits`).
- `cutAt?`: the text before and after the first occurrence of a character. `cutAt?_eq_some_iff` and
  `cutAt?_eq_none_iff` say exactly which cut is made, and that there is one whenever the character occurs.
- `trim`: drops the characters of a class at both ends, and only there. A text is what was dropped in front, the
  result and what was dropped behind (`exists_append_trim`), and the result is the only text between two such parts that
  neither starts nor ends in the class (`trim_eq_of_append`).
-/

namespace VarDecl

/-- a text: its characters, in order -/
abbrev Text := List Char

namespace Text

/-! ## Size -/

/-- the number of bytes of a text in UTF-8 -/
def byteLength (t : Text) : Nat := t.foldr (fun c n => c.utf8Size + n) 0

@[simp] theorem byteLength_nil : byteLength [] = 0 := rfl

@[simp] theorem byteLength_cons (c : Char) (t : Text) : byteLength (c :: t) = c.utf8Size + byteLength t := rfl

@[simp] theorem byteLength_append (s t : Text) : byteLength (s ++ t) = byteLength s + byteLength t := by
  induction s with
  | nil => simp
  | cons c s ih => simp [ih, Nat.add_assoc]

/-- the greatest size of a text, 2^63 - 1 -/
def maxBytes : Nat := 0x7fffffffffffffff

/-- whether a text is small enough to be held in memory -/
def Fits (t : Text) : Prop := t.byteLength ≤ maxBytes

instance (t : Text) : Decidable t.Fits := inferInstanceAs (Decidable (_ ≤ _))

/-! ## Cutting at a character -/

/-- the text before and after the first `sep`, or `none` if there is no `sep` -/
def cutAt? (sep : Char) (t : Text) : Option (Text × Text) :=
  match t.dropWhile (· != sep) with
  | [] => none
  | _ :: after => some (t.takeWhile (· != sep), after)

@[simp] theorem cutAt?_nil (sep : Char) : cutAt? sep [] = none := rfl

/-- a cut is made at the head or in the tail -/
theorem cutAt?_cons (sep c : Char) (t : Text) :
    cutAt? sep (c :: t) = if c = sep then some ([], t) else (cutAt? sep t).map fun p => (c :: p.1, p.2) := by
  by_cases h : c = sep
  · simp [cutAt?, h]
  · simp only [cutAt?, List.dropWhile_cons, List.takeWhile_cons, bne_iff_ne, ne_eq, h, not_false_eq_true, ↓reduceIte]
    split <;> simp_all

theorem cutAt?_eq_some_iff {sep : Char} {t before after : Text} :
    cutAt? sep t = some (before, after) ↔ t = before ++ sep :: after ∧ sep ∉ before := by
  induction t generalizing before with
  | nil => simp
  | cons c t ih =>
    rw [cutAt?_cons]
    by_cases h : c = sep
    · subst h
      cases before with
      | nil => simp
      | cons b before => simp +contextual [eq_comm]
    · cases before with
      | nil => simp [h]
      | cons b before =>
        simp only [h, ↓reduceIte, Option.map_eq_some_iff, Prod.mk.injEq, List.cons.injEq, Prod.exists, List.cons_append,
          List.mem_cons, not_or]
        constructor
        · rintro ⟨l, r, hlr, ⟨rfl, rfl⟩, rfl⟩
          exact ⟨⟨rfl, (ih.1 hlr).1⟩, Ne.symm h, (ih.1 hlr).2⟩
        · rintro ⟨⟨rfl, ht⟩, -, hb⟩
          exact ⟨before, after, ih.2 ⟨ht, hb⟩, ⟨rfl, rfl⟩, rfl⟩

theorem cutAt?_eq_none_iff {sep : Char} {t : Text} : cutAt? sep t = none ↔ sep ∉ t := by
  induction t with
  | nil => simp
  | cons c t ih =>
    rw [cutAt?_cons]
    by_cases h : c = sep
    · simp [h]
    · simp [h, ih, Ne.symm h]

theorem byteLength_of_cutAt? {sep : Char} {t before after : Text} (h : cutAt? sep t = some (before, after)) :
    t.byteLength = before.byteLength + (sep.utf8Size + after.byteLength) := by
  rw [(cutAt?_eq_some_iff.1 h).1, byteLength_append, byteLength_cons]

/-! ## Trimming -/

/-- drops the characters of the class at the end -/
def trimEnd (p : Char → Bool) (t : Text) : Text := (t.reverse.dropWhile p).reverse

/-- drops the characters of the class at both ends -/
def trim (p : Char → Bool) (t : Text) : Text := trimEnd p (t.dropWhile p)

theorem of_mem_head?_dropWhile {p : Char → Bool} {t : Text} {c : Char} (h : c ∈ (t.dropWhile p).head?) :
    p c = false := by
  have hd := List.head?_dropWhile_not p t
  rw [Option.mem_def.1 h] at hd
  exact hd

theorem takeWhile_eq_of_append {p : Char → Bool} {a m : Text} (ha : ∀ c ∈ a, p c = true)
    (hm : ∀ c ∈ m.head?, p c = false) : (a ++ m).takeWhile p = a := by
  rw [List.takeWhile_append_of_pos ha]
  cases m with
  | nil => simp
  | cons c m => simp [hm c (by simp)]

/-- what is dropped at the end stood behind what is left -/
theorem exists_append_trimEnd (p : Char → Bool) (t : Text) :
    ∃ b, t = trimEnd p t ++ b ∧ ∀ c ∈ b, p c = true := by
  have hdropped : ∀ c ∈ t.reverse.takeWhile p, p c = true := List.all_eq_true.1 List.all_takeWhile
  refine ⟨(t.reverse.takeWhile p).reverse, ?_, fun c hc => hdropped c (List.mem_reverse.1 hc)⟩
  rw [trimEnd, ← List.reverse_append, List.takeWhile_append_dropWhile, List.reverse_reverse]

theorem of_mem_getLast?_trimEnd {p : Char → Bool} {t : Text} {c : Char} (h : c ∈ (trimEnd p t).getLast?) :
    p c = false := by
  rw [trimEnd, ← List.head?_reverse, List.reverse_reverse] at h
  exact of_mem_head?_dropWhile h

theorem trimEnd_eq_of_append {p : Char → Bool} {m b : Text} (hm : ∀ c ∈ m.getLast?, p c = false)
    (hb : ∀ c ∈ b, p c = true) : trimEnd p (m ++ b) = m := by
  rw [trimEnd, List.reverse_append, List.dropWhile_append_of_pos (by simpa using hb)]
  rw [← List.head?_reverse] at hm
  cases hr : m.reverse with
  | nil => simpa using hr
  | cons c r =>
    have hc : ¬p c = true := by simp [hm c (by simp [hr])]
    rw [List.dropWhile_cons_of_neg hc, ← hr, List.reverse_reverse]

/-- a text is what trimming drops in front, what it leaves, and what it drops behind -/
theorem exists_append_trim (p : Char → Bool) (t : Text) :
    ∃ b, t = t.takeWhile p ++ trim p t ++ b ∧ ∀ c ∈ b, p c = true := by
  obtain ⟨b, hb, hp⟩ := exists_append_trimEnd p (t.dropWhile p)
  refine ⟨b, ?_, hp⟩
  rw [List.append_assoc, trim, ← hb, List.takeWhile_append_dropWhile]

/-- what trimming drops behind -/
def trimmedTail (p : Char → Bool) (t : Text) : Text := t.drop ((t.takeWhile p).length + (trim p t).length)

theorem trimmedTail_eq {p : Char → Bool} {t b : Text} (h : t = t.takeWhile p ++ trim p t ++ b) :
    trimmedTail p t = b := by
  have hdrop : (t.takeWhile p ++ trim p t ++ b).drop (t.takeWhile p ++ trim p t).length = b := List.drop_left
  rwa [← h, List.length_append] at hdrop

theorem append_trimmedTail (p : Char → Bool) (t : Text) : t.takeWhile p ++ trim p t ++ trimmedTail p t = t := by
  obtain ⟨b, hb, -⟩ := exists_append_trim p t
  rw [trimmedTail_eq hb, ← hb]

theorem of_mem_trimmedTail {p : Char → Bool} {t : Text} {c : Char} (h : c ∈ trimmedTail p t) : p c = true := by
  obtain ⟨b, hb, hp⟩ := exists_append_trim p t
  rw [trimmedTail_eq hb] at h
  exact hp c h

theorem of_mem_head?_trim {p : Char → Bool} {t : Text} {c : Char} (h : c ∈ (trim p t).head?) : p c = false := by
  obtain ⟨b, hb, -⟩ := exists_append_trimEnd p (t.dropWhile p)
  apply of_mem_head?_dropWhile (t := t)
  rw [hb, Option.mem_def, List.head?_append, ← trim, Option.mem_def.1 h]
  rfl

theorem of_mem_getLast?_trim {p : Char → Bool} {t : Text} {c : Char} (h : c ∈ (trim p t).getLast?) : p c = false :=
  of_mem_getLast?_trimEnd h

theorem trim_eq_of_append {p : Char → Bool} {a m b : Text} (ha : ∀ c ∈ a, p c = true)
    (hh : ∀ c ∈ m.head?, p c = false) (hl : ∀ c ∈ m.getLast?, p c = false) (hb : ∀ c ∈ b, p c = true) :
    trim p (a ++ m ++ b) = m := by
  rw [trim, List.append_assoc, List.dropWhile_append_of_pos ha]
  cases m with
  | nil => exact trimEnd_eq_of_append hl fun c hc => hb c ((List.dropWhile_suffix p).subset hc)
  | cons c m =>
    have hc : ¬p c = true := by simp [hh c (by simp)]
    rw [List.cons_append, List.dropWhile_cons_of_neg hc, ← List.cons_append]
    exact trimEnd_eq_of_append hl hb

end Text

end VarDecl
