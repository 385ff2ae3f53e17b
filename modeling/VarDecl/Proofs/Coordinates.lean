/-
Lines and columns as coordinates of a source.

An offset stands for the last boundary of the source up to it (`SourceLine.IsPlace`), and the line and the column that are
given for the offset are the coordinates of that boundary: the lines before, each with its line feed, and the characters
before the column have as many bytes (`SourceLine.Locates`). Coordinates grow with the boundary that they locate, so no two
boundaries share them.

A source in front of a place is whole lines and the beginning of one more (`Text.exists_ended`); everything else about
lines is read off this.

Results:
- `SourceLine.locates_ofOffset`: the line and column of an offset are the coordinates of its place.
- `SourceLine.Locates.place_lt_place`: coordinates further on locate a place further on.
- `SourceLine.bytewise_eq`: the line worked out on byte offsets is the same, and none of the parts that it is made of is
  missing.
- `SourceLine.coordinates_exact`: all of this for every source.
-/
import Mathlib.Data.Prod.Lex
import Mathlib.Order.Bounds.Basic
import VarDecl.Bytewise
import VarDecl.Proofs.Separators
import VarDecl.Proofs.SourceLine

namespace VarDecl

/-! ## The beginning of a line -/

/-- behind the last line feed, a line begins -/
theorem Text.lastOf?_ended_append (ls : List Text) {lead : Text} (hlead : '\n' ∉ lead) :
    ((ended '\n' ls ++ lead).lastOf? '\n').elim 0 (· + 1) = (ended '\n' ls).byteLength := by
  have hreverse : '\n' ∉ lead.reverse := by simpa using hlead
  rcases eq_or_ne ls [] with rfl | hne
  · have hcut : cutAt? '\n' lead.reverse = none := cutAt?_eq_none_iff.2 hreverse
    rw [ended_nil, List.nil_append, lastOf?, hcut]
    rfl
  · rw [ended_eq hne]
    generalize ['\n'].intercalate ls = t
    have hcut : cutAt? '\n' (t ++ ['\n'] ++ lead).reverse = some (lead.reverse, t.reverse) :=
      cutAt?_eq_some_iff.2 ⟨by simp, hreverse⟩
    rw [lastOf?, hcut, Option.map_some, Option.elim_some, byteLength_reverse, byteLength_append]
    rfl

/-! ## Boundaries -/

/-- going back from an offset byte by byte, the first boundary is the last up to it -/
theorem Text.boundaryUpTo?_eq_some {t : Text} {n place : Nat}
    (h : IsGreatest {m | t.isBoundary m = true ∧ m ≤ n} place) : t.boundaryUpTo? n = some place := by
  obtain ⟨⟨hplace, hle⟩, hgreatest⟩ := h
  induction n with
  | zero =>
    obtain rfl : place = 0 := Nat.le_zero.1 hle
    exact if_pos hplace
  | succ n ih =>
    by_cases hn : t.isBoundary (n + 1) = true
    · have hmax : n + 1 ≤ place := hgreatest ⟨hn, Nat.le_refl _⟩
      obtain rfl : place = n + 1 := Nat.le_antisymm hle hmax
      exact if_pos hn
    · have hne : place ≠ n + 1 := fun heq => hn (heq ▸ hplace)
      rw [boundaryUpTo?, if_neg hn]
      exact ih (fun m hm => hgreatest ⟨hm.1, Nat.le_succ_of_le hm.2⟩) (by omega)

namespace SourceLine

/-! ## The line around a place -/

theorem staysOnLine_of_notMem {t : Text} (h : '\n' ∉ t) : ∀ c ∈ t, staysOnLine c = true := by
  intro c hc
  refine bne_iff_ne.2 ?_
  rintro rfl
  exact h hc

/-- what follows on the line of a place, and what is left of the source behind that line -/
theorem exists_rest (after : Text) :
    ∃ rest, after = after.takeWhile staysOnLine ++ rest ∧ (rest = [] ∨ ∃ r, rest = '\n' :: r) := by
  refine ⟨after.dropWhile staysOnLine, List.takeWhile_append_dropWhile.symm, ?_⟩
  cases hrest : after.dropWhile staysOnLine with
  | nil => exact .inl rfl
  | cons c r =>
    have hc : staysOnLine c = false := Text.of_mem_head?_dropWhile (t := after) (by rw [hrest]; rfl)
    exact .inr ⟨r, by rw [bne_eq_false_iff_eq.1 hc]⟩

theorem lineFeed_notMem_line {lead : Text} (hlead : '\n' ∉ lead) (after : Text) :
    '\n' ∉ lead ++ after.takeWhile staysOnLine := by
  intro hmem
  rcases List.mem_append.1 hmem with hmem | hmem
  · exact hlead hmem
  · exact absurd (List.mem_takeWhile_imp hmem) (by decide)

/-- behind ended lines, the beginning of a line makes the column -/
theorem between_ended {ls : List Text} {lead : Text} (hls : ∀ l ∈ ls, '\n' ∉ l) (hlead : '\n' ∉ lead) (after : Text) :
    between (Text.ended '\n' ls ++ lead) after = ⟨ls.length + 1, lead ++ after.takeWhile staysOnLine, lead.length⟩ := by
  have hstays : ∀ c ∈ lead.reverse, staysOnLine c = true := fun c hc =>
    staysOnLine_of_notMem hlead c (List.mem_reverse.1 hc)
  have hends : ∀ c ∈ (Text.ended '\n' ls).reverse.head?, staysOnLine c = false := by
    rcases eq_or_ne ls [] with rfl | hne
    · simp
    · intro c hc
      obtain rfl : '\n' = c := by simpa [Text.ended_eq hne] using hc
      decide
  have hlast : ((Text.ended '\n' ls ++ lead).reverse.takeWhile staysOnLine).reverse = lead := by
    rw [List.reverse_append, Text.takeWhile_eq_of_append hstays hends, List.reverse_reverse]
  simp only [between, hlast, Text.count_ended_append hls hlead]

/-! ## Coordinates -/

/-- a line of a source, a column in it, and the offset of the column -/
structure Locates (line : SourceLine) (source : Text) (place : Nat) : Prop where
  number_pos : 1 ≤ line.number
  number_le : line.number ≤ (source.splitOn '\n').length
  text : (source.splitOn '\n')[line.number - 1]? = some line.text
  column_le : line.column ≤ line.text.length
  place_eq : place =
    (Text.ended '\n' ((source.splitOn '\n').take (line.number - 1))).byteLength +
      Text.byteLength (line.text.take line.column)

/-- the line around a place has the coordinates of the place -/
theorem locates_between (before after : Text) : (between before after).Locates (before ++ after) before.byteLength := by
  obtain ⟨ls, lead, rfl, hls, hlead⟩ := Text.exists_ended '\n' before
  obtain ⟨ms, hms⟩ : ∃ ms, (lead ++ after).splitOn '\n' = (lead ++ after.takeWhile staysOnLine) :: ms := by
    have hline := lineFeed_notMem_line hlead after
    obtain ⟨rest, hrest, hend⟩ := exists_rest after
    have hparts : lead ++ after = lead ++ after.takeWhile staysOnLine ++ rest := by rw [List.append_assoc, ← hrest]
    rw [hparts]
    rcases hend with rfl | ⟨r, rfl⟩
    · rw [List.append_nil, List.splitOn_eq_singleton hline]
      exact ⟨[], rfl⟩
    · rw [List.splitOn_append_cons_self_of_not_mem hline]
      exact ⟨_, rfl⟩
  have hlines : (Text.ended '\n' ls ++ lead ++ after).splitOn '\n' =
      ls ++ (lead ++ after.takeWhile staysOnLine) :: ms := by
    rw [List.append_assoc, Text.splitOn_ended_append hls, hms]
  rw [between_ended hls hlead]
  refine ⟨Nat.le_add_left 1 _, ?_, ?_, ?_, ?_⟩
  · rw [hlines]
    simp
  · rw [hlines]
    simp
  · simp
  · rw [hlines]
    simp

namespace Locates

variable {source : Text} {x y : SourceLine} {p q : Nat}

/-- the coordinates determine the place -/
theorem place_eq_place (hx : x.Locates source p) (hy : y.Locates source q) (hnumber : x.number = y.number)
    (hcolumn : x.column = y.column) : p = q := by
  have htext := hy.text
  rw [← hnumber, hx.text] at htext
  rw [hx.place_eq, hy.place_eq, hnumber, hcolumn, Option.some.inj htext]

/-- **Coordinates further on locate a place further on.** -/
theorem place_lt_place (hx : x.Locates source p) (hy : y.Locates source q)
    (h : toLex (x.number, x.column) < toLex (y.number, y.column)) : p < q := by
  rw [hx.place_eq, hy.place_eq]
  rcases Prod.Lex.toLex_lt_toLex.1 h with hnumber | ⟨hnumber, hcolumn⟩
  · -- the line of `x` and its line feed lie before the line of `y`
    have hfeed := ('\n' : Char).utf8Size_pos
    have hline := congrArg Text.byteLength (Text.ended_take_succ '\n' hx.text)
    rw [Text.byteLength_append, Text.byteLength_append, Text.byteLength_cons] at hline
    have hnext : x.number - 1 + 1 ≤ y.number - 1 := by
      have hpos := hx.number_pos
      simp only at hnumber
      omega
    have hbefore := Text.byteLength_ended_take_le '\n' (source.splitOn '\n') hnext
    have hcolumn := Text.byteLength_take_le x.text x.column
    omega
  · simp only at hnumber hcolumn
    have htext : x.text = y.text := by
      have hy := hy.text
      rw [← hnumber, hx.text] at hy
      exact Option.some.inj hy
    rw [hnumber, htext]
    exact Nat.add_lt_add_left (Text.byteLength_take_lt hcolumn hy.column_le) _

/-- so coordinates are in the order of the places that they locate -/
theorem lt_of_place_lt (hx : x.Locates source p) (hy : y.Locates source q) (h : p < q) :
    toLex (x.number, x.column) < toLex (y.number, y.column) := by
  rcases lt_trichotomy (toLex (x.number, x.column)) (toLex (y.number, y.column)) with hlt | heq | hgt
  · exact hlt
  · have hxy : p = q := place_eq_place hx hy (congrArg (fun c => (ofLex c).1) heq) (congrArg (fun c => (ofLex c).2) heq)
    omega
  · have hqp := hy.place_lt_place hx hgt
    omega

end Locates

/-! ## The place of an offset -/

/-- the last boundary of a source up to an offset and up to the end of the source -/
def IsPlace (source : Text) (offset place : Nat) : Prop :=
  IsGreatest {n | source.isBoundary n = true ∧ n ≤ min offset source.byteLength} place

/-- the source can be cut where the offset reaches, and the next character does not fit any more -/
theorem exists_cut (source : Text) (offset : Nat) :
    ∃ before after, source = before ++ after ∧ before.byteLength ≤ offset ∧
      ∀ c ∈ after.head?, offset < before.byteLength + c.utf8Size := by
  induction source generalizing offset with
  | nil => exact ⟨[], [], rfl, Nat.zero_le offset, by simp⟩
  | cons c source ih =>
    by_cases hfits : c.utf8Size ≤ offset
    · obtain ⟨before, after, hsource, hle, hnext⟩ := ih (offset - c.utf8Size)
      refine ⟨c :: before, after, by rw [hsource, List.cons_append], ?_, fun d hd => ?_⟩
      · rw [Text.byteLength_cons]
        omega
      · have hd := hnext d hd
        rw [Text.byteLength_cons]
        omega
    · refine ⟨[], c :: source, rfl, Nat.zero_le offset, fun d hd => ?_⟩
      obtain rfl : c = d := by simpa using hd
      rw [Text.byteLength_nil]
      omega

section Cut

variable {before after : Text} {offset : Nat} (hle : before.byteLength ≤ offset)
  (hnext : ∀ c ∈ after.head?, offset < before.byteLength + c.utf8Size)
include hle hnext

theorem isPlace_of_cut : IsPlace (before ++ after) offset before.byteLength := by
  refine ⟨⟨Text.isBoundary_iff.2 ⟨before, after, rfl, rfl⟩, ?_⟩, ?_⟩
  · rw [Text.byteLength_append]
    omega
  · rintro n ⟨hn, hmin⟩
    obtain ⟨front, behind, hparts, rfl⟩ := Text.isBoundary_iff.1 hn
    rcases List.append_eq_append_iff.1 hparts with ⟨x, rfl, hx⟩ | ⟨x, rfl, -⟩
    · -- a cut further on takes the next character along
      cases x with
      | nil => simp
      | cons c x =>
        have hc := hnext c (by rw [hx]; rfl)
        simp only [Text.byteLength_append, Text.byteLength_cons] at hmin ⊢
        omega
    · rw [Text.byteLength_append]
      omega

/-- **The line and column of an offset are the coordinates of its place.** -/
theorem locates_ofOffset_cut : (ofOffset (before ++ after) offset).Locates (before ++ after) before.byteLength := by
  rw [ofOffset_eq_between hle hnext]
  exact locates_between before after

end Cut

theorem locates_ofOffset {source : Text} {offset place : Nat} (h : IsPlace source offset place) :
    (ofOffset source offset).Locates source place := by
  obtain ⟨before, after, rfl, hle, hnext⟩ := exists_cut source offset
  obtain rfl : place = before.byteLength := h.unique (isPlace_of_cut hle hnext)
  exact locates_ofOffset_cut hle hnext

/-! ## Lines by byte offsets -/

/-- the line that was begun ends at the first line feed behind it, or with the source -/
theorem firstOf?_lead {lead : Text} (hlead : '\n' ∉ lead) (front after : Text) :
    ((lead ++ after).firstOf? '\n').elim (front ++ lead ++ after).byteLength (front.byteLength + ·) =
      front.byteLength + Text.byteLength (lead ++ after.takeWhile staysOnLine) := by
  have hline := lineFeed_notMem_line hlead after
  obtain ⟨rest, hrest, hend⟩ := exists_rest after
  generalize after.takeWhile staysOnLine = tail at hline hrest ⊢
  subst hrest
  rcases hend with rfl | ⟨r, rfl⟩
  · have hcut : Text.cutAt? '\n' (lead ++ (tail ++ [])) = none := Text.cutAt?_eq_none_iff.2 (by simpa using hline)
    rw [Text.firstOf?, hcut]
    simp
  · have hcut : Text.cutAt? '\n' (lead ++ (tail ++ '\n' :: r)) = some (lead ++ tail, r) :=
      Text.cutAt?_eq_some_iff.2 ⟨by simp, hline⟩
    rw [Text.firstOf?, hcut]
    rfl

/-- **The line worked out on byte offsets is the line of the offset**, and no part of the source is missing on the way. -/
theorem bytewise_eq (source : Text) (offset : Nat) : bytewise source offset = some (ofOffset source offset) := by
  obtain ⟨before, after, rfl, hle, hnext⟩ := exists_cut source offset
  have hplace := Text.boundaryUpTo?_eq_some (isPlace_of_cut hle hnext)
  have hbefore := Text.slice?_left before after
  rw [ofOffset_eq_between hle hnext]
  obtain ⟨ls, lead, rfl, hls, hlead⟩ := Text.exists_ended '\n' before
  have hstart := Text.lastOf?_ended_append ls hlead
  have hrest : Text.slice? (Text.ended '\n' ls ++ lead ++ after) (Text.ended '\n' ls).byteLength
      (Text.ended '\n' ls ++ lead ++ after).byteLength = some (lead ++ after) := by
    have hslice := Text.slice?_right (Text.ended '\n' ls) (lead ++ after)
    rwa [← List.append_assoc] at hslice
  have hstop := firstOf?_lead hlead (Text.ended '\n' ls) after
  have htext : Text.slice? (Text.ended '\n' ls ++ lead ++ after) (Text.ended '\n' ls).byteLength
      ((Text.ended '\n' ls).byteLength + Text.byteLength (lead ++ after.takeWhile staysOnLine)) =
        some (lead ++ after.takeWhile staysOnLine) := by
    have hslice := Text.slice?_append (Text.ended '\n' ls) (lead ++ after.takeWhile staysOnLine) (after.dropWhile staysOnLine)
    simpa only [Text.byteLength_append, List.append_assoc, List.takeWhile_append_dropWhile] using hslice
  have hcolumn := Text.slice?_append (Text.ended '\n' ls) lead after
  rw [between_ended hls hlead]
  simp only [bytewise, hplace, hbefore, hstart, hrest, hstop, htext, hcolumn, Text.count_ended_append hls hlead,
    Option.bind_eq_bind, Option.bind_some]
  rfl

/-! ## All offsets of a source -/

theorem exists_isPlace (source : Text) (offset : Nat) : ∃ place, IsPlace source offset place := by
  obtain ⟨before, after, rfl, hle, hnext⟩ := exists_cut source offset
  exact ⟨_, isPlace_of_cut hle hnext⟩

theorem IsPlace.mono {source : Text} {offset offset' place place' : Nat} (h : IsPlace source offset place)
    (h' : IsPlace source offset' place') (hle : offset ≤ offset') : place ≤ place' := by
  refine IsGreatest.mono h h' ?_
  rintro n ⟨hn, hmin⟩
  exact ⟨hn, by omega⟩

/-- **Line and column are exact coordinates of a source.** Every offset stands for the last boundary up to it and up to the
end of the source. Its line can be worked out on byte offsets without any part of the source missing; it is the line of
that number, its column is one of the line or just past it, and the lines before, each with its line feed, and the
characters before the column have as many bytes as the boundary tells. So line and column determine the boundary; a later
offset never has an earlier line and column, and it has a later line and column if it stands for a later boundary. -/
theorem coordinates_exact (source : Text) :
    (∀ offset, ∃ place, IsPlace source offset place ∧ bytewise source offset = some (ofOffset source offset) ∧
      (ofOffset source offset).Locates source place) ∧
    ∀ offset offset' place place', IsPlace source offset place → IsPlace source offset' place' →
      let line := ofOffset source offset
      let line' := ofOffset source offset'
      (line.number = line'.number → line.column = line'.column → place = place') ∧
      (offset ≤ offset' → toLex (line.number, line.column) ≤ toLex (line'.number, line'.column)) ∧
      (place < place' → toLex (line.number, line.column) < toLex (line'.number, line'.column)) := by
  refine ⟨fun offset => ?_, fun offset offset' place place' hplace hplace' => ?_⟩
  · obtain ⟨place, hplace⟩ := exists_isPlace source offset
    exact ⟨place, hplace, bytewise_eq source offset, locates_ofOffset hplace⟩
  · have hline := locates_ofOffset hplace
    have hline' := locates_ofOffset hplace'
    refine ⟨hline.place_eq_place hline', fun hle => ?_, hline.lt_of_place_lt hline'⟩
    by_contra hlt
    -- coordinates in the wrong order would locate places in the wrong order
    have hback : place' < place := hline'.place_lt_place hline (not_le.1 hlt)
    exact absurd (hplace.mono hplace' hle) (not_le.2 hback)

/-- an offset inside a character of two bytes, and one past the end, on the empty last line -/
theorem coordinates_exact_around_accent :
    let source : Text := "a\n\u00e9\n".toList
    IsPlace source 3 2 ∧ IsPlace source 9 5 ∧ ofOffset source 3 = ⟨2, "\u00e9".toList, 0⟩ ∧
      ofOffset source 9 = ⟨3, [], 0⟩ ∧
      toLex ((ofOffset source 3).number, (ofOffset source 3).column) <
        toLex ((ofOffset source 9).number, (ofOffset source 9).column) := by
  intro source
  have hinside : IsPlace ("a\n".toList ++ "\u00e9\n".toList) 3 2 := by
    refine isPlace_of_cut (by decide) fun c hc => ?_
    obtain rfl : '\u00e9' = c := Option.some.inj hc
    decide
  have hbehind : IsPlace (source ++ []) 9 5 := isPlace_of_cut (by decide) nofun
  exact ⟨hinside, hbehind, by decide, by decide, ((coordinates_exact source).2 3 9 2 5 hinside hbehind).2.2 (by decide)⟩

end SourceLine

end VarDecl
