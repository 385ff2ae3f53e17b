/-
When a report is drawn, and what its last two lines are.

The caret line is the only line of a report whose width depends on the source without bound: the caret may stand too far to
the right of the indentation. The gutter is as wide as the line number, and the line of a 32-bit offset has at most ten
digits. The rest of a report is taken out of the source by byte offsets, and is always there: the indentation consists of
characters of one byte, so its number of characters is the offset behind it.

Results:
- `bytewise_eq`: worked out on byte offsets, nothing of a report is missing; it is the same report or the same fault.
- `report_eq_error_iff`: the one fault, and when it occurs.
- `drawn_or_too_wide`: that, and the last two lines of a report that is drawn.
-/
import VarDecl.Bytewise
import VarDecl.Proofs.Caret
import VarDecl.Proofs.Coordinates

namespace VarDecl

/-- what a smaller class leaves is dropped by a larger one as if it had been there alone -/
theorem Text.dropWhile_dropWhile {p q : Char → Bool} (h : ∀ c, q c = true → p c = true) (t : Text) :
    (t.dropWhile q).dropWhile p = t.dropWhile p := by
  induction t with
  | nil => rfl
  | cons c t ih =>
    by_cases hq : q c = true
    · rw [List.dropWhile_cons_of_pos hq, List.dropWhile_cons_of_pos (h c hq), ih]
    · rw [List.dropWhile_cons_of_neg hq]

namespace SourceLine

/-- the line of an offset has no higher number than there are bytes up to the offset, and one more -/
theorem number_ofOffset_le (source : Text) (offset : Nat) : (ofOffset source offset).number ≤ offset + 1 := by
  obtain ⟨before, after, rfl, hle, hnext⟩ := exists_cut source offset
  rw [ofOffset_eq_between hle hnext]
  calc before.count '\n' + 1
      ≤ before.length + 1 := Nat.succ_le_succ List.count_le_length
    _ ≤ before.byteLength + 1 := Nat.succ_le_succ before.length_le_byteLength
    _ ≤ offset + 1 := Nat.succ_le_succ hle

/-- a source of one line, of characters of one byte: offsets are columns -/
theorem ofOffset_of_one_line {source : Text} {offset : Nat} (hbytes : ∀ c ∈ source, c.utf8Size = 1)
    (hfeed : '\n' ∉ source) (hle : offset ≤ source.length) : ofOffset source offset = ⟨1, source, offset⟩ := by
  have hsize : Text.byteLength (source.take offset) = offset := by
    rw [Text.byteLength_eq_length fun c hc => hbytes c (List.mem_of_mem_take hc), List.length_take_of_le hle]
  have hnext : ∀ c ∈ (source.drop offset).head?, offset < Text.byteLength (source.take offset) + c.utf8Size := by
    intro c _
    have hpos := c.utf8Size_pos
    omega
  have hlead : '\n' ∉ source.take offset := fun hmem => hfeed (List.mem_of_mem_take hmem)
  have hstays : ∀ c ∈ source.drop offset, staysOnLine c = true :=
    staysOnLine_of_notMem fun hmem => hfeed (List.mem_of_mem_drop hmem)
  have hrest : (source.drop offset).takeWhile staysOnLine = source.drop offset := by
    simpa using Text.takeWhile_eq_of_append (m := []) hstays (by simp)
  calc ofOffset source offset
      = ofOffset (source.take offset ++ source.drop offset) offset := by rw [List.take_append_drop]
    _ = between (Text.ended '\n' [] ++ source.take offset) (source.drop offset) :=
        ofOffset_eq_between (Nat.le_of_eq hsize) hnext
    _ = ⟨1, source, offset⟩ := by
        rw [between_ended (by simp) hlead, hrest, List.take_append_drop, List.length_take_of_le hle]
        rfl

end SourceLine

namespace Diagnostic

/-! ## Nothing is missing -/

theorem utf8Size_of_indents {c : Char} (h : indents c = true) : c.utf8Size = 1 := by
  simp only [indents, Bool.or_eq_true, beq_iff_eq] at h
  rcases h with rfl | rfl
  · rfl
  · rfl

/-- the number of the line of a 32-bit offset has at most ten digits -/
theorem length_lineNumber_le (source : Text) (offset : UInt32) :
    (Text.Decimal.ofNat (SourceLine.ofOffset source offset.toNat).number).length ≤ 10 := by
  rw [Text.Decimal.ofNat, Nat.length_toDigits_le_iff (by decide) (by decide)]
  have hnumber := SourceLine.number_ofOffset_le source offset.toNat
  have hoffset := offset.toNat_lt
  omega

theorem fill_gutter (source : Text) (offset : UInt32) :
    let number := Text.Decimal.ofNat (SourceLine.ofOffset source offset.toNat).number
    fill (number.byteLength + 2) ' ' "|".toList = .ok (gutter number.length) := by
  intro number
  have hsize : number.byteLength = number.length :=
    Text.byteLength_eq_length fun c hc => Text.utf8Size_of_isDigit (Text.Decimal.isDigit_of_mem_ofNat hc)
  have hlength : number.length ≤ 10 := length_lineNumber_le source offset
  rw [hsize]
  refine if_pos ?_
  unfold widthLimit
  omega

/-- the number of characters of the indentation is the offset behind it -/
theorem slice?_indentation (t : Text) :
    t.slice? (t.takeWhile indents).length t.byteLength = some (t.dropWhile indents) := by
  have hsize : Text.byteLength (t.takeWhile indents) = (t.takeWhile indents).length :=
    Text.byteLength_eq_length fun c hc => utf8Size_of_indents (List.mem_takeWhile_imp hc)
  have hright := Text.slice?_right (t.takeWhile indents) (t.dropWhile indents)
  rwa [List.takeWhile_append_dropWhile, hsize] at hright

/-- **A report is drawn on byte offsets as it is drawn by characters.** -/
theorem bytewise_eq (d : Diagnostic) (source : Text) :
    d.bytewise source = ExceptT.mk (some (d.report source)) := by
  unfold bytewise report
  refine (part_bind (SourceLine.bytewise_eq source _) _).trans ?_
  have hgutter := fill_gutter source d.position.offset
  generalize SourceLine.ofOffset source d.position.offset.toNat = line at hgutter ⊢
  simp only [hgutter]
  refine (part_bind (slice?_indentation line.text) _).trans ?_
  by_cases hwidth : line.column - (line.text.takeWhile indents).length + 1 ≤ widthLimit
  · rw [fill, if_pos hwidth, if_pos hwidth]
    rfl
  · rw [fill, if_neg hwidth, if_neg hwidth]
    rfl

/-! ## The last two lines -/

/-- the indentation is blank, so it does not matter that it is dropped apart -/
theorem trim_dropWhile_indents (t : Text) :
    Text.trim Text.isBlank (t.dropWhile indents) = Text.trim Text.isBlank t := by
  rw [Text.trim, Text.dropWhile_dropWhile fun _ => isBlank_of_indents, ← Text.trim]

theorem shownLine_eq (line : SourceLine) :
    shownLine line = Text.Decimal.ofNat line.number ++ " | ".toList ++ Text.trim Text.isBlank line.text := by
  rw [shownLine, trim_dropWhile_indents]

theorem pointerLine_eq (line : SourceLine) :
    pointerLine line = List.replicate ((Text.Decimal.ofNat line.number).length + 1) ' ' ++ "| ".toList ++
      List.replicate (line.column - (line.text.takeWhile indents).length) '-' ++ ['^'] := by
  rw [pointerLine, gutter_eq, caretWidth, caret_succ]
  simp

theorem idxOf_bar_shownLine (line : SourceLine) :
    (shownLine line).idxOf '|' = (Text.Decimal.ofNat line.number).length + 1 := by
  have hnumber : '|' ∉ Text.Decimal.ofNat line.number := fun hmem =>
    absurd (Text.Decimal.isDigit_of_mem_ofNat hmem) (by decide)
  rw [shownLine, List.append_assoc, List.idxOf_append_of_notMem hnumber]
  rfl

theorem idxOf_bar_pointerLine (line : SourceLine) :
    (pointerLine line).idxOf '|' = (Text.Decimal.ofNat line.number).length + 1 := by
  have hblanks : '|' ∉ List.replicate ((Text.Decimal.ofNat line.number).length + 1) ' ' := by simp
  rw [pointerLine, gutter_eq, List.append_assoc, List.idxOf_append_of_notMem hblanks, List.length_replicate]
  rfl

/-- **A report is not drawn exactly if the caret stands too far to the right of the indentation.** -/
theorem report_eq_error_iff {d : Diagnostic} {source : Text} {f : Fault} :
    let line := SourceLine.ofOffset source d.position.offset.toNat
    d.report source = .error f ↔
      f = .columnTooWide ∧ (line.text.takeWhile indents).length + widthLimit ≤ line.column := by
  intro line
  have hlimit : caretWidth line ≤ widthLimit ↔ ¬(line.text.takeWhile indents).length + widthLimit ≤ line.column := by
    unfold caretWidth widthLimit
    omega
  by_cases hwidth : caretWidth line ≤ widthLimit
  · obtain ⟨report, hreport⟩ := exists_report hwidth
    rw [hreport]
    exact ⟨nofun, fun h => absurd h.2 (hlimit.1 hwidth)⟩
  · have hfault : d.report source = .error .columnTooWide := by
      rw [report_eq, drawing, if_neg hwidth]
      rfl
    rw [hfault]
    simp only [not_not.1 (mt hlimit.2 hwidth), and_true, Except.error.injEq, eq_comm]

/-- **A report is drawn unless the caret stands too far to the right, and then ends in the source line and the caret.** For
any diagnostic, on any source, there is one fault, which occurs exactly if the column is at least 65535 behind the
indentation of its line, the spaces and tabs that it begins with. Worked out on byte offsets the report is the same: the
line and the part of it behind the indentation are there, and the gutter has a width. A report that is drawn ends in two
lines: the source line without the blanks around it, behind its number and a bar; and a bar below that one, a space, a
dash for each column behind the indentation, and the caret. -/
theorem drawn_or_too_wide (d : Diagnostic) (source : Text) :
    let line := SourceLine.ofOffset source d.position.offset.toNat
    let indentation := (line.text.takeWhile fun c => c == ' ' || c == '\t').length
    let number := Text.Decimal.ofNat line.number
    SourceLine.bytewise source d.position.offset.toNat = some line ∧
      d.bytewise source = ExceptT.mk (some (d.report source)) ∧
      ((∃ f, d.report source = .error f) ↔ indentation + 65535 ≤ line.column) ∧
      (∀ f, d.report source = .error f → f.message = "Formatting argument out of range".toList) ∧
      (line.column < indentation + 65535 → ∃ report above shown pointer, d.report source = .ok report ∧
        report.splitOn '\n' = above ++ [shown, pointer] ∧
        shown = number ++ " | ".toList ++ Text.trim Text.isBlank line.text ∧
        pointer = List.replicate (number.length + 1) ' ' ++ "| ".toList ++
          List.replicate (line.column - indentation) '-' ++ ['^'] ∧
        shown.idxOf '|' = number.length + 1 ∧ pointer.idxOf '|' = number.length + 1) := by
  intro line indentation number
  have hfault : ∀ f, d.report source = .error f ↔ f = .columnTooWide ∧ indentation + 65535 ≤ line.column :=
    fun f => report_eq_error_iff
  refine ⟨SourceLine.bytewise_eq source _, bytewise_eq d source, ?_, ?_, fun hcolumn => ?_⟩
  · simp only [hfault, exists_eq_left]
  · intro f hf
    obtain ⟨rfl, -⟩ := (hfault f).1 hf
    rfl
  have hwidth : caretWidth line ≤ widthLimit := by
    show line.column - indentation + 1 ≤ widthLimit
    unfold widthLimit
    omega
  obtain ⟨report, hreport⟩ := exists_report hwidth
  obtain ⟨above, hlines⟩ := splitOn_report hreport
  exact ⟨report, above, shownLine line, pointerLine line, hreport, hlines, shownLine_eq line, pointerLine_eq line,
    idxOf_bar_shownLine line, idxOf_bar_pointerLine line⟩

/-- a source of 65535 characters on one line: there is a report at its last character, and none at its end -/
theorem drawn_or_too_wide_of_long_line :
    let source : Text := List.replicate 65535 'a'
    let diagnostic : UInt32 → Diagnostic := fun offset => ⟨.missingAssignment source, ⟨offset, shellLabel⟩⟩
    (∃ f, (diagnostic 65535).report source = .error f) ∧ ∃ report, (diagnostic 65534).report source = .ok report := by
  intro source diagnostic
  have hbytes : ∀ c ∈ source, c.utf8Size = 1 := by
    intro c hc
    rw [List.eq_of_mem_replicate hc]
    rfl
  have hfeed : '\n' ∉ source := fun hmem => absurd (List.eq_of_mem_replicate hmem) (by decide)
  have hindentation : (source.takeWhile fun c => c == ' ' || c == '\t').length = 0 := by
    rw [List.takeWhile_replicate]
    rfl
  have hline : ∀ offset : UInt32, offset.toNat ≤ 65535 →
      SourceLine.ofOffset source offset.toNat = ⟨1, source, offset.toNat⟩ := by
    intro offset hle
    exact SourceLine.ofOffset_of_one_line hbytes hfeed (by rwa [List.length_replicate])
  obtain ⟨-, -, hfault, -⟩ := drawn_or_too_wide (diagnostic 65535) source
  obtain ⟨-, -, -, -, hdrawn⟩ := drawn_or_too_wide (diagnostic 65534) source
  rw [show (diagnostic 65535).position.offset.toNat = (65535 : UInt32).toNat from rfl, hline 65535 (by decide),
    hindentation] at hfault
  rw [show (diagnostic 65534).position.offset.toNat = (65534 : UInt32).toNat from rfl, hline 65534 (by decide),
    hindentation] at hdrawn
  obtain ⟨report, _, _, _, hreport, -⟩ := hdrawn (by decide)
  exact ⟨hfault.2 (by decide), report, hreport⟩

end Diagnostic

end VarDecl
