/-
What the caret of a report points at.

The caret moves left by the indentation of the source line, its spaces and tabs. The line itself is shown without its
indentation and without any other blank that it then begins with; by these (`Diagnostic.hiddenBlanks`) the caret does
not move. The character that a position designates is shown so many characters left of the caret.

Results:
- `Diagnostic.caret_below_iff`: the shown line, from as many characters left of the caret on as there are hidden
  blanks, is the rest of the source line; from the caret on, it is the rest of the source line exactly if no blank is
  hidden.
- `Diagnostic.caret_misses_after_wide_space`: a line that begins with a wide space has the caret below the wrong
  character.
-/
import VarDecl.Proofs.Report
import VarDecl.Session

namespace VarDecl

/-! ## Dropping in front of a character that stays -/

namespace Text

variable {p : Char → Bool} {c : Char} (hc : p c = false)
include hc

theorem dropWhile_append_cons (s t : Text) : (s ++ c :: t).dropWhile p = s.dropWhile p ++ c :: t := by
  rw [List.dropWhile_append, List.dropWhile_cons_of_neg (by simp [hc])]
  split
  · rename_i hall
    rw [List.isEmpty_iff.1 hall, List.nil_append]
  · rfl

theorem takeWhile_append_cons (s t : Text) : (s ++ c :: t).takeWhile p = s.takeWhile p := by
  rw [List.takeWhile_append, List.takeWhile_cons_of_neg (by simp [hc]), List.append_nil]
  split
  · rename_i hall
    exact ((List.takeWhile_prefix p).eq_of_length hall).symm
  · rfl

theorem trimEnd_cons_ne_nil (t : Text) : trimEnd p (c :: t) ≠ [] := by
  intro hnil
  obtain ⟨b, hb, hdropped⟩ := exists_append_trimEnd p (c :: t)
  rw [hnil, List.nil_append] at hb
  have hpc : p c = true := hdropped c (by rw [← hb]; exact List.mem_cons_self)
  rw [hc] at hpc
  exact absurd hpc Bool.false_ne_true

theorem trimEnd_append_cons (s t : Text) : trimEnd p (s ++ c :: t) = s ++ trimEnd p (c :: t) := by
  obtain ⟨b, hb, hdropped⟩ := exists_append_trimEnd p (c :: t)
  have hlast : ∀ x ∈ (s ++ trimEnd p (c :: t)).getLast?, p x = false := by
    intro x hx
    rw [List.getLast?_append_of_ne_nil _ (trimEnd_cons_ne_nil hc t)] at hx
    exact of_mem_getLast?_trimEnd hx
  calc trimEnd p (s ++ c :: t)
      = trimEnd p (s ++ trimEnd p (c :: t) ++ b) := by rw [List.append_assoc, ← hb]
    _ = s ++ trimEnd p (c :: t) := trimEnd_eq_of_append hlast hdropped

end Text

theorem Text.length_takeWhile_add_length_dropWhile (p : Char → Bool) (t : Text) :
    (t.takeWhile p).length + (t.dropWhile p).length = t.length := by
  rw [← List.length_append, List.takeWhile_append_dropWhile]

namespace Diagnostic

theorem isBlank_of_indents {c : Char} (h : indents c = true) : Text.isBlank c = true := by
  simp only [indents, Bool.or_eq_true, beq_iff_eq] at h
  rcases h with rfl | rfl
  · decide
  · decide

/-! ## The caret and the source line -/

/-- the number of blanks, apart from the indentation, that a line is shown without in front -/
def hiddenBlanks (line : Text) : Nat := ((line.dropWhile indents).takeWhile Text.isBlank).length

section Shown

variable {line : SourceLine} {lead rest : Text} {c : Char} (htext : line.text = lead ++ c :: rest)
  (hcolumn : line.column = lead.length) (hc : Text.isBlank c = false)
include htext hcolumn hc

/-- the indentation and the hidden blanks lie in front of a character that is not blank, and what is shown of the line
begins behind them -/
theorem exists_shown :
    ∃ front, Text.trim Text.isBlank (line.text.dropWhile indents) = front ++ Text.trimEnd Text.isBlank (c :: rest) ∧
      line.column = (line.text.takeWhile indents).length + hiddenBlanks line.text + front.length := by
  have hindent : indents c = false := by
    cases h : indents c with
    | false => rfl
    | true => rw [isBlank_of_indents h] at hc; exact hc
  refine ⟨(lead.dropWhile indents).dropWhile Text.isBlank, ?_, ?_⟩
  · rw [htext, Text.trim, Text.dropWhile_append_cons hindent, Text.dropWhile_append_cons hc,
      Text.trimEnd_append_cons hc]
  · have hlead := Text.length_takeWhile_add_length_dropWhile indents lead
    have hbody := Text.length_takeWhile_add_length_dropWhile Text.isBlank (lead.dropWhile indents)
    rw [hiddenBlanks, htext, Text.takeWhile_append_cons hindent, Text.dropWhile_append_cons hindent,
      Text.takeWhile_append_cons hc, hcolumn]
    omega

/-- so many characters left of the caret as there are hidden blanks stands the character at the column -/
theorem drop_shownLine :
    hiddenBlanks line.text ≤ (pointerLine line).idxOf '^' ∧
      (shownLine line).drop ((pointerLine line).idxOf '^' - hiddenBlanks line.text) =
        Text.trimEnd Text.isBlank (c :: rest) := by
  obtain ⟨front, hshown, hcolumn⟩ := exists_shown htext hcolumn hc
  have hidx := idxOf_pointerLine line
  refine ⟨by omega, ?_⟩
  have hbar : " | ".toList.length = 3 := rfl
  have hlead : (pointerLine line).idxOf '^' - hiddenBlanks line.text =
      (Text.Decimal.ofNat line.number ++ " | ".toList ++ front).length := by
    rw [List.length_append, List.length_append, hbar]
    omega
  rw [hlead, shownLine, hshown, ← List.append_assoc, List.drop_left]

/-- the caret stands below the character at the column exactly if no blank is hidden -/
theorem drop_shownLine_iff :
    (shownLine line).drop ((pointerLine line).idxOf '^') = Text.trimEnd Text.isBlank (c :: rest) ↔
      hiddenBlanks line.text = 0 := by
  obtain ⟨hle, hdrop⟩ := drop_shownLine htext hcolumn hc
  have hne := List.length_pos_iff.2 (Text.trimEnd_cons_ne_nil hc rest)
  have hmore : (shownLine line).drop ((pointerLine line).idxOf '^') =
      (Text.trimEnd Text.isBlank (c :: rest)).drop (hiddenBlanks line.text) := by
    rw [← hdrop, List.drop_drop, Nat.sub_add_cancel hle]
  rw [hmore]
  refine ⟨fun heq => ?_, fun hzero => ?_⟩
  · have hlength := congrArg List.length heq
    rw [List.length_drop] at hlength
    omega
  · rw [hzero, List.drop_zero]

end Shown

/-- **The caret stands below the reported character, if no blank is hidden.** Let the position of a diagnostic
designate a character that is not blank, and let the report be drawn. Its last two lines are the shown source line and
a line with one caret. The rest of the source line, from the column on and without blanks behind, is shown from so
many characters left of the caret on as there are hidden blanks, that is, blanks that the line begins with behind its
spaces and tabs. So it is shown from the caret on exactly if there is none. -/
theorem caret_below_iff (d : Diagnostic) (before after report : Text) (c : Char)
    (hposition : before.byteLength = d.position.offset.toNat) (hc : Text.isBlank c = false)
    (h : d.report (before ++ c :: after) = .ok report) :
    let line := SourceLine.ofOffset (before ++ c :: after) d.position.offset.toNat
    let target := Text.trimEnd Text.isBlank (line.text.drop line.column)
    line.text.drop line.column = (c :: after).takeWhile (· != '\n') ∧
      ∃ above shown pointer, report.splitOn '\n' = above ++ [shown, pointer] ∧ pointer.count '^' = 1 ∧
        hiddenBlanks line.text ≤ pointer.idxOf '^' ∧
        shown.drop (pointer.idxOf '^' - hiddenBlanks line.text) = target ∧
        (shown.drop (pointer.idxOf '^') = target ↔ hiddenBlanks line.text = 0) := by
  intro line target
  have hline : line = SourceLine.between before (c :: after) := by
    refine SourceLine.ofOffset_eq_between (Nat.le_of_eq hposition) fun x hx => ?_
    have hsize := x.utf8Size_pos
    omega
  have hstays : SourceLine.staysOnLine c = true := by
    cases hfeed : SourceLine.staysOnLine c with
    | true => rfl
    | false =>
      -- the line feed is blank
      simp only [SourceLine.staysOnLine, bne_eq_false_iff_eq] at hfeed
      rw [hfeed] at hc
      exact absurd hc (by decide)
  have hrest : (c :: after).takeWhile SourceLine.staysOnLine = c :: after.takeWhile SourceLine.staysOnLine :=
    List.takeWhile_cons_of_pos hstays
  have hbehind : line.text.drop line.column = c :: after.takeWhile SourceLine.staysOnLine := by
    rw [hline, SourceLine.drop_column_between, hrest]
  have htarget : target = Text.trimEnd Text.isBlank (c :: after.takeWhile SourceLine.staysOnLine) := by
    simp only [target, hbehind]
  have htext : line.text = line.text.take line.column ++ c :: after.takeWhile SourceLine.staysOnLine := by
    rw [← hbehind, List.take_append_drop]
  have hcolumn : line.column = (line.text.take line.column).length := by
    rw [hline]
    simp [SourceLine.between]
  refine ⟨hbehind.trans hrest.symm, ?_⟩
  obtain ⟨above, hlines⟩ := splitOn_report h
  obtain ⟨hle, hdrop⟩ := drop_shownLine htext hcolumn hc
  rw [htarget]
  exact ⟨above, shownLine line, pointerLine line, hlines, count_pointerLine line, hle, hdrop,
    drop_shownLine_iff htext hcolumn hc⟩

/-- a second line with a tab and a space in front and a keyword of two bytes: nothing is hidden -/
theorem caret_below_iff_after_tab :
    let before : Text := "let a = 1;\n\t \u00e9 ".toList
    let source := before ++ ['b']
    let d : Diagnostic := ⟨.missingAssignment "b".toList, ⟨16, shellLabel⟩⟩
    Program.read .shell source = .error (.rejected d) ∧ Text.isBlank 'b' = false ∧
      ∃ report, d.report source = .ok report ∧ ∃ above shown pointer, report.splitOn '\n' = above ++ [shown, pointer] ∧
        shown.drop (pointer.idxOf '^') = "b".toList := by
  intro before source d
  have hb : Text.isBlank 'b' = false := by decide
  obtain ⟨report, hreport⟩ : ∃ report, d.report source = .ok report := exists_report (by decide)
  refine ⟨rfl, hb, report, hreport, ?_⟩
  obtain ⟨-, above, shown, pointer, hlines, -, -, -, hbelow⟩ :=
    caret_below_iff d before [] report 'b' (by decide) hb hreport
  have hhidden : hiddenBlanks (SourceLine.ofOffset source 16).text = 0 := by decide
  have htarget : Text.trimEnd Text.isBlank
      ((SourceLine.ofOffset source 16).text.drop (SourceLine.ofOffset source 16).column) = "b".toList := by decide
  exact ⟨above, shown, pointer, hlines, (hbelow.2 hhidden).trans htarget⟩

/-- a wide space is neither indentation nor shown: the caret stands below the second character of the word -/
theorem caret_misses_after_wide_space :
    let source : Text := "\u3000const".toList
    let d : Diagnostic := ⟨.missingKeyword "const".toList, ⟨3, shellLabel⟩⟩
    let line := SourceLine.ofOffset source 3
    Program.read .shell source = .error (.rejected d) ∧
      Text.trimEnd Text.isBlank (line.text.drop line.column) = "const".toList ∧
      ∃ report, d.report source = .ok report ∧ ∃ above shown pointer, report.splitOn '\n' = above ++ [shown, pointer] ∧
        shown = "1 | const".toList ∧ pointer = "  | -^".toList ∧ shown.drop (pointer.idxOf '^') = "onst".toList := by
  intro source d line
  obtain ⟨report, hreport⟩ : ∃ report, d.report source = .ok report := exists_report (by decide)
  obtain ⟨above, hlines⟩ := splitOn_report hreport
  exact ⟨rfl, by decide, report, hreport, above, _, _, hlines, by decide, by decide, by decide⟩

end Diagnostic

end VarDecl
