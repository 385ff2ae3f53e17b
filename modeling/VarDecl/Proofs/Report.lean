/-
The lines of a report.

A report is the heading, the label, and a drawing (`Diagnostic.drawing`): an empty gutter, the source line behind its
number (`Diagnostic.shownLine`) and the caret behind the gutter (`Diagnostic.pointerLine`). The heading looks at the
cause only, the drawing at the source line only.

Results:
- `Diagnostic.report_eq`: these parts, with the label in a place of its own between the other two.
- `Diagnostic.splitOn_report`: whatever line feeds the heading and the label have, the last two lines are the source
  line and the caret.
- `Diagnostic.idxOf_pointerLine`: where in its line the caret stands.
-/
import Mathlib.Data.List.Basic
import VarDecl.Diagnostic.Report
import VarDecl.Proofs.Decimal
import VarDecl.Proofs.SourceLine

namespace VarDecl

theorem Text.of_mem_trim {p : Char → Bool} {t : Text} {c : Char} (h : c ∈ trim p t) : c ∈ t := by
  rw [← append_trimmedTail p t]
  exact List.mem_append_left _ (List.mem_append_right _ h)

namespace Diagnostic

/-! ## Parts -/

/-- the source line of a report, behind its number -/
def shownLine (line : SourceLine) : Text :=
  Text.Decimal.ofNat line.number ++ " | ".toList ++ Text.trim Text.isBlank (line.text.dropWhile indents)

/-- the number of characters from the bar of the gutter to the caret, the caret included -/
def caretWidth (line : SourceLine) : Nat := line.column - (line.text.takeWhile indents).length + 1

/-- the caret of a report, behind the gutter -/
def pointerLine (line : SourceLine) : Text :=
  gutter (Text.Decimal.ofNat line.number).length ++ ' ' :: caret (caretWidth line)

/-- what a report shows of a source line, if the caret is not too far to the right -/
def drawing (line : SourceLine) : Except Fault Text :=
  if caretWidth line ≤ widthLimit then
    .ok (gutter (Text.Decimal.ofNat line.number).length ++ '\n' :: (shownLine line ++ '\n' :: pointerLine line))
  else .error .columnTooWide

/-- **A report is the heading, the label and the drawing of a source line.** -/
theorem report_eq (d : Diagnostic) (source : Text) :
    d.report source = (drawing (SourceLine.ofOffset source d.position.offset.toNat)).map fun drawn =>
      d.heading ++ "\n-> ".toList ++ d.position.label ++ '\n' :: drawn := by
  unfold drawing
  by_cases hwidth : caretWidth (SourceLine.ofOffset source d.position.offset.toNat) ≤ widthLimit
  · rw [if_pos hwidth]
    refine (if_pos hwidth).trans (congrArg Except.ok ?_)
    simp [List.intercalate, List.intersperse, shownLine, pointerLine, caretWidth]
  · rw [if_neg hwidth]
    exact if_neg hwidth

theorem exists_report {d : Diagnostic} {source : Text}
    (h : caretWidth (SourceLine.ofOffset source d.position.offset.toNat) ≤ widthLimit) :
    ∃ report, d.report source = .ok report := by
  rw [report_eq, drawing, if_pos h]
  exact ⟨_, rfl⟩

/-! ## The last two lines -/

theorem gutter_eq (digits : Nat) : gutter digits = List.replicate (digits + 1) ' ' ++ ['|'] := rfl

theorem caret_succ (n : Nat) : caret (n + 1) = List.replicate n '-' ++ ['^'] := rfl

theorem lineFeed_notMem_shownLine {line : SourceLine} (h : '\n' ∉ line.text) : '\n' ∉ shownLine line := by
  intro hmem
  rcases List.mem_append.1 hmem with hnumber | htext
  · rcases List.mem_append.1 hnumber with hdigit | hbar
    · exact absurd (Text.Decimal.isDigit_of_mem_ofNat hdigit) (by decide)
    · exact absurd hbar (by decide)
  · exact h ((List.dropWhile_suffix _).subset (Text.of_mem_trim htext))

theorem lineFeed_notMem_pointerLine (line : SourceLine) : '\n' ∉ pointerLine line := by
  simp [pointerLine, gutter_eq, caretWidth, caret_succ]

/-- **A report ends in the source line and the line of the caret**, whatever stands above them. -/
theorem splitOn_report {d : Diagnostic} {source report : Text} (h : d.report source = .ok report) :
    let line := SourceLine.ofOffset source d.position.offset.toNat
    ∃ above, report.splitOn '\n' = above ++ [shownLine line, pointerLine line] := by
  intro line
  rw [report_eq] at h
  by_cases hwidth : caretWidth line ≤ widthLimit
  · rw [drawing, if_pos hwidth] at h
    have hparts : report = (d.heading ++ "\n-> ".toList ++ d.position.label ++ '\n' ::
        gutter (Text.Decimal.ofNat line.number).length) ++ '\n' :: (shownLine line ++ '\n' :: pointerLine line) := by
      rw [← Except.ok.inj h]
      simp [line]
    have hshown : '\n' ∉ shownLine line := lineFeed_notMem_shownLine (SourceLine.lineFeed_notMem_text _ _)
    rw [hparts, List.splitOn_append_cons_self, List.splitOn_append_cons_self_of_not_mem hshown,
      List.splitOn_eq_singleton (lineFeed_notMem_pointerLine line)]
    exact ⟨_, rfl⟩
  · rw [drawing, if_neg hwidth] at h
    cases h

/-- the caret stands behind the number, the bar between spaces, and the dashes -/
theorem idxOf_pointerLine (line : SourceLine) :
    (pointerLine line).idxOf '^' =
      (Text.Decimal.ofNat line.number).length + 3 + (line.column - (line.text.takeWhile indents).length) := by
  simp only [pointerLine, gutter_eq, caretWidth, caret_succ]
  simp [List.idxOf_append]
  omega

theorem count_pointerLine (line : SourceLine) : (pointerLine line).count '^' = 1 := by
  simp [pointerLine, gutter_eq, caretWidth, caret_succ, List.count_replicate]

end Diagnostic

end VarDecl
