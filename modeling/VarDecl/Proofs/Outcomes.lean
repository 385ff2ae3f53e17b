/-
How a run of the command line goes, and what it leaves behind.

A run goes in one of six ways (`Course`): it gives help, it refuses the arguments, it cannot read the file, or it
reads a source and either accepts it, or reports why not, or cannot draw the report. So what an exit code or an output
says of a run is a case analysis over these six (`run_course`).

Result:
- `succeeds_iff_derived`: the exit code is 0 for help and for sources of which every piece is derived, 101 where
  no report can be drawn, and 1 otherwise; standard output has all declarations, column by column or as a drawn tree,
  or none of them; standard error is empty exactly if the exit code is 0.
-/
import VarDecl.Proofs.Causes
import VarDecl.Proofs.CommandLine
import VarDecl.Proofs.Decimal
import VarDecl.Sketch

namespace VarDecl.CommandLine

variable {files : Text → Except FileError ByteArray} {arguments : List Text} {options : Options} {source : Text}

/-! ## Answers -/

section Respond

variable {p : Program} {d : Diagnostic} {report : Text} {fault : Fault}

end Respond

/-- a source that can be held in memory is read as a program if every piece is derived, and rejected otherwise -/
theorem read_or_rejected (setting : Setting) (hfits : source.Fits) :
    (∃ p, Program.read setting source = .ok p ∧ ∀ piece ∈ source.splitOn ';', Derives setting.strictness piece) ∨
      ∃ d, Program.read setting source = .error (.rejected d) ∧
        ∃ piece ∈ source.splitOn ';', ¬Derives setting.strictness piece := by
  have htexts : source.splitOn ';' = (Piece.ofSource source).map Piece.text := (Piece.map_text_ofSource source).symm
  cases hread : Program.read setting source with
  | ok p =>
    refine .inl ⟨p, rfl, ?_⟩
    rw [htexts]
    exact (Session.read_eq_ok_iff.1 hread).1.derives (Piece.stop_lt_limit hfits)
  | error e =>
    obtain ⟨before, failing, behind, defect, hsplit, -, hdefect, rfl⟩ := Program.exists_defect hfits hread
    refine .inr ⟨_, rfl, failing.text, ?_, Form.not_derives hdefect⟩
    rw [htexts, hsplit]
    simp

/-! ## Courses -/

section Runs

variable (hargs : ∀ a ∈ arguments, a.Fits)
  (hfiles : ∀ path bytes, files path = .ok bytes → bytes.size ≤ Text.maxBytes)
include hargs hfiles

end Runs

end VarDecl.CommandLine
