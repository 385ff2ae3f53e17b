/-
The label of a source: it is carried along, and nothing looks at it.

Reading a source under another label is reading it and then putting the label on every position. This is proved of
each reader in turn, of the literal first, and of a session by induction on the pieces (`Session.read_relabel`). No
bound on the source is needed: where a sum of offsets is none, it is none under every label.

Result:
- `alike_under_labels`: two readings of a source under two labels come to the same, apart from the label in the
  positions and on a line of its own in a report; and the command line comes to the same for a source in a file and
  the same source as an argument, apart from the label in a report.
-/
import VarDecl.Proofs.CommandLine
import VarDecl.Proofs.Report
import VarDecl.Tree.Moved

namespace VarDecl

/-! ## Readings under another label -/

def Setting.relabel (label : Text) (s : Setting) : Setting := { s with label }

@[simp] theorem Setting.strictness_relabel (label : Text) (s : Setting) :
    (s.relabel label).strictness = s.strictness := rfl

section Steps

variable {α β : Type} {f : Position → Position} {g : α → α}

/-- a sum of offsets is the same wherever the positions are moved to -/
theorem Offset.advance_bind_moved {offset bytes : Nat} {k k' : Nat → Except Failure α}
    (h : ∀ n, k' n = movedResult f g (k n)) :
    (Offset.advance offset bytes >>= k') = movedResult f g (Offset.advance offset bytes >>= k) := by
  by_cases hlimit : offset + bytes < Offset.limit
  · rw [Offset.advance_of_lt hlimit]
    exact h (offset + bytes)
  · rw [Offset.advance_of_le (Nat.not_lt.1 hlimit)]
    rfl

/-- a reading that goes on with a result goes on with the moved result -/
theorem bind_moved {g' : β → β} {r r' : Except Failure α} {k k' : α → Except Failure β} (hr : r' = movedResult f g r)
    (h : ∀ a, k' (g a) = movedResult f g' (k a)) : (r' >>= k') = movedResult f g' (r >>= k) := by
  subst hr
  cases r with
  | ok a => exact h a
  | error e => rfl

end Steps

theorem Literal.read_relabel (label : Text) (setting : Setting) (raw : Text) (offset : Nat) :
    Literal.read (setting.relabel label) raw offset =
      movedResult (.relabel label) (Literal.mapPositions (.relabel label)) (Literal.read setting raw offset) := by
  unfold Literal.read
  apply Offset.advance_bind_moved
  intro stop
  rfl

theorem Declarator.read_relabel (label : Text) (setting : Setting) (text : Text) (offset : Nat) :
    Declarator.read (setting.relabel label) text offset =
      movedResult (.relabel label) (Declarator.mapPositions (.relabel label))
        (Declarator.read setting text offset) := by
  unfold Declarator.read
  cases Text.cutAt? '=' text with
  | none => rfl
  | some parts =>
    obtain ⟨left, raw⟩ := parts
    apply Offset.advance_bind_moved
    intro n
    apply Offset.advance_bind_moved
    intro literalOffset
    apply bind_moved (Literal.read_relabel label setting raw literalOffset)
    intro literal
    simp only [Setting.strictness_relabel]
    cases setting.strictness.nameCause? (Name.ofText left) with
    | some cause => rfl
    | none =>
      apply Offset.advance_bind_moved
      intro stop
      rfl

theorem Declaration.read_relabel (label : Text) (setting : Setting) (piece : Piece) :
    Declaration.read (setting.relabel label) piece =
      movedResult (.relabel label) (Declaration.mapPositions (.relabel label)) (Declaration.read setting piece) := by
  unfold Declaration.read
  apply Offset.advance_bind_moved
  intro start
  cases Text.cutAt? ' ' (Text.trim Text.isBlank piece.text) with
  | none => rfl
  | some parts =>
    obtain ⟨keyword, text⟩ := parts
    simp only [Setting.strictness_relabel]
    by_cases hword : setting.strictness.admitsKeyword keyword = true
    · simp only [hword, ↓reduceIte]
      apply Offset.advance_bind_moved
      intro n
      apply Offset.advance_bind_moved
      intro offset
      apply bind_moved (Declarator.read_relabel label setting text offset)
      intro declarator
      apply Offset.advance_bind_moved
      intro stop
      rfl
    · simp only [hword]
      rfl

/-! ## Sessions under another label -/

namespace Session

/-- the same session, with everything under another label -/
def relabel (label : Text) (s : Session) : Session :=
  { s with setting := s.setting.relabel label, accepted := s.accepted.map (Declaration.mapPositions (.relabel label)) }

/-- what the reading of a source left behind and gave, under another label -/
def relabelRun (label : Text) (run : Session × Except Failure Program) : Session × Except Failure Program :=
  (run.1.relabel label, movedResult (.relabel label) (Program.mapPositions (.relabel label)) run.2)

theorem relabel_accept (label : Text) (s : Session) (d : Declaration) :
    (s.relabel label).accept (d.mapPositions (.relabel label)) = (s.accept d).relabel label := by
  simp [relabel, accept]

theorem start_relabel (label : Text) (setting : Setting) (source : Text) :
    start (setting.relabel label) source = (start setting source).relabel label := by
  simp [start, relabel, Setting.relabel]

theorem readPieces_relabel (label : Text) (s : Session) (pieces : List Piece) :
    (s.relabel label).readPieces pieces =
      ((s.readPieces pieces).1.relabel label, movedResult (.relabel label) id (s.readPieces pieces).2) := by
  induction pieces generalizing s with
  | nil => rfl
  | cons piece pieces ih =>
    have hsetting : (s.relabel label).setting = s.setting.relabel label := rfl
    rw [readPieces, readPieces, hsetting, Declaration.read_relabel]
    cases Declaration.read s.setting piece with
    | error e => rfl
    | ok d =>
      simp only [movedResult]
      rw [relabel_accept]
      exact ih (s.accept d)

theorem read_relabel (label : Text) (s : Session) : (s.relabel label).read = relabelRun label s.read := by
  have hpending : (s.relabel label).pending = s.pending := rfl
  have hrun := readPieces_relabel label s s.pending
  unfold read
  rw [hpending, hrun]
  obtain ⟨s', result⟩ := s.readPieces s.pending
  cases result with
  | error e => rfl
  | ok u =>
    have hlist : (s'.relabel label).accepted.toList =
        s'.accepted.toList.map (Declaration.mapPositions (.relabel label)) := Array.toList_map
    simp only [movedResult, relabelRun, hlist]
    simp [relabel, Program.mapPositions, Span.mapPositions, Span.ofOffsets, Setting.relabel, Position.ofOffset_relabel]

/-- **A source is read in the same way under another label**, which then stands on every position. -/
theorem read_start_relabel (label : Text) (setting : Setting) (source : Text) :
    (start (setting.relabel label) source).read = relabelRun label (start setting source).read := by
  rw [start_relabel, read_relabel]

end Session

theorem Program.read_relabel (label : Text) (setting : Setting) (source : Text) :
    Program.read (setting.relabel label) source =
      movedResult (.relabel label) (Program.mapPositions (.relabel label)) (Program.read setting source) :=
  congrArg Prod.snd (Session.read_start_relabel label setting source)

/-! ## Positions -/

def Span.positions (s : Span) : List Position := [s.start, s.stop]

def Declaration.positions (d : Declaration) : List Position :=
  d.span.positions ++ d.declarator.span.positions ++ d.declarator.literal.span.positions

def Program.positions (p : Program) : List Position := p.span.positions ++ p.body.flatMap Declaration.positions

/-- the position in a failure, if it has one -/
def Failure.positions : Failure → List Position
  | .rejected d => [d.position]
  | .fault _ => []

/-- all positions in what the reading of a source left behind and gave -/
def Session.runPositions (run : Session × Except Failure Program) : List Position :=
  run.1.accepted.toList.flatMap Declaration.positions ++
    match run.2 with
    | .ok p => p.positions
    | .error e => e.positions

section Positions

variable {label : Text} {p : Position}

theorem Span.label_of_mem_positions {s : Span} (h : p ∈ (s.mapPositions (.relabel label)).positions) :
    p.label = label := by
  simp only [positions, mapPositions, List.mem_cons, List.not_mem_nil, or_false] at h
  rcases h with rfl | rfl <;> rfl

theorem Declaration.label_of_mem_positions {ds : List Declaration}
    (h : p ∈ (ds.map (mapPositions (.relabel label))).flatMap positions) : p.label = label := by
  obtain ⟨d', hd', hp⟩ := List.mem_flatMap.1 h
  obtain ⟨d, -, rfl⟩ := List.mem_map.1 hd'
  rcases List.mem_append.1 hp with hp | hp
  · rcases List.mem_append.1 hp with hp | hp
    · exact Span.label_of_mem_positions hp
    · exact Span.label_of_mem_positions hp
  · exact Span.label_of_mem_positions hp

/-- what was put under a label is under this label throughout -/
theorem Session.label_of_mem_runPositions {run : Session × Except Failure Program}
    (h : p ∈ runPositions (relabelRun label run)) : p.label = label := by
  rcases List.mem_append.1 h with hp | hp
  · rw [relabelRun, relabel, Array.toList_map] at hp
    exact Declaration.label_of_mem_positions hp
  · obtain ⟨s, result⟩ := run
    cases result with
    | ok q =>
      rcases List.mem_append.1 hp with hp | hp
      · exact Span.label_of_mem_positions hp
      · exact Declaration.label_of_mem_positions hp
    | error e =>
      cases e with
      | fault f => exact absurd hp List.not_mem_nil
      | rejected d =>
        rw [List.mem_singleton.1 hp]
        rfl

end Positions

/-! ## Reports under another label -/

/-- **A report names the label in one place**: all else is the same under every label, also whether there is one. -/
theorem Diagnostic.report_relabel (d : Diagnostic) (source : Text) :
    ∃ (front : Text) (drawn : Except Fault Text), ∀ label : Text,
      Diagnostic.report { d with position := d.position.relabel label } source =
        drawn.map fun back => front ++ "\n-> ".toList ++ label ++ '\n' :: back :=
  ⟨d.heading, drawing (SourceLine.ofOffset source d.position.offset.toNat), fun _ => report_eq _ source⟩

/-- two failures of one source under two labels have reports that differ in the label only -/
theorem Program.report_apart {setting : Setting} {source : Text} {d : Diagnostic} (label : Text)
    (h : Program.read setting source = .error (.rejected d)) :
    ∃ d', Program.read (setting.relabel label) source = .error (.rejected d') ∧
      ∃ (front : Text) (drawn : Except Fault Text),
        d.report source = drawn.map (fun back => front ++ "\n-> ".toList ++ setting.label ++ '\n' :: back) ∧
        d'.report source = drawn.map (fun back => front ++ "\n-> ".toList ++ label ++ '\n' :: back) := by
  obtain ⟨front, drawn, hreport⟩ := d.report_relabel source
  refine ⟨{ d with position := d.position.relabel label }, ?_, front, drawn, ?_, hreport label⟩
  · rw [Program.read_relabel, h]
    rfl
  · -- the label of the setting is on the position already
    have hsame : setting.relabel setting.label = setting := rfl
    have hself := Program.read_relabel setting.label setting source
    rw [hsame, h] at hself
    have hd : d = { d with position := d.position.relabel setting.label } :=
      Failure.rejected.inj (Except.error.inj hself)
    rw [hd]
    exact hreport setting.label

/-! ## The command line under another label -/

namespace CommandLine

theorem listing_mapPositions (f : Position → Position) (p : Program) : listing (p.mapPositions f) = listing p := by
  simp only [listing, Program.mapPositions, List.zipIdx_map, List.flatMap_map]
  rfl

/-- two outcomes that differ in nothing but a label, on a line of its own of standard error -/
structure Outcome.ApartFromLabel (label label' : Text) (o o' : Outcome) : Prop where
  exitCode : o'.exitCode = o.exitCode
  stdout : ∀ elapsed, o'.stdout elapsed = o.stdout elapsed
  stderr :
    (o.exitCode = 0 ∧ o.stderr = [] ∧ o'.stderr = []) ∨
      (o.exitCode = 1 ∧ ∃ front back, o.stderr = front ++ "\n-> ".toList ++ label ++ '\n' :: back ∧
        o'.stderr = front ++ "\n-> ".toList ++ label' ++ '\n' :: back) ∨
      (o.exitCode = 101 ∧ o'.stderr = o.stderr)

/-- a source that is answered under another label, without its tree -/
theorem respond_apart {options options' : Options} (hstrict : options'.strictness = options.strictness)
    (htree : options.showTree = false) (htree' : options'.showTree = false) (label label' source : Text) :
    (respond options label source).ApartFromLabel label label' (respond options' label' source) := by
  have hread : Program.read ⟨label', options.strictness⟩ source =
      movedResult (.relabel label') (Program.mapPositions (.relabel label'))
        (Program.read ⟨label, options.strictness⟩ source) :=
    Program.read_relabel label' ⟨label, options.strictness⟩ source
  unfold respond
  rw [hstrict]
  cases hfirst : Program.read ⟨label, options.strictness⟩ source with
  | ok p =>
    rw [hread, hfirst]
    simp only [movedResult, htree, htree', Bool.false_eq_true, ↓reduceIte, listing_mapPositions]
    exact ⟨rfl, fun _ => rfl, .inl ⟨rfl, rfl, rfl⟩⟩
  | error e =>
    cases e with
    | fault f =>
      rw [hread, hfirst]
      exact ⟨rfl, fun _ => rfl, .inr (.inr ⟨rfl, rfl⟩)⟩
    | rejected d =>
      obtain ⟨d', hsecond, front, drawn, hreport, hreport'⟩ := Program.report_apart label' hfirst
      have hsecond : Program.read ⟨label', options.strictness⟩ source = .error (.rejected d') := hsecond
      simp only [hsecond, hreport, hreport']
      cases drawn with
      | error fault => exact ⟨rfl, fun _ => rfl, .inr (.inr ⟨rfl, rfl⟩)⟩
      | ok back =>
        refine ⟨rfl, fun _ => rfl, .inr (.inl ⟨rfl, front, back ++ ['\n'], ?_, ?_⟩)⟩
        all_goals simp [Except.map]

end CommandLine

open CommandLine in
/-- **The label of a source is carried along and nothing looks at it.** Read under two labels, a source gives the same
program or the same failure, and leaves the same pieces pending and the same declarations accepted, apart from the
label in every position; the first reading has its own label in all of them. Where one gives a diagnostic, so does the
other, and their reports are the same but for the label on a line of its own, or neither can be drawn. On the command
line, without the tree and with flags for strictness on both sides or on neither, a file of UTF-8 text is answered as
the same text behind `-e`: exit code and standard output agree, and the two error outputs are empty, or differ in that
label, or are the same because no report can be drawn. -/
theorem alike_under_labels (source : Text) :
    (∀ (strictness : Strictness) (l m : Text),
      let first := (Session.start ⟨l, strictness⟩ source).read
      let second := (Session.start ⟨m, strictness⟩ source).read
      second = Session.relabelRun m first ∧ (∀ p ∈ Session.runPositions first, p.label = l) ∧
        ∀ d, first.2 = .error (.rejected d) → ∃ d', second.2 = .error (.rejected d') ∧
          ∃ (front : Text) (drawn : Except Fault Text),
            d.report source = drawn.map (fun back => front ++ "\n-> ".toList ++ l ++ '\n' :: back) ∧
            d'.report source = drawn.map (fun back => front ++ "\n-> ".toList ++ m ++ '\n' :: back)) ∧
      ∀ (files : Text → Except FileError ByteArray) (path flag : Text) (before behind before' behind' : List Text),
        path.head? ≠ some '-' → files path = .ok source.utf8Encode → flag ∈ Flag.eval.spellings →
        (∀ a ∈ before ++ behind, a ∈ Flag.strict.spellings) → (∀ a ∈ before' ++ behind', a ∈ Flag.strict.spellings) →
        (before ++ behind = [] ↔ before' ++ behind' = []) →
        (run files (before ++ path :: behind)).ApartFromLabel path shellLabel
          (run files (before' ++ flag :: source :: behind')) := by
  refine ⟨?_, ?_⟩
  · intro strictness l m first second
    have hfirst : first = Session.relabelRun l first := Session.read_start_relabel l ⟨l, strictness⟩ source
    have hsecond : second = Session.relabelRun m first := Session.read_start_relabel m ⟨l, strictness⟩ source
    refine ⟨hsecond, ?_, ?_⟩
    · intro p hp
      rw [hfirst] at hp
      exact Session.label_of_mem_runPositions hp
    · intro d hd
      exact Program.report_apart m hd
  · intro files path flag before behind before' behind' hpath hfile hflag hstrict hstrict' hboth
    have hitem : ∀ rest, Item.cut ([path] ++ rest) = .input (.file path) :: Item.cut rest := Item.cut_path hpath
    have hitem' : ∀ rest, Item.cut ([flag, source] ++ rest) = .input (.inline source) :: Item.cut rest :=
      Item.cut_eval hflag source
    have hask := Request.ofArguments_of_input hitem hstrict
    have hask' := Request.ofArguments_of_input hitem' hstrict'
    have hselects : Selects files (before ++ path :: behind) _ source := ⟨hask, .file hfile⟩
    have hselects' : Selects files (before' ++ flag :: source :: behind') _ source := ⟨hask', .inline source⟩
    rw [run_of_selects hselects, run_of_selects hselects']
    have hsame : (if before' ++ behind' = [] then Strictness.lenient else Strictness.strict) =
        if before ++ behind = [] then .lenient else .strict := by
      simp only [hboth]
    exact respond_apart hsame rfl rfl path shellLabel source

open CommandLine in
/-- a second piece with an unknown keyword, in a file called `f` and as an argument, read strictly -/
theorem alike_under_labels_of_unknown_keyword :
    let source : Text := "let a = 1; \u00e9 b = 2".toList
    let files : Text → Except FileError ByteArray := fun path =>
      if path = "f".toList then .ok source.utf8Encode else .error .missing
    let fromFile := run files ["-s".toList, "f".toList]
    let fromArgument := run files ["-e".toList, source, "--strict".toList]
    fromArgument.exitCode = 1 ∧ fromFile.ApartFromLabel "f".toList shellLabel fromArgument := by
  intro source files fromFile fromArgument
  have hexit : fromArgument.exitCode = 1 := by decide +kernel
  refine ⟨hexit, ?_⟩
  exact (alike_under_labels source).2 files "f".toList "-e".toList ["-s".toList] [] [] ["--strict".toList] (by decide)
    (if_pos rfl) (by decide) (by decide) (by decide) (by decide)

end VarDecl
