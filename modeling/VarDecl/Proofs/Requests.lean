/-
Which request a list of arguments makes, told by its items.

Arguments are spelled by items (`Item.SpelledBy`), and by one list of items only, the one that they are cut into. A
request is settled by the first terminator among the items; if there is none, by the inputs in their order and by
whether there are flags of each kind. So a flag may be moved past whole items and repeated. Past single arguments it
may not: the one behind `-e` is a source, whatever it looks like, and a flag that gets there is none any more.

Results:
- `Item.spelledBy_iff`: arguments are spelled by the items that they are cut into, and by no others.
- `Item.cut_append`: where nothing is settled yet, further arguments add their own items.
- `Draft.extend_eq`: the first terminator among the items decides; without one the items set the options, and the last
  input counts.
- `Request.options_eq`: the options of a request that is answered, read off the items.
- `Request.ofArguments_congr`: items that set the same options make the same request.
- `Request.read_off_items`: all this together, request by request.
-/
import Mathlib.Data.List.Basic
import VarDecl.CommandLine.Item

namespace VarDecl.CommandLine

/-! ## Flags -/

theorem Flag.ofText?_spelling {t : Text} {f : Flag} (h : t ∈ f.spellings) : Flag.ofText? t = some f := by
  cases f
  all_goals
    simp only [spellings, List.mem_cons, List.not_mem_nil, or_false] at h
    rcases h with rfl | rfl
    all_goals decide

theorem Flag.mem_spellings {t : Text} {f : Flag} (h : Flag.ofText? t = some f) : t ∈ f.spellings := by
  unfold ofText? at h
  split_ifs at h with hhelp hstrict htree heval
  all_goals
    cases h
    simp only [spellings, List.mem_cons, List.not_mem_nil, or_false]
  · exact hhelp.symm
  · exact hstrict.symm
  · exact htree.symm
  · exact heval.symm

/-- a flag is what is spelled as one -/
theorem Flag.ofText?_eq_some_iff {t : Text} {f : Flag} : Flag.ofText? t = some f ↔ t ∈ f.spellings :=
  ⟨mem_spellings, ofText?_spelling⟩

/-- what is one flag is no other -/
theorem Flag.notMem_spellings {t : Text} {f g : Flag} (h : t ∈ f.spellings) (hne : f ≠ g) : t ∉ g.spellings := by
  intro hg
  rw [← Flag.ofText?_eq_some_iff] at h hg
  exact hne (Option.some.inj (h.symm.trans hg))

/-! ## Items -/

namespace Item

theorem cut_cons {argument : Text} (h : argument ∉ Flag.eval.spellings) (rest : List Text) :
    cut (argument :: rest) = ofArgument argument :: cut rest := by
  cases rest <;> simp [cut, h]

theorem cut_eval {flag : Text} (h : flag ∈ Flag.eval.spellings) (source : Text) (rest : List Text) :
    cut (flag :: source :: rest) = input (.inline source) :: cut rest := by
  simp [cut, h]

/-- an argument that does not begin with a dash names a file -/
theorem cut_path {path : Text} (h : path.head? ≠ some '-') (rest : List Text) :
    cut (path :: rest) = input (.file path) :: cut rest := by
  have hplain : ∀ f : Flag, path ∉ f.spellings := by
    intro f hmem
    apply h
    cases f
    all_goals
      simp only [Flag.spellings, List.mem_cons, List.not_mem_nil, or_false] at hmem
      rcases hmem with rfl | rfl
      all_goals rfl
  rw [cut_cons (hplain .eval)]
  simp [ofArgument, hplain, h]

/-! ## Spelling -/

/-- The arguments that items are spelled by, one item after another. Only at the end can a flag for a source be without
one. -/
inductive SpelledBy : List Item → List Text → Prop where
  | nil : SpelledBy [] []
  | help {argument : Text} {items : List Item} {rest : List Text} : argument ∈ Flag.help.spellings →
      SpelledBy items rest → SpelledBy (.help :: items) (argument :: rest)
  | strict {argument : Text} {items : List Item} {rest : List Text} : argument ∈ Flag.strict.spellings →
      SpelledBy items rest → SpelledBy (.strict :: items) (argument :: rest)
  | tree {argument : Text} {items : List Item} {rest : List Text} : argument ∈ Flag.tree.spellings →
      SpelledBy items rest → SpelledBy (.tree :: items) (argument :: rest)
  | source {flag source : Text} {items : List Item} {rest : List Text} : flag ∈ Flag.eval.spellings →
      SpelledBy items rest → SpelledBy (.input (.inline source) :: items) (flag :: source :: rest)
  | noSource {flag : Text} : flag ∈ Flag.eval.spellings → SpelledBy [.mistake (.missingSource flag)] [flag]
  | unknown {argument : Text} {items : List Item} {rest : List Text} : argument.head? = some '-' →
      (∀ f : Flag, argument ∉ f.spellings) → SpelledBy items rest →
      SpelledBy (.mistake (.unknownFlag argument) :: items) (argument :: rest)
  | path {path : Text} {items : List Item} {rest : List Text} : path.head? ≠ some '-' →
      SpelledBy items rest → SpelledBy (.input (.file path) :: items) (path :: rest)

theorem SpelledBy.eq_cut {items : List Item} {arguments : List Text} (h : SpelledBy items arguments) :
    items = cut arguments := by
  induction h with
  | nil => rfl
  | help hflag _ ih => rw [cut_cons (Flag.notMem_spellings hflag (by decide)), ← ih, ofArgument, if_pos hflag]
  | strict hflag _ ih =>
    rw [cut_cons (Flag.notMem_spellings hflag (by decide)), ← ih, ofArgument,
      if_neg (Flag.notMem_spellings hflag (by decide)), if_pos hflag]
  | tree hflag _ ih =>
    rw [cut_cons (Flag.notMem_spellings hflag (by decide)), ← ih, ofArgument,
      if_neg (Flag.notMem_spellings hflag (by decide)), if_neg (Flag.notMem_spellings hflag (by decide)), if_pos hflag]
  | source hflag _ ih => rw [cut_eval hflag, ← ih]
  | noSource hflag => rw [cut, if_pos hflag]
  | unknown hdash hno _ ih =>
    rw [cut_cons (hno .eval), ← ih, ofArgument, if_neg (hno .help), if_neg (hno .strict), if_neg (hno .tree),
      if_pos hdash]
  | path hpath _ ih => rw [cut_path hpath, ← ih]

theorem spelledBy_cut (arguments : List Text) : SpelledBy (cut arguments) arguments := by
  induction arguments using cut.induct with
  | case1 => exact .nil
  | case2 flag hflag =>
    rw [cut, if_pos hflag]
    exact .noSource hflag
  | case3 flag hflag source rest ih =>
    rw [cut_eval hflag]
    exact .source hflag ih
  | case4 argument rest heval ih =>
    rw [cut_cons heval, ofArgument]
    split_ifs with hhelp hstrict htree hdash
    · exact .help hhelp ih
    · exact .strict hstrict ih
    · exact .tree htree ih
    · refine .unknown hdash (fun f => ?_) ih
      cases f with
      | help => exact hhelp
      | strict => exact hstrict
      | tree => exact htree
      | eval => exact heval
    · exact .path hdash ih

/-- **Arguments are spelled by the items that they are cut into, and by no others.** -/
theorem spelledBy_iff {items : List Item} {arguments : List Text} :
    SpelledBy items arguments ↔ items = cut arguments :=
  ⟨SpelledBy.eq_cut, fun h => h ▸ spelledBy_cut arguments⟩

/-! ## Terminators -/

/-- no item is a terminator -/
def Undecided (items : List Item) : Prop := ∀ i ∈ items, i.verdict? = none

instance (items : List Item) : Decidable (Undecided items) := by
  unfold Undecided; infer_instance

/-- an item is a terminator, and none stands in front of it -/
def FirstTerminator (items : List Item) (t : Item) : Prop :=
  t.verdict? ≠ none ∧ ∃ before behind, items = before ++ t :: behind ∧ Undecided before

theorem FirstTerminator.mem {items : List Item} {t : Item} (h : FirstTerminator items t) : t ∈ items := by
  obtain ⟨-, before, behind, rfl, -⟩ := h
  exact List.mem_append_cons_self

theorem undecided_cons {i : Item} {items : List Item} :
    Undecided (i :: items) ↔ i.verdict? = none ∧ Undecided items :=
  List.forall_mem_cons

theorem undecided_iff {items : List Item} : Undecided items ↔ items.findSome? verdict? = none :=
  List.findSome?_eq_none_iff.symm

/-- the first verdict is the one of the first terminator -/
theorem findSome?_verdict?_eq_some_iff {items : List Item} {verdict : Except ArgumentError Request} :
    items.findSome? verdict? = some verdict ↔ ∃ t, FirstTerminator items t ∧ t.verdict? = some verdict := by
  rw [List.findSome?_eq_some_iff]
  refine ⟨?_, ?_⟩
  · rintro ⟨before, t, behind, hitems, ht, hbefore⟩
    have hsettles : t.verdict? ≠ none := by simp [ht]
    exact ⟨t, ⟨hsettles, before, behind, hitems, hbefore⟩, ht⟩
  · rintro ⟨t, ⟨-, before, behind, hitems, hbefore⟩, ht⟩
    exact ⟨before, t, behind, hitems, ht, hbefore⟩

theorem verdict?_eq_help_iff {i : Item} : i.verdict? = some (.ok .help) ↔ i = .help := by
  cases i <;> simp [verdict?]

theorem verdict?_eq_error_iff {i : Item} {e : ArgumentError} : i.verdict? = some (.error e) ↔ i = .mistake e := by
  cases i <;> simp [verdict?]

/-- no terminator asks for a reading -/
theorem verdict?_ne_read (i : Item) (options : Options) : i.verdict? ≠ some (.ok (.read options)) := by
  intro h
  cases i
  all_goals cases h

/-- no item complains that there is no input -/
theorem SpelledBy.missingInput_notMem {items : List Item} {arguments : List Text} (h : SpelledBy items arguments) :
    mistake .missingInput ∉ items := by
  induction h with
  | nil | noSource => simp
  | help _ _ ih | strict _ _ ih | tree _ _ ih | source _ _ ih | unknown _ _ _ ih | path _ _ ih => simp [ih]

/-- while nothing is settled, no flag is left without a source, so that further arguments are read on their own -/
theorem SpelledBy.append {items others : List Item} {before behind : List Text} (h : SpelledBy items before)
    (hundecided : Undecided items) (hbehind : SpelledBy others behind) :
    SpelledBy (items ++ others) (before ++ behind) := by
  induction h with
  | nil => exact hbehind
  -- among them the flag without a source, which would take the first of the further arguments for one
  | help | noSource | unknown => cases (undecided_cons.1 hundecided).1
  | strict hflag _ ih => exact .strict hflag (ih (undecided_cons.1 hundecided).2)
  | tree hflag _ ih => exact .tree hflag (ih (undecided_cons.1 hundecided).2)
  | source hflag _ ih => exact .source hflag (ih (undecided_cons.1 hundecided).2)
  | path hpath _ ih => exact .path hpath (ih (undecided_cons.1 hundecided).2)

/-- **Where nothing is settled yet, further arguments add their own items.** -/
theorem cut_append {before : List Text} (h : Undecided (cut before)) (behind : List Text) :
    cut (before ++ behind) = cut before ++ cut behind :=
  (((spelledBy_cut before).append h (spelledBy_cut behind)).eq_cut).symm

/-! ## Items that set the same options -/

/-- the same inputs in the same order, and flags of the same kinds, wherever they stand and however many there are -/
structure SameOptions (items others : List Item) : Prop where
  inputs : items.filterMap input? = others.filterMap input?
  strict : Item.strict ∈ items ↔ Item.strict ∈ others
  tree : Item.tree ∈ items ↔ Item.tree ∈ others

/-- an item that is a flag for an option -/
def IsSwitch (i : Item) : Prop := i = .strict ∨ i = .tree

namespace IsSwitch

variable {i : Item} (h : i.IsSwitch)
include h

theorem verdict?_eq_none : i.verdict? = none := by
  rcases h with rfl | rfl <;> rfl

theorem input?_eq_none : i.input? = none := by
  rcases h with rfl | rfl <;> rfl

theorem sameOptions_moved (before between behind : List Item) :
    SameOptions (before ++ i :: (between ++ behind)) (before ++ (between ++ i :: behind)) where
  inputs := by simp [h.input?_eq_none]
  strict := by simp [or_left_comm]
  tree := by simp [or_left_comm]

theorem sameOptions_repeated (before between behind : List Item) :
    SameOptions (before ++ i :: (between ++ i :: behind)) (before ++ i :: (between ++ behind)) where
  inputs := by simp [h.input?_eq_none]
  strict := by simp [or_left_comm]
  tree := by simp [or_left_comm]

/-- a flag settles nothing -/
theorem findSome?_verdict? (items others : List Item) :
    (items ++ i :: others).findSome? verdict? = (items ++ others).findSome? verdict? := by
  rw [List.findSome?_append, List.findSome?_cons, h.verdict?_eq_none, List.findSome?_append]

theorem cut_switch {flag : Text} (hflag : SpelledBy [i] [flag]) (rest : List Text) :
    cut (flag :: rest) = i :: cut rest := by
  have hundecided : Undecided (cut [flag]) := by
    rw [← hflag.eq_cut]
    exact List.forall_mem_singleton.2 h.verdict?_eq_none
  have hcut := cut_append hundecided rest
  rw [← hflag.eq_cut] at hcut
  exact hcut

end IsSwitch

theorem cut_strict {flags : List Text} (h : ∀ a ∈ flags, a ∈ Flag.strict.spellings) (rest : List Text) :
    cut (flags ++ rest) = List.replicate flags.length strict ++ cut rest := by
  induction flags with
  | nil => rfl
  | cons a flags ih =>
    obtain ⟨ha, hflags⟩ := List.forall_mem_cons.1 h
    have hswitch : IsSwitch strict := .inl rfl
    rw [List.cons_append, hswitch.cut_switch (.strict ha .nil), ih hflags]
    rfl

end Item

/-! ## Drafts -/

namespace Draft

theorem after_nil (d : Draft) : d.after [] = d := by
  simp [after]

/-- the options of items, set one after another -/
theorem after_cons (d : Draft) (i : Item) (items : List Item) : d.after (i :: items) = (d.after [i]).after items := by
  cases i
  all_goals simp [after, Item.input?, List.getLast?_cons]

/-- an argument that takes none behind it along, read into a draft -/
theorem extend_cons (d : Draft) {argument : Text} (h : argument ∉ Flag.eval.spellings) (rest : List Text) :
    d.extend (argument :: rest) =
      ((Item.ofArgument argument).verdict?).getD ((d.after [Item.ofArgument argument]).extend rest) := by
  have hflag : ∀ f : Flag, argument ∈ f.spellings ↔ Flag.ofText? argument = some f := fun _ =>
    Flag.ofText?_eq_some_iff.symm
  rw [hflag] at h
  rw [extend.eq_def]
  unfold Item.ofArgument
  simp only [hflag]
  cases hf : Flag.ofText? argument with
  | none =>
    by_cases hdash : argument.head? = some '-'
    · simp [hdash, Item.verdict?]
    · simp [hdash, Item.verdict?, after, Item.input?]
  | some f =>
    cases f with
    | eval => exact absurd hf h
    | help => simp [Item.verdict?]
    | strict => simp [Item.verdict?, after, Item.input?]
    | tree => simp [Item.verdict?, after, Item.input?]

/-- the first item decides, or the draft goes on with what it sets -/
theorem settle_cons (d : Draft) (i : Item) (items : List Item) :
    (((i :: items).findSome? Item.verdict?).getD (d.after (i :: items)).finish) =
      (i.verdict?).getD ((items.findSome? Item.verdict?).getD ((d.after [i]).after items).finish) := by
  rw [List.findSome?_cons, after_cons]
  cases i.verdict? <;> rfl

/-- **The first terminator decides; without one the items set the options.** -/
theorem extend_eq (d : Draft) (arguments : List Text) :
    d.extend arguments =
      ((Item.cut arguments).findSome? Item.verdict?).getD (d.after (Item.cut arguments)).finish := by
  induction arguments using Item.cut.induct generalizing d with
  | case1 => rw [Item.cut, after_nil]; rfl
  | case2 argument h =>
    rw [extend.eq_def]
    simp only [Flag.ofText?_eq_some_iff.2 h]
    simp [Item.cut, h, Item.verdict?]
  | case3 argument h source rest ih =>
    have hstep : d.extend (argument :: source :: rest) = (d.after [.input (.inline source)]).extend rest := by
      rw [extend.eq_def]
      simp [Flag.ofText?_eq_some_iff.2 h, after, Item.input?]
    rw [hstep, Item.cut_eval h, settle_cons, ih]
    rfl
  | case4 argument rest h ih => rw [extend_cons d h, Item.cut_cons h, settle_cons, ih]

/-- the draft that items make on their own -/
theorem after_default (items : List Item) :
    Draft.after {} items = ⟨if Item.strict ∈ items then .strict else .lenient, decide (Item.tree ∈ items),
      (items.filterMap Item.input?).getLast?⟩ := by
  simp only [after, Bool.false_or, Option.or_none]

theorem after_congr (d : Draft) {items others : List Item} (h : Item.SameOptions items others) :
    d.after items = d.after others := by
  simp only [after, h.inputs, h.strict, h.tree]

theorem finish_eq_error_iff {d : Draft} {e : ArgumentError} :
    d.finish = .error e ↔ d.input = none ∧ e = .missingInput := by
  unfold finish
  cases d.input <;> simp [eq_comm]

theorem finish_eq_read_iff {d : Draft} {options : Options} :
    d.finish = .ok (.read options) ↔ d.input = some options.input ∧ options.strictness = d.strictness ∧
      options.showTree = d.showTree := by
  obtain ⟨strictness, showTree, input⟩ := options
  unfold finish
  cases d.input with
  | none => simp
  | some i =>
    refine ⟨?_, ?_⟩
    · intro h
      cases h
      exact ⟨rfl, rfl, rfl⟩
    · rintro ⟨hinput, hstrict, htree⟩
      cases hinput
      cases hstrict
      cases htree
      rfl

theorem finish_ne_help (d : Draft) : d.finish ≠ .ok .help := by
  unfold finish
  cases d.input <;> simp

end Draft

/-! ## Requests -/

namespace Request

section Settled

variable {items : List Item} {arguments : List Text} (h : Item.SpelledBy items arguments)
include h

/-- **The first terminator settles the request, or else the draft of all items does.** -/
theorem ofArguments_eq_iff {verdict : Except ArgumentError Request} :
    ofArguments arguments = verdict ↔ (∃ t, Item.FirstTerminator items t ∧ t.verdict? = some verdict) ∨
      (Item.Undecided items ∧ (Draft.after {} items).finish = verdict) := by
  rw [ofArguments, Draft.extend_eq, ← h.eq_cut, ← Item.findSome?_verdict?_eq_some_iff, Item.undecided_iff]
  cases items.findSome? Item.verdict? with
  | none => simp
  | some v => simp

/-- what one item alone settles, and no draft, is settled by that item as the first terminator -/
theorem ofArguments_eq_iff_firstTerminator {verdict : Except ArgumentError Request} {t : Item}
    (ht : ∀ i : Item, i.verdict? = some verdict ↔ i = t) (hfinish : ∀ d : Draft, d.finish ≠ verdict) :
    ofArguments arguments = verdict ↔ Item.FirstTerminator items t := by
  rw [ofArguments_eq_iff h]
  refine ⟨?_, fun hfirst => .inl ⟨t, hfirst, (ht t).2 rfl⟩⟩
  rintro (⟨i, hi, hverdict⟩ | ⟨-, hdraft⟩)
  · exact (ht i).1 hverdict ▸ hi
  · exact absurd hdraft (hfinish _)

theorem ofArguments_eq_help_iff : ofArguments arguments = .ok .help ↔ Item.FirstTerminator items .help :=
  ofArguments_eq_iff_firstTerminator h (fun _ => Item.verdict?_eq_help_iff) Draft.finish_ne_help

/-- all complaints but one are those of an item -/
theorem ofArguments_eq_error_iff {e : ArgumentError} (he : e ≠ .missingInput) :
    ofArguments arguments = .error e ↔ Item.FirstTerminator items (.mistake e) := by
  apply ofArguments_eq_iff_firstTerminator h (fun _ => Item.verdict?_eq_error_iff)
  intro d hdraft
  exact he (Draft.finish_eq_error_iff.1 hdraft).2

theorem ofArguments_eq_missingInput_iff :
    ofArguments arguments = .error .missingInput ↔ Item.Undecided items ∧ items.filterMap Item.input? = [] := by
  rw [ofArguments_eq_iff h, Draft.finish_eq_error_iff, Draft.after_default, List.getLast?_eq_none_iff]
  refine ⟨?_, fun ⟨hundecided, hnone⟩ => .inr ⟨hundecided, hnone, rfl⟩⟩
  rintro (⟨t, ht, hverdict⟩ | ⟨hundecided, hnone, -⟩)
  · rw [Item.verdict?_eq_error_iff] at hverdict
    exact absurd (hverdict ▸ ht.mem) h.missingInput_notMem
  · exact ⟨hundecided, hnone⟩

theorem ofArguments_eq_read_iff {options : Options} :
    ofArguments arguments = .ok (.read options) ↔ Item.Undecided items ∧
      (items.filterMap Item.input?).getLast? = some options.input ∧
      options.strictness = (if Item.strict ∈ items then .strict else .lenient) ∧
      options.showTree = decide (Item.tree ∈ items) := by
  rw [ofArguments_eq_iff h, Draft.after_default, Draft.finish_eq_read_iff]
  refine ⟨?_, .inr⟩
  rintro (⟨t, -, hverdict⟩ | hread)
  · exact absurd hverdict (t.verdict?_ne_read options)
  · exact hread

end Settled

/-- an input among flags for strictness is read, strictly if there is such a flag -/
theorem ofArguments_of_input {before arguments behind : List Text} {i : Input}
    (hinput : ∀ rest, Item.cut (arguments ++ rest) = .input i :: Item.cut rest)
    (hflags : ∀ a ∈ before ++ behind, a ∈ Flag.strict.spellings) :
    ofArguments (before ++ (arguments ++ behind)) =
      .ok (.read ⟨if before ++ behind = [] then .lenient else .strict, false, i⟩) := by
  obtain ⟨hbefore, hbehind⟩ := List.forall_mem_append.1 hflags
  have hend : Item.cut behind = List.replicate behind.length .strict := by
    have hcut := Item.cut_strict hbehind []
    rw [List.append_nil, Item.cut, List.append_nil] at hcut
    exact hcut
  have hspelled : Item.SpelledBy (List.replicate before.length .strict ++
      Item.input i :: List.replicate behind.length .strict) (before ++ (arguments ++ behind)) := by
    rw [Item.spelledBy_iff, Item.cut_strict hbefore, hinput, hend]
  rw [ofArguments_eq_read_iff hspelled]
  refine ⟨?_, ?_, ?_, ?_⟩
  · simp [Item.undecided_iff, Item.verdict?]
  · rw [List.filterMap_append, List.filterMap_cons, List.filterMap_replicate_of_none rfl,
      List.filterMap_replicate_of_none rfl]
    rfl
  · have hstrict : Item.strict ∈ List.replicate before.length Item.strict ++
        Item.input i :: List.replicate behind.length Item.strict ↔ before ++ behind ≠ [] := by
      simp [imp_iff_not_or]
    simp only [hstrict, ne_eq, ite_not]
  · simp

/-- **Items that set the same options make the same request**, unless a terminator settles it otherwise. -/
theorem ofArguments_congr {arguments others : List Text}
    (hverdict : (Item.cut arguments).findSome? Item.verdict? = (Item.cut others).findSome? Item.verdict?)
    (hoptions : Item.SameOptions (Item.cut arguments) (Item.cut others)) :
    ofArguments arguments = ofArguments others := by
  rw [ofArguments, ofArguments, Draft.extend_eq, Draft.extend_eq, hverdict, Draft.after_congr {} hoptions]

section Switches

variable {before between : List Text} (hbefore : Item.Undecided (Item.cut before))
  (hbetween : Item.Undecided (Item.cut between)) {i : Item} (hi : i.IsSwitch) {flag again : Text}
  (hflag : Item.SpelledBy [i] [flag]) (hagain : Item.SpelledBy [i] [again])
include hbefore hbetween hi hflag hagain

/-- a flag is moved past whole items, and may be spelled in the other way there -/
theorem ofArguments_moved (behind : List Text) :
    ofArguments (before ++ flag :: (between ++ behind)) = ofArguments (before ++ (between ++ again :: behind)) := by
  apply ofArguments_congr
  all_goals
    rw [Item.cut_append hbefore, Item.cut_append hbefore, hi.cut_switch hflag, Item.cut_append hbetween,
      Item.cut_append hbetween, hi.cut_switch hagain]
  · rw [hi.findSome?_verdict?, ← List.append_assoc, ← List.append_assoc, hi.findSome?_verdict?]
  · exact hi.sameOptions_moved _ _ _

/-- a flag is repeated behind whole items -/
theorem ofArguments_repeated (behind : List Text) :
    ofArguments (before ++ flag :: (between ++ again :: behind)) =
      ofArguments (before ++ flag :: (between ++ behind)) := by
  apply ofArguments_congr
  all_goals
    rw [Item.cut_append hbefore, Item.cut_append hbefore, hi.cut_switch hflag, hi.cut_switch hflag,
      Item.cut_append hbetween, Item.cut_append hbetween, hi.cut_switch hagain]
  · rw [hi.findSome?_verdict?, hi.findSome?_verdict?, ← List.append_assoc, ← List.append_assoc,
      hi.findSome?_verdict?]
  · exact hi.sameOptions_repeated _ _ _

end Switches

/-- both demands or none -/
theorem ite_strict_lenient (p : Prop) [Decidable p] :
    (if p then Strictness.strict else .lenient) = ⟨decide p, decide p⟩ := by
  split_ifs with h
  · simp [h, Strictness.strict]
  · simp [h, Strictness.lenient]

/-- **The items tell the request.** The arguments are spelled by their items, and by no others. Help is given, and an
unknown flag or a flag without a source is complained of, exactly if the first terminator says so. Where there is no
terminator, it is complained that there is no input, exactly if no item is one; else the last input is read, with both
demands if there is a flag for them and with none otherwise, and with the tree if there is a flag for that. So without
terminators, arguments that set the same options make the same request. A flag can be moved past whole items, spelled
either way, and repeated behind them, whatever stands further right. -/
theorem read_off_items (arguments : List Text) :
    let items := Item.cut arguments
    let request := ofArguments arguments
    (∀ l, Item.SpelledBy l arguments ↔ l = items) ∧
      (request = .ok .help ↔ Item.FirstTerminator items .help) ∧
      (∀ argument, (request = .error (.unknownFlag argument) ↔
          Item.FirstTerminator items (.mistake (.unknownFlag argument))) ∧
        ArgumentError.message (.unknownFlag argument) = "Unknown flag: ".toList ++ argument) ∧
      (∀ flag, (request = .error (.missingSource flag) ↔
          Item.FirstTerminator items (.mistake (.missingSource flag))) ∧
        ArgumentError.message (.missingSource flag) = flag ++ " expects a source argument".toList) ∧
      ((request = .error .missingInput ↔ Item.Undecided items ∧ items.filterMap Item.input? = []) ∧
        ArgumentError.message .missingInput = "No input file specified".toList) ∧
      (∀ options, request = .ok (.read options) ↔ Item.Undecided items ∧
        (items.filterMap Item.input?).getLast? = some options.input ∧
        options.strictness = ⟨decide (.strict ∈ items), decide (.strict ∈ items)⟩ ∧
        options.showTree = decide (.tree ∈ items)) ∧
      (∀ others, Item.Undecided items → Item.Undecided (Item.cut others) →
        Item.SameOptions items (Item.cut others) → ofArguments others = request) ∧
      ∀ before between behind flag again i, Item.Undecided (Item.cut before) → Item.Undecided (Item.cut between) →
        i = .strict ∨ i = .tree → Item.SpelledBy [i] [flag] → Item.SpelledBy [i] [again] →
        arguments = before ++ flag :: (between ++ behind) →
        ofArguments (before ++ (between ++ again :: behind)) = request ∧
          ofArguments (before ++ flag :: (between ++ again :: behind)) = request := by
  intro items request
  have hspelled : Item.SpelledBy items arguments := Item.spelledBy_cut arguments
  refine ⟨fun l => Item.spelledBy_iff, ofArguments_eq_help_iff hspelled,
    fun argument => ⟨ofArguments_eq_error_iff hspelled nofun, rfl⟩,
    fun flag => ⟨ofArguments_eq_error_iff hspelled nofun, rfl⟩, ⟨ofArguments_eq_missingInput_iff hspelled, rfl⟩,
    fun options => ?_, ?_, ?_⟩
  · rw [ofArguments_eq_read_iff hspelled, ite_strict_lenient]
  · intro others hundecided hothers hsame
    apply Eq.symm
    apply ofArguments_congr _ hsame
    rw [Item.undecided_iff.1 hundecided, Item.undecided_iff.1 hothers]
  · intro before between behind flag again i hbefore hbetween hi hflag hagain harguments
    simp only [request, harguments]
    exact ⟨(ofArguments_moved hbefore hbetween hi hflag hagain behind).symm,
      ofArguments_repeated hbefore hbetween hi hflag hagain behind⟩

/-- a source that looks like a flag, an input that a later one replaces, flags moved and repeated in both spellings, and
an unknown flag in front of the one for help -/
theorem read_off_items_of_flaglike_source :
    let arguments : List Text := ["-e".toList, "-h".toList, "-s".toList, "f".toList]
    let others : List Text := ["--strict".toList, "--eval".toList, "-h".toList, "f".toList, "-s".toList]
    let refused : List Text := ["-t".toList, "-".toList, "--help".toList]
    Item.SameOptions (Item.cut arguments) (Item.cut others) ∧
      ofArguments arguments = .ok (.read ⟨.strict, false, .file "f".toList⟩) ∧
      ofArguments others = ofArguments arguments ∧
      ofArguments ["-e".toList, "-h".toList, "f".toList, "--strict".toList] = ofArguments arguments ∧
      ofArguments refused = .error (.unknownFlag "-".toList) := by
  intro arguments others refused
  have hsame : Item.SameOptions (Item.cut arguments) (Item.cut others) := ⟨by decide, by decide, by decide⟩
  have hfirst : Item.FirstTerminator (Item.cut refused) (.mistake (.unknownFlag "-".toList)) :=
    ⟨nofun, [.tree], [.help], by decide, by decide⟩
  obtain ⟨-, -, -, -, -, hread, hothers, hmoved⟩ := read_off_items arguments
  obtain ⟨-, -, hunknown, -⟩ := read_off_items refused
  refine ⟨hsame, (hread _).2 ?_, hothers others (by decide) (by decide) hsame, ?_, (hunknown _).1.2 hfirst⟩
  · decide
  · exact (hmoved ["-e".toList, "-h".toList] ["f".toList] [] "-s".toList "--strict".toList .strict (by decide)
      (by decide) (.inl rfl) (.strict (by decide) .nil) (.strict (by decide) .nil) rfl).1

end Request

end VarDecl.CommandLine
