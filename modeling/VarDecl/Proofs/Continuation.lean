/-
Where a session stops, and how it goes on.

Each piece of a source has a reading of its own (`Session.readings`), apart from any session. A session reads them in
order and stops at the first that fails (`Session.FailsFirst`). What it holds then, and whatever is asked of it later,
is told by the list of pieces, the list of readings and the index of the failure.

A call changes nothing but the pending pieces, and only `Call.advance` changes these, by one (`call_step`). So after any
calls as many pieces are gone as there were calls of `Call.advance` (`after_calls`).

Result:
- `Session.stops_at_first_failure`: without a failure, all readings make up the program and the session is used up;
  otherwise the session fails as the first reading that does, holds the ones before it, and gives out the pieces behind
  it, one for each `Call.advance`, whatever else is called in between.
-/
import VarDecl.Call
import VarDecl.Proofs.Session

namespace VarDecl

namespace Session

/-! ## Calls -/

/-- a call takes at most the next piece out, and leaves everything else as it is -/
theorem call_step (s : Session) (c : Call) :
    (s.call c).2.pending = s.pending.drop ([c].count .advance) ∧ (s.call c).2.accepted = s.accepted := by
  cases c with
  | advance =>
    simp only [call, advance]
    cases hpending : s.pending with
    | nil => exact ⟨hpending, rfl⟩
    | cons piece pending => exact ⟨rfl, rfl⟩
  | _ => exact ⟨rfl, rfl⟩

/-- after any calls, the pieces that `Call.advance` was called for are gone, and the accepted declarations are the same -/
theorem after_calls (s : Session) (calls : List Call) :
    (s.after calls).pending = s.pending.drop (calls.count .advance) ∧ (s.after calls).accepted = s.accepted := by
  induction calls generalizing s with
  | nil => exact ⟨rfl, rfl⟩
  | cons c calls ih =>
    obtain ⟨hpending, haccepted⟩ := call_step s c
    obtain ⟨hrest, hkept⟩ := ih (s.call c).2
    refine ⟨?_, hkept.trans haccepted⟩
    have hcount : (c :: calls).count .advance = [c].count .advance + calls.count .advance := by
      rw [← List.singleton_append, List.count_append]
    rw [hcount, ← List.drop_drop, ← hpending]
    exact hrest

theorem advance_fst (s : Session) : s.advance.1 = s.pending.head? := by
  unfold advance
  cases s.pending with
  | nil => rfl
  | cons piece pending => rfl

theorem hasPending_eq (s : Session) : s.hasPending = s.pending.head?.isSome := by
  unfold hasPending
  cases s.pending with
  | nil => rfl
  | cons piece pending => rfl

/-- what is answered after any calls: the next of the pending pieces, whether there is one, and what was accepted before -/
theorem answers_after_calls (s : Session) (calls : List Call) :
    let next := s.pending[calls.count .advance]?
    ((s.after calls).call .advance).1 = .next next ∧ ((s.after calls).call .hasPending).1 = .pending next.isSome ∧
      ((s.after calls).call .accepted).1 = .accepted s.accepted := by
  intro next
  obtain ⟨hpending, haccepted⟩ := after_calls s calls
  have hnext : (s.after calls).pending.head? = next := by rw [hpending, List.head?_drop]
  refine ⟨?_, ?_, ?_⟩
  · simp only [call, advance_fst, hnext]
  · simp only [call, hasPending_eq, hnext]
  · simp only [call, haccepted]

/-! ## Readings -/

/-- what the pieces of a source are read as, each on its own -/
def readings (setting : Setting) (source : Text) : List (Except Failure Declaration) :=
  (Piece.ofSource source).map (Declaration.read setting)

/-- the reading at an index fails, and none before it does -/
structure FailsFirst (rs : List (Except Failure Declaration)) (i : Nat) (e : Failure) : Prop where
  fails : rs[i]? = some (.error e)
  before : ∀ j < i, ∃ d, rs[j]? = some (.ok d)

theorem FailsFirst.head (e : Failure) (rs : List (Except Failure Declaration)) : FailsFirst (.error e :: rs) 0 e :=
  ⟨rfl, fun _ hj => absurd hj (Nat.not_lt_zero _)⟩

theorem FailsFirst.cons {rs : List (Except Failure Declaration)} {i : Nat} {e : Failure} (h : FailsFirst rs i e)
    (d : Declaration) : FailsFirst (.ok d :: rs) (i + 1) e := by
  refine ⟨h.fails, fun j hj => ?_⟩
  cases j with
  | zero => exact ⟨d, rfl⟩
  | succ j => exact h.before j (Nat.lt_of_succ_lt_succ hj)

/-- readings all succeed, or there is a first one that fails -/
theorem all_ok_or_failsFirst (rs : List (Except Failure Declaration)) :
    (∀ r ∈ rs, ∃ d, r = .ok d) ∨ ∃ i e, FailsFirst rs i e := by
  induction rs with
  | nil => exact .inl (by simp)
  | cons r rs ih =>
    cases r with
    | error e => exact .inr ⟨0, e, .head e rs⟩
    | ok d =>
      rcases ih with hall | ⟨i, e, hfails⟩
      · exact .inl (List.forall_mem_cons.2 ⟨⟨d, rfl⟩, hall⟩)
      · exact .inr ⟨i + 1, e, hfails.cons d⟩

end Session

/-- pieces are accepted as the declarations that their readings are -/
theorem accepts_iff {setting : Setting} {pieces : List Piece} {ds : List Declaration} :
    Accepts setting pieces ds ↔ pieces.map (Declaration.read setting) = ds.map .ok := by
  rw [Accepts, ← List.forall₂_eq_eq_eq, List.forall₂_map_left_iff, List.forall₂_map_right_iff]

/-- readings that all succeed are those of a list of declarations -/
theorem exists_map_ok_eq {rs : List (Except Failure Declaration)} (h : ∀ r ∈ rs, ∃ d, r = .ok d) :
    ∃ ds : List Declaration, rs = ds.map .ok := by
  induction rs with
  | nil => exact ⟨[], rfl⟩
  | cons r rs ih =>
    obtain ⟨⟨d, rfl⟩, hrest⟩ := List.forall_mem_cons.1 h
    obtain ⟨ds, rfl⟩ := ih hrest
    exact ⟨d :: ds, rfl⟩

namespace Session

variable {setting : Setting} {source : Text} {i : Nat} {e : Failure}

/-- the declarations in front of the first failure -/
theorem FailsFirst.exists_take_eq {rs : List (Except Failure Declaration)} (h : FailsFirst rs i e) :
    ∃ ds : List Declaration, rs.take i = ds.map .ok := by
  apply exists_map_ok_eq
  intro r hr
  obtain ⟨j, hj, rfl⟩ := List.mem_take_iff_getElem.1 hr
  obtain ⟨d, hd⟩ := h.before j (by omega)
  exact ⟨d, (List.getElem?_eq_some_iff.1 hd).2⟩

/-- a session whose readings all succeed makes them its program -/
theorem read_of_readings_eq {ds : List Declaration} (h : readings setting source = ds.map .ok) :
    (start setting source).read =
      ({ setting, pending := [], sourceLength := source.byteLength },
        .ok ⟨ds, .ofOffsets setting.label 0 source.byteLength⟩) :=
  read_of_accepts (accepts_iff.2 h)

/-- a session fails as the first reading that does -/
theorem FailsFirst.read_eq (h : FailsFirst (readings setting source) i e) :
    ∃ ds : List Declaration, (readings setting source).take i = ds.map .ok ∧
      (start setting source).read =
        ({ setting, pending := (Piece.ofSource source).drop (i + 1), accepted := ds.toArray,
           sourceLength := source.byteLength }, .error e) := by
  obtain ⟨ds, hds⟩ := h.exists_take_eq
  obtain ⟨failing, hfailing, he⟩ : ∃ piece, (Piece.ofSource source)[i]? = some piece ∧
      Declaration.read setting piece = .error e := by
    have hfails := h.fails
    rwa [readings, List.getElem?_map, Option.map_eq_some_iff] at hfails
  obtain ⟨hi, rfl⟩ := List.getElem?_eq_some_iff.1 hfailing
  have hsplit : Piece.ofSource source = (Piece.ofSource source).take i ++
      (Piece.ofSource source)[i] :: (Piece.ofSource source).drop (i + 1) := by
    rw [← List.drop_eq_getElem_cons hi, List.take_append_drop]
  have hbefore : Accepts setting ((Piece.ofSource source).take i) ds := by
    rw [accepts_iff, List.map_take]
    exact hds
  exact ⟨ds, hds, read_of_fails hsplit hbefore he⟩

/-! ## The whole session -/

/-- **A session stops at the first failure and loses no piece.** Every piece can be read, or there is a first reading that
fails. If every piece can be read, the program holds exactly these readings in order, one more than there are semicolons,
and the session has nothing accepted and, after any calls, nothing to give out. If the reading at index `i` is the first
to fail, the session fails as it does and holds exactly the readings before it; and after any calls, the next piece is the
one at index `i + 1` and as many further as `Call.advance` was called, `Call.hasPending` says whether there is one, and
the accepted declarations are still the same. -/
theorem stops_at_first_failure (setting : Setting) (source : Text) :
    let pieces := Piece.ofSource source
    let session := (start setting source).read.1
    let result := (start setting source).read.2
    ((∀ r ∈ readings setting source, ∃ d, r = .ok d) ∨ ∃ i e, FailsFirst (readings setting source) i e) ∧
      ((∀ r ∈ readings setting source, ∃ d, r = .ok d) →
        (∃ p, result = .ok p ∧ p.body.map .ok = readings setting source ∧ p.body.length = 1 + source.count ';') ∧
          session.accepted = #[] ∧ ∀ calls, ((session.after calls).call .advance).1 = .next none) ∧
      ∀ i e, FailsFirst (readings setting source) i e →
        result = .error e ∧ session.accepted.toList.map .ok = (readings setting source).take i ∧
          ∀ calls,
            let next := pieces[i + 1 + calls.count .advance]?
            ((session.after calls).call .advance).1 = .next next ∧
              ((session.after calls).call .hasPending).1 = .pending next.isSome ∧
              ((session.after calls).call .accepted).1 = .accepted session.accepted := by
  intro pieces session result
  refine ⟨all_ok_or_failsFirst _, fun hall => ?_, fun i e hfails => ?_⟩
  · obtain ⟨ds, hds⟩ := exists_map_ok_eq hall
    simp only [session, result]
    rw [read_of_readings_eq hds]
    have hlength : ds.length = 1 + source.count ';' := by
      have hcount := congrArg List.length hds
      rw [readings, List.length_map, List.length_map, Piece.length_ofSource] at hcount
      exact hcount.symm.trans (Nat.add_comm _ _)
    exact ⟨⟨_, rfl, hds.symm, hlength⟩, rfl, fun calls => (answers_after_calls _ calls).1⟩
  · obtain ⟨ds, hds, hread⟩ := hfails.read_eq
    simp only [session, result]
    rw [hread]
    refine ⟨rfl, hds.symm, fun calls => ?_⟩
    have hanswers := answers_after_calls
      { setting, pending := pieces.drop (i + 1), accepted := ds.toArray, sourceLength := source.byteLength } calls
    rwa [List.getElem?_drop] at hanswers

/-- the second piece has no keyword; the pieces behind it are given out one by one, whatever is read in between -/
theorem stops_at_first_failure_at_keyword :
    let source : Text := "let a = 1; b;var c = 2; d".toList
    let session := (start .shell source).read.1
    let calls : List Call := [.hasPending, .advance, .readDeclaration ⟨"let x = 1".toList, 7⟩]
    FailsFirst (readings .shell source) 1 (.rejected ⟨.missingKeyword "b".toList, ⟨11, shellLabel⟩⟩) ∧
      ((session.after calls).call .advance).1 = .next (some ⟨" d".toList, 23⟩) := by
  intro source session calls
  have hfails : FailsFirst (readings .shell source) 1 (.rejected ⟨.missingKeyword "b".toList, ⟨11, shellLabel⟩⟩) := by
    refine ⟨rfl, fun j hj => ?_⟩
    obtain rfl : j = 0 := by omega
    exact ⟨_, rfl⟩
  exact ⟨hfails, (((stops_at_first_failure .shell source).2.2 1 _ hfails).2.2 calls).1⟩

end Session

end VarDecl
