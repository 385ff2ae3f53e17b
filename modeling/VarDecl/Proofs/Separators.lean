/-
Texts with a separator behind each.

The pieces of a source are the texts between its semicolons, the lines of a source those between its line feeds. What
holds of both is here for any separator: a text, cut at a separator and ended by one more, is the texts that it was cut
into with a separator behind each (`Text.ended_splitOn`). So a text is some whole texts and the beginning of one more
(`Text.exists_ended`), and what stands in front of one of several joined texts is told by those in front of it
(`Text.intercalate_append_cons`).
-/
import Mathlib.Data.List.Basic
import VarDecl.Text.Basic

namespace VarDecl.Text

variable {sep : Char}

/-! ## Joined texts -/

/-- joined texts begin with the first of them -/
theorem exists_intercalate_cons (sep t : Text) (ts : List Text) : ∃ x, sep.intercalate (t :: ts) = t ++ x := by
  cases ts with
  | nil => exact ⟨[], by simp⟩
  | cons u ts => exact ⟨sep ++ sep.intercalate (u :: ts), by rw [List.intercalate_cons_cons, List.append_assoc]⟩

/-- what a text is cut into has no separator in it -/
theorem notMem_of_mem_splitOn {t u : Text} (h : u ∈ t.splitOn sep) : sep ∉ u := by
  induction t generalizing u with
  | nil =>
    rw [List.splitOn_nil, List.mem_singleton] at h
    simp [h]
  | cons c t ih =>
    rw [List.splitOn_cons_eq_if_modifyHead] at h
    split at h
    · rcases List.mem_cons.1 h with rfl | h
      · simp
      · exact ih h
    · rename_i hc
      obtain ⟨v, vs, hvs⟩ := List.exists_cons_of_ne_nil (List.splitOn_ne_nil sep t)
      rw [hvs] at ih
      rw [hvs, List.modifyHead_cons] at h
      rcases List.mem_cons.1 h with rfl | h
      · have hne : sep ≠ c := fun heq => hc (beq_iff_eq.2 heq.symm)
        exact List.not_mem_cons_of_ne_of_not_mem hne (ih List.mem_cons_self)
      · exact ih (List.mem_cons_of_mem v h)

/-! ## Ended texts -/

/-- texts with a separator behind each -/
def ended (sep : Char) (ts : List Text) : Text := ts.flatMap (· ++ [sep])

@[simp] theorem ended_nil : ended sep [] = [] := rfl

@[simp] theorem ended_cons (t : Text) (ts : List Text) : ended sep (t :: ts) = t ++ sep :: ended sep ts := by
  simp [ended]

@[simp] theorem ended_append (ts us : List Text) : ended sep (ts ++ us) = ended sep ts ++ ended sep us :=
  List.flatMap_append

/-- ended texts are joined texts with a separator behind the last -/
theorem ended_eq {ts : List Text} (h : ts ≠ []) : ended sep ts = [sep].intercalate ts ++ [sep] := by
  induction ts with
  | nil => exact absurd rfl h
  | cons t ts ih =>
    cases ts with
    | nil => simp
    | cons u ts =>
      rw [ended_cons, ih (List.cons_ne_nil u ts), List.intercalate_cons_cons]
      simp

/-- **What a text is cut into, ended, is the text, ended.** -/
theorem ended_splitOn (sep : Char) (t : Text) : ended sep (t.splitOn sep) = t ++ [sep] := by
  rw [ended_eq (List.splitOn_ne_nil sep t), List.intercalate_splitOn]

/-- in front of one of several joined texts stand those in front of it, ended -/
theorem intercalate_append_cons (ts : List Text) (u : Text) (us : List Text) :
    [sep].intercalate (ts ++ u :: us) = ended sep ts ++ [sep].intercalate (u :: us) := by
  have hended : ended sep (ts ++ u :: us) = [sep].intercalate (ts ++ u :: us) ++ [sep] := ended_eq (by simp)
  rw [ended_append, ended_eq (List.cons_ne_nil u us), ← List.append_assoc] at hended
  exact (List.append_cancel_right hended).symm

/-- a text is ended texts and the beginning of one more -/
theorem exists_ended (sep : Char) (t : Text) :
    ∃ ts lead, t = ended sep ts ++ lead ∧ (∀ u ∈ ts, sep ∉ u) ∧ sep ∉ lead := by
  have hnot : ∀ u ∈ t.splitOn sep, sep ∉ u := fun u hu => notMem_of_mem_splitOn hu
  obtain ⟨ts, lead, hsplit⟩ := (List.eq_nil_or_concat' (t.splitOn sep)).resolve_left (List.splitOn_ne_nil sep t)
  have hended := ended_splitOn sep t
  rw [hsplit, List.forall_mem_append, List.forall_mem_singleton] at hnot
  rw [hsplit, ended_append, ended_cons, ended_nil, ← List.append_assoc] at hended
  exact ⟨ts, lead, (List.append_cancel_right hended).symm, hnot.1, hnot.2⟩

section Cut

variable {ts : List Text} (hts : ∀ u ∈ ts, sep ∉ u)
include hts

theorem splitOn_ended_append (t : Text) : (ended sep ts ++ t).splitOn sep = ts ++ t.splitOn sep := by
  induction ts with
  | nil => rfl
  | cons u ts ih =>
    obtain ⟨hu, hrest⟩ := List.forall_mem_cons.1 hts
    rw [ended_cons, List.append_assoc, List.cons_append, List.splitOn_append_cons_self_of_not_mem hu, ih hrest,
      List.cons_append]

theorem count_ended_append {lead : Text} (hlead : sep ∉ lead) : (ended sep ts ++ lead).count sep = ts.length := by
  induction ts with
  | nil => exact List.count_eq_zero.2 hlead
  | cons u ts ih =>
    obtain ⟨hu, hrest⟩ := List.forall_mem_cons.1 hts
    rw [ended_cons, List.append_assoc, List.cons_append, List.count_append, List.count_cons_self, ih hrest,
      List.count_eq_zero.2 hu, List.length_cons, Nat.zero_add]

end Cut

/-! ## The first of several ended texts -/

theorem ended_take_succ (sep : Char) {ts : List Text} {u : Text} {n : Nat} (h : ts[n]? = some u) :
    ended sep (ts.take (n + 1)) = ended sep (ts.take n) ++ (u ++ [sep]) := by
  rw [List.take_add_one, h, Option.toList_some, ended_append, ended_cons, ended_nil]

theorem byteLength_ended_take_le (sep : Char) (ts : List Text) {m n : Nat} (h : m ≤ n) :
    (ended sep (ts.take m)).byteLength ≤ (ended sep (ts.take n)).byteLength := by
  have hparts : ended sep ((ts.take n).take m ++ (ts.take n).drop m) = _ := ended_append _ _
  rw [List.take_append_drop, List.take_take, Nat.min_eq_left h] at hparts
  rw [hparts, byteLength_append]
  exact Nat.le_add_right _ _

end VarDecl.Text
