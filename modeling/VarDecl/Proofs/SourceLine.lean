/-
The line around a place between two characters.

Results:
- `SourceLine.ofOffset_eq_between`: an offset stands for the last place between two characters that it reaches.
- `SourceLine.drop_column_between`: behind the column, a line is what follows the place, up to the next line feed.
-/
import Mathlib.Data.List.TakeWhile
import VarDecl.SourceLine

namespace VarDecl

namespace SourceLine

/-! ## The place of an offset -/

theorem countWithin_eq {before after : Text} {count room : Nat} (hle : before.byteLength ≤ room)
    (hlt : ∀ c ∈ after.head?, room < before.byteLength + c.utf8Size) :
    countWithin count room (before ++ after) = count + before.length := by
  induction before generalizing count room with
  | nil =>
    cases after with
    | nil => rfl
    | cons c after =>
      have hc : room < Text.byteLength [] + c.utf8Size := hlt c rfl
      rw [Text.byteLength_nil, Nat.zero_add] at hc
      exact if_neg (Nat.not_le.2 hc)
  | cons b before ih =>
    rw [Text.byteLength_cons] at hle hlt
    have hfits : b.utf8Size ≤ room := by omega
    have hrest : countWithin (count + 1) (room - b.utf8Size) (before ++ after) = count + 1 + before.length := by
      refine ih (by omega) fun c hc => ?_
      have hc := hlt c hc
      omega
    calc countWithin count room (b :: (before ++ after))
        = countWithin (count + 1) (room - b.utf8Size) (before ++ after) := if_pos hfits
      _ = count + (before.length + 1) := by rw [hrest]; omega

/-- **An offset stands for the last place between two characters that it reaches.** -/
theorem ofOffset_eq_between {before after : Text} {offset : Nat} (hle : before.byteLength ≤ offset)
    (hlt : ∀ c ∈ after.head?, offset < before.byteLength + c.utf8Size) :
    ofOffset (before ++ after) offset = between before after := by
  have hcount : countWithin 0 offset (before ++ after) = before.length := by
    rw [countWithin_eq hle hlt, Nat.zero_add]
  simp only [ofOffset, hcount, List.take_left, List.drop_left]

/-! ## The parts of a line -/

theorem drop_column_between (before after : Text) :
    (between before after).text.drop (between before after).column = after.takeWhile staysOnLine :=
  List.drop_left

/-- the text of a line has no line feed -/
theorem lineFeed_notMem_text (source : Text) (offset : Nat) : '\n' ∉ (ofOffset source offset).text := by
  intro hmem
  have hstays : staysOnLine '\n' = true := by
    rcases List.mem_append.1 hmem with hfront | hback
    · exact List.mem_takeWhile_imp (List.mem_reverse.1 hfront)
    · exact List.mem_takeWhile_imp hback
  exact absurd hstays (by decide)

end SourceLine

end VarDecl
