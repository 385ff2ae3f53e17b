/-
The pieces of a source, told without the cutting that finds them.

A list of pieces splits a source (`Piece.Splits`) if no text in it has a semicolon, the texts with semicolons between them
are the source, and the offsets run on from zero: each piece begins one byte behind the end of the piece in front of it.
A source is cut at its characters, and the offsets are summed up beside that; so it has to be shown that the sums are the
places of the pieces. By induction on the texts they are, wherever the first text lies.

Results:
- `Piece.slice_of_mem_ofSource`: at the offset of a piece, the source has its text.
- `Piece.splits_iff`: a source is split by one list of pieces only.
- `Piece.split_exactly`: both, the sums of offsets, and the number of pieces and the end of the last.
-/
import VarDecl.Proofs.Overflow

namespace VarDecl

namespace Piece

/-- a piece begins right behind the separator that ends another one -/
def Follows (p q : Piece) : Prop := q.offset = p.stop + 1

/-- the pieces have no separator in them, make up the source with separators between them, and lie one behind another -/
structure Splits (ps : List Piece) (source : Text) : Prop where
  ne_nil : ps ≠ []
  separator_notMem : ∀ p ∈ ps, ';' ∉ p.text
  joined : [';'].intercalate (ps.map text) = source
  first : ∀ p ∈ ps.head?, p.offset = 0
  next : ps.IsChain Follows

/-! ## Texts laid one behind another -/

theorem ne_nil_ofSource (source : Text) : ofSource source ≠ [] := by
  intro hnil
  have htexts := map_text_ofSource source
  rw [hnil, List.map_nil] at htexts
  exact List.splitOn_ne_nil separator source htexts.symm

theorem isChain_layFrom (offset : Nat) (ts : List Text) : (layFrom offset ts).IsChain Follows := by
  induction ts generalizing offset with
  | nil => exact .nil
  | cons t ts ih =>
    cases ts with
    | nil => exact .singleton _
    | cons u ts => exact .cons_cons rfl (ih (offset + t.byteLength + separator.utf8Size))

/-- the texts and the offset of the first tell all offsets -/
theorem eq_layFrom_of_isChain {ps : List Piece} {offset : Nat} (hfirst : ∀ p ∈ ps.head?, p.offset = offset)
    (hchain : ps.IsChain Follows) : ps = layFrom offset (ps.map text) := by
  induction ps generalizing offset with
  | nil => rfl
  | cons p ps ih =>
    obtain ⟨hnext, hrest⟩ := List.isChain_cons.1 hchain
    obtain rfl : p.offset = offset := hfirst p rfl
    exact congrArg (p :: ·) (ih hnext hrest)

/-- what is laid from the start of a part of a source on lies in the source -/
theorem slice_of_mem_layFrom {source : Text} {offset stop : Nat} {ts : List Text} {p : Piece}
    (h : source.Slice offset stop ([separator].intercalate ts)) (hp : p ∈ layFrom offset ts) :
    source.Slice p.offset p.stop p.text := by
  induction ts generalizing offset with
  | nil => cases hp
  | cons t ts ih =>
    rcases List.mem_cons.1 hp with rfl | hp
    · exact h.head
    · cases ts with
      | nil => cases hp
      | cons u ts => exact ih h.tail hp

/-- **At the offset of a piece, the source has its text.** -/
theorem slice_of_mem_ofSource {source : Text} {p : Piece} (hp : p ∈ ofSource source) :
    source.Slice p.offset p.stop p.text := by
  have hwhole : source.Slice 0 source.byteLength ([separator].intercalate (source.splitOn separator)) := by
    rw [List.intercalate_splitOn]
    exact .whole source
  exact slice_of_mem_layFrom hwhole hp

/-- the last piece ends one separator before all texts and separators do -/
theorem stop_of_mem_getLast?_layFrom {offset : Nat} {ts : List Text} {p : Piece}
    (hp : p ∈ (layFrom offset ts).getLast?) :
    p.stop + separator.utf8Size = offset + (Text.ended separator ts).byteLength := by
  induction ts generalizing offset with
  | nil => cases hp
  | cons t ts ih =>
    cases ts with
    | nil =>
      obtain rfl : ⟨t, offset⟩ = p := Option.some.inj hp
      simp [stop, Nat.add_assoc]
    | cons u ts =>
      rw [layFrom, layFrom, List.getLast?_cons_cons, ← layFrom] at hp
      have hrest := ih hp
      rw [Text.ended_cons, Text.byteLength_append, Text.byteLength_cons]
      omega

theorem stop_of_mem_getLast?_ofSource {source : Text} {p : Piece} (hp : p ∈ (ofSource source).getLast?) :
    p.stop = source.byteLength := by
  have hstop := stop_of_mem_getLast?_layFrom hp
  rw [byteLength_ended_splitOn] at hstop
  omega

/-! ## Splitting -/

theorem splits_ofSource (source : Text) : Splits (ofSource source) source where
  ne_nil := ne_nil_ofSource source
  separator_notMem := by
    intro p hp
    have hmem : p.text ∈ (ofSource source).map text := List.mem_map_of_mem hp
    rw [map_text_ofSource] at hmem
    exact Text.notMem_of_mem_splitOn hmem
  joined := by
    rw [map_text_ofSource]
    exact List.intercalate_splitOn separator
  first := by
    intro p hp
    obtain ⟨t, ts, hsplit⟩ := List.exists_cons_of_ne_nil (List.splitOn_ne_nil separator source)
    rw [ofSource, hsplit] at hp
    obtain rfl : ⟨t, 0⟩ = p := Option.some.inj hp
    rfl
  next := isChain_layFrom 0 _

/-- **A source is split by one list of pieces only.** -/
theorem splits_iff {ps : List Piece} {source : Text} : Splits ps source ↔ ps = ofSource source := by
  refine ⟨fun h => ?_, fun h => h ▸ splits_ofSource source⟩
  have htexts : source.splitOn separator = ps.map text := by
    rw [← h.joined]
    apply List.splitOn_intercalate
    · exact List.forall_mem_map.2 h.separator_notMem
    · exact fun hnil => h.ne_nil (List.map_eq_nil_iff.1 hnil)
  rw [ofSource, htexts]
  exact eq_layFrom_of_isChain h.first h.next

/-- **A source is split into its pieces exactly, and their offsets are exact.** The sums of offsets stay within the limit,
and give the only list of pieces that splits the source. There is one piece more than there are semicolons, the last one
ends where the source does, and between the offset and the end of each, which both lie between characters, the source has
its text. -/
theorem split_exactly (source : Text) (h : source.Fits) :
    let pieces := ofSource source
    layBytewise 0 (source.splitOn ';') = .ok pieces ∧ (∀ ps, Splits ps source ↔ ps = pieces) ∧
      pieces.length = 1 + source.count ';' ∧ (∃ p, pieces.getLast? = some p ∧ p.stop = source.byteLength) ∧
      ∀ p ∈ pieces, Offset.add p.offset p.text.byteLength = .ok p.stop ∧ source.isBoundary p.offset = true ∧
        source.isBoundary p.stop = true ∧ source.slice? p.offset p.stop = some p.text := by
  intro pieces
  refine ⟨layBytewise_splitOn h, fun ps => splits_iff, ?_, ?_, fun p hp => ?_⟩
  · rw [length_ofSource, Nat.add_comm]
    rfl
  · have hlast := List.getLast?_eq_some_getLast (ne_nil_ofSource source)
    exact ⟨_, hlast, stop_of_mem_getLast?_ofSource hlast⟩
  · have hslice := slice_of_mem_ofSource hp
    exact ⟨if_pos (stop_lt_limit h p hp), hslice.isBoundary_start, hslice.isBoundary_stop,
      Text.slice?_eq_some_iff.2 hslice⟩

/-- a semicolon at either end, two next to each other, and characters of three and of four bytes around them -/
theorem split_exactly_at_wide_characters :
    let source : Text := ";€;;😀;".toList
    source.Fits ∧ ofSource source = [⟨[], 0⟩, ⟨['€'], 1⟩, ⟨[], 5⟩, ⟨['😀'], 6⟩, ⟨[], 11⟩] ∧
      source.slice? 6 10 = some ['😀'] := by
  intro source
  have hfits : source.Fits := by decide
  have hpieces : ofSource source = [⟨[], 0⟩, ⟨['€'], 1⟩, ⟨[], 5⟩, ⟨['😀'], 6⟩, ⟨[], 11⟩] := by decide
  obtain ⟨-, -, -, -, hslices⟩ := split_exactly source hfits
  refine ⟨hfits, hpieces, (hslices ⟨['😀'], 6⟩ ?_).2.2.2⟩
  rw [hpieces]
  decide

end Piece

end VarDecl
