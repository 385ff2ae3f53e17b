/-
Accepted sources: a source is read as a program exactly if each of its pieces has a form, and then the program is nothing
but the declarations of these forms, laid one after another.

Results:
- `Program.read_eq_ok_iff`: the program of a source, given by the list of forms of its pieces. All that is known of
  accepted sources follows from it.
- `Program.read_exactly_derived`: a source is accepted exactly if all its pieces are derived; a piece has at most one
  well-formed reading; each declaration says what the reading of its piece says.
-/
import VarDecl.Proofs.Pieces
import VarDecl.Proofs.Reading
import VarDecl.Proofs.Session

namespace VarDecl

theorem Text.Fits.lt_limit {t : Text} (h : t.Fits) : t.byteLength < Offset.limit := by
  unfold Fits maxBytes at h
  unfold Offset.limit
  omega

/-- the pieces of a source stay below the limit of offsets -/
theorem Piece.stop_lt_limit {source : Text} (h : source.Fits) : ∀ piece ∈ ofSource source, piece.stop < Offset.limit :=
  fun _ hpiece => Nat.lt_of_le_of_lt (stop_le_of_mem_ofSource hpiece) h.lt_limit

/-! ## Forms one after another -/

namespace Form

/-- the declarations of forms, laid from an offset on with a separator after each -/
def declarationsFrom (label : Text) (offset : Nat) : List Form → List Declaration
  | [] => []
  | f :: fs =>
    f.declaration label offset ::
      declarationsFrom label (offset + f.text.byteLength + Piece.separator.utf8Size) fs

theorem map_content_declarationsFrom (label : Text) (offset : Nat) (fs : List Form) :
    (declarationsFrom label offset fs).map Declaration.content = fs.map content := by
  induction fs generalizing offset with
  | nil => rfl
  | cons f fs ih => simp [declarationsFrom, ih]

/-- each declaration is that of its form, wherever it begins -/
theorem forall₂_declarationsFrom {P : Form → Prop} {fs : List Form} (label : Text) (offset : Nat)
    (h : ∀ f ∈ fs, P f) :
    List.Forall₂ (fun piece d => ∃ f : Form, f.text = piece ∧ P f ∧ ∃ start, d = f.declaration label start)
      (fs.map text) (declarationsFrom label offset fs) := by
  induction fs generalizing offset with
  | nil => exact .nil
  | cons f fs ih =>
    obtain ⟨hf, hfs⟩ := List.forall_mem_cons.1 h
    exact .cons ⟨f, rfl, hf, offset, rfl⟩ (ih _ hfs)

/-- pieces are accepted exactly as the forms that they have -/
theorem accepts_layFrom_iff {setting : Setting} {offset : Nat} {ts : List Text} {ds : List Declaration}
    (h : ∀ p ∈ Piece.layFrom offset ts, p.stop < Offset.limit) :
    Accepts setting (Piece.layFrom offset ts) ds ↔
      ∃ fs : List Form, ts = fs.map text ∧ (∀ f ∈ fs, f.WellFormed ∧ f.Meets setting.strictness) ∧
        ds = declarationsFrom setting.label offset fs := by
  induction ts generalizing offset ds with
  | nil =>
    refine ⟨?_, ?_⟩
    · intro hds
      cases hds
      exact ⟨[], rfl, by simp, rfl⟩
    · intro hforms
      obtain ⟨fs, hts, -, rfl⟩ := hforms
      obtain rfl := List.map_eq_nil_iff.1 hts.symm
      exact .nil
  | cons t ts ih =>
    have hfirst : Piece.stop ⟨t, offset⟩ < Offset.limit := h _ List.mem_cons_self
    have hrest : ∀ p ∈ Piece.layFrom (offset + t.byteLength + Piece.separator.utf8Size) ts, p.stop < Offset.limit :=
      fun p hp => h p (List.mem_cons_of_mem _ hp)
    refine ⟨?_, ?_⟩
    · intro hds
      cases hds with
      | cons hd hds =>
        obtain ⟨f, rfl, hf, hm, rfl⟩ := (Declaration.read_eq_ok_iff hfirst).1 hd
        obtain ⟨fs, rfl, hfs, rfl⟩ := (ih hrest).1 hds
        exact ⟨f :: fs, rfl, List.forall_mem_cons.2 ⟨⟨hf, hm⟩, hfs⟩, rfl⟩
    · intro hforms
      obtain ⟨fs, hts, hfs, rfl⟩ := hforms
      obtain ⟨f, fs, rfl, rfl, rfl⟩ := List.map_eq_cons_iff.1 hts.symm
      obtain ⟨⟨hf, hm⟩, hfs⟩ := List.forall_mem_cons.1 hfs
      exact .cons ((Declaration.read_eq_ok_iff hfirst).2 ⟨f, rfl, hf, hm, rfl⟩) ((ih hrest).2 ⟨fs, rfl, hfs, rfl⟩)

/-- texts that have a form each are the texts of a list of forms -/
theorem exists_map_text_eq {P : Form → Prop} {ts : List Text} (h : ∀ t ∈ ts, ∃ f : Form, f.text = t ∧ P f) :
    ∃ fs : List Form, ts = fs.map text ∧ ∀ f ∈ fs, P f := by
  induction ts with
  | nil => exact ⟨[], rfl, by simp⟩
  | cons t ts ih =>
    obtain ⟨f, rfl, hf⟩ := h t List.mem_cons_self
    obtain ⟨fs, rfl, hfs⟩ := ih fun t ht => h t (List.mem_cons_of_mem _ ht)
    exact ⟨f :: fs, rfl, List.forall_mem_cons.2 ⟨hf, hfs⟩⟩

end Form

/-! ## Programs -/

/-- **A source is read as the declarations of the forms of its pieces**, if they all have one. -/
theorem Program.read_eq_ok_iff {setting : Setting} {source : Text} {p : Program} (h : source.Fits) :
    Program.read setting source = .ok p ↔
      ∃ fs : List Form, source.splitOn Piece.separator = fs.map Form.text ∧
        (∀ f ∈ fs, f.WellFormed ∧ f.Meets setting.strictness) ∧
        p = ⟨Form.declarationsFrom setting.label 0 fs, .ofOffsets setting.label 0 source.byteLength⟩ := by
  rw [Program.read, Session.read_eq_ok_iff, Piece.ofSource, Form.accepts_layFrom_iff (Piece.stop_lt_limit h)]
  refine ⟨?_, ?_⟩
  · intro hread
    obtain ⟨⟨fs, hts, hfs, hbody⟩, hspan⟩ := hread
    exact ⟨fs, hts, hfs, by rw [← hbody, ← hspan]⟩
  · intro hforms
    obtain ⟨fs, hts, hfs, rfl⟩ := hforms
    exact ⟨⟨fs, hts, hfs, rfl⟩, rfl⟩

/-- **Sources are accepted exactly as the grammar derives them.** A source is read as a program if and only if each of its
pieces is derived; no piece has two well-formed readings; and each declaration of the program has the keyword, the name
and the value of the reading of its piece. -/
theorem Program.read_exactly_derived (setting : Setting) (source : Text) (h : source.Fits) :
    ((∃ p, Program.read setting source = .ok p) ↔ ∀ piece ∈ source.splitOn ';', Derives setting.strictness piece) ∧
      (∀ f g : Form, f.WellFormed → g.WellFormed → f.text = g.text → f = g) ∧
      ∀ p, Program.read setting source = .ok p →
        List.Forall₂
          (fun piece (d : Declaration) => ∃ f : Form, f.text = piece ∧ (f.WellFormed ∧ f.Meets setting.strictness) ∧
            d.keyword = f.keyword ∧ d.declarator.name.SpelledBy f.left ∧ d.declarator.literal.raw = f.raw ∧
            d.declarator.literal.value = Value.ofText f.raw)
          (source.splitOn ';') p.body := by
  refine ⟨⟨?_, fun hpieces => ?_⟩, fun f g hf hg htext => Form.eq_of_text_eq hf hg htext, fun p hp => ?_⟩
  · intro hread piece hpiece
    obtain ⟨p, hp⟩ := hread
    obtain ⟨fs, hts, hfs, -⟩ := (Program.read_eq_ok_iff h).1 hp
    rw [show ';' = Piece.separator from rfl, hts] at hpiece
    obtain ⟨f, hf, rfl⟩ := List.mem_map.1 hpiece
    exact ⟨f, rfl, hfs f hf⟩
  · obtain ⟨fs, hts, hfs⟩ := Form.exists_map_text_eq hpieces
    exact ⟨_, (Program.read_eq_ok_iff h).2 ⟨fs, hts, hfs, rfl⟩⟩
  · obtain ⟨fs, hts, hfs, rfl⟩ := (Program.read_eq_ok_iff h).1 hp
    rw [show ';' = Piece.separator from rfl, hts]
    refine (Form.forall₂_declarationsFrom setting.label 0 hfs).imp fun piece d hd => ?_
    obtain ⟨f, htext, hf, start, rfl⟩ := hd
    exact ⟨f, htext, hf, rfl, Name.spelledBy_iff.2 rfl, rfl, rfl⟩

/-- a keyword that ends in a no-break space, a name with an empty type, a value that begins with an assignment sign -/
theorem read_exactly_derived_of_odd_pieces :
    let source : Text := "let x : t = 1\u3000;\tvar\u00a0 y:==:".toList
    source.Fits ∧ (∃ p, Program.read .shell source = .ok p) ∧ ∀ piece ∈ source.splitOn ';', Derives .lenient piece := by
  refine ⟨by decide, ⟨_, rfl⟩, ?_⟩
  exact (Program.read_exactly_derived .shell _ (by decide)).1.1 ⟨_, rfl⟩

end VarDecl
