/-
A message tells its diagnostic.

A message is read from both ends. In front, the words of the complaint end at the first quotation mark, since none of them
contains one, and the quoted text ends by itself, whatever it contains. Behind, the digits of the offset end at the last
colon, whatever colons the label contains. What is left between the two is ` at ` and the label.

Results:
- `Cause.message_append_inj`: the wording of a cause can be told from what stands behind it, and tells the cause.
- `Diagnostic.message_identifies`: messages are equal exactly if cause, label and offset are.
-/
import VarDecl.Proofs.Quoting

namespace VarDecl

namespace Cause

theorem quote_notMem_complaint (c : Cause) : '\x22' ∉ c.complaint.toList := by
  cases c <;> simp only [complaint] <;> decide

/-- the complaint and the offending text tell the cause -/
theorem eq_of_complaint_eq {c c' : Cause} (hcomplaint : c.complaint = c'.complaint) (hsubject : c.subject = c'.subject) :
    c = c' := by
  cases c <;> cases c' <;> simp_all [complaint, subject]

/-- **The wording of a cause tells the cause**, and ends where the quoted text does. -/
theorem message_append_inj {c c' : Cause} {x y : Text} (h : c.message ++ x = c'.message ++ y) : c = c' ∧ x = y := by
  have hparts : ∀ (b : Cause) (z : Text),
      b.message ++ z = b.complaint.toList ++ (Escaping.visible.encode b.subject ++ z) := by
    intro b z
    rw [message, List.append_assoc, Escaping.encode_visible]
  have hclass : ∀ b : Cause, ∀ d ∈ b.complaint.toList, (d != '\x22') = true :=
    fun b _ hd => bne_iff_ne.2 (ne_of_mem_of_not_mem hd b.quote_notMem_complaint)
  have hend : ∀ t z : Text, ∀ d ∈ (Escaping.visible.encode t ++ z).head?, (d != '\x22') = false := by
    intro t z d hd
    cases hd
    rfl
  rw [hparts, hparts] at h
  obtain ⟨hcomplaint, hrest⟩ := Text.append_inj_of_class (hclass c) (hclass c') (hend _ _) (hend _ _) h
  obtain ⟨hsubject, hbehind⟩ := Escaping.visible.encode_append_inj hrest
  exact ⟨eq_of_complaint_eq (String.toList_inj.1 hcomplaint) hsubject, hbehind⟩

end Cause

/-- what stands behind the last colon is told by having no colon in it -/
theorem Text.append_colon_inj {s t : Text} {m n : Nat}
    (h : s ++ ':' :: Decimal.ofNat m = t ++ ':' :: Decimal.ofNat n) : s = t ∧ m = n := by
  have hdigits : ∀ k : Nat, ∀ c ∈ (Decimal.ofNat k).reverse, c.isDigit = true :=
    fun k c hc => Decimal.isDigit_of_mem_ofNat (List.mem_reverse.1 hc)
  have hreverse := congrArg List.reverse h
  rw [List.reverse_append, List.reverse_append, List.reverse_cons, List.reverse_cons, List.append_assoc,
    List.append_assoc] at hreverse
  obtain ⟨hoffset, hrest⟩ := append_inj_of_class (hdigits m) (hdigits n) (by simp) (by simp) hreverse
  exact ⟨List.reverse_inj.1 (List.cons.inj hrest).2, Decimal.ofNat_inj (List.reverse_inj.1 hoffset)⟩

/-- **A message tells its diagnostic**: two messages are equal exactly if the causes are, with the texts that they quote,
and the labels, and the offsets. -/
theorem Diagnostic.message_identifies (d e : Diagnostic) :
    d.message = e.message ↔
      d.cause = e.cause ∧ d.position.label = e.position.label ∧ d.position.offset = e.position.offset := by
  refine ⟨fun h => ?_, fun ⟨hcause, hlabel, hoffset⟩ => by rw [message, message, hcause, hlabel, hoffset]⟩
  rw [message, message, List.append_assoc, List.append_assoc, List.append_assoc, List.append_assoc] at h
  obtain ⟨hcause, hplace⟩ := Cause.message_append_inj h
  obtain ⟨hlabel, hoffset⟩ := Text.append_colon_inj (List.append_cancel_left hplace)
  exact ⟨hcause, hlabel, UInt32.toNat_inj.1 hoffset⟩

end VarDecl
