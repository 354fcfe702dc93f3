import TexSplice.Proofs.Text.Linewise
import TexSplice.Proofs.Text.Spans
import TexSplice.Splice

/-! # Additions only insert

Without what it wrote, a document that something was added to is the old document but for
blanks: the ends that an addition trims hold nothing else, and the line feeds that it puts
around its content are blank too. -/
namespace TexSplice
open Text (solid)

theorem Text.solid_separator : solid separator = [] := rfl

/-- The closing blanks of a text give way to an empty line, or to nothing. -/
theorem Text.exists_paragraphBefore (t : Text) :
    ∃ lead, allBlank lead = true ∧ paragraphBefore t = trimEnd t ++ lead := by
  unfold paragraphBefore
  cases h : (trimEnd t).isEmpty with
  | true => exact ⟨[], rfl, by simp [List.isEmpty_iff.mp h]⟩
  | false => exact ⟨separator, rfl, by simp [h]⟩

theorem Text.solid_paragraphBefore (t : Text) : solid (paragraphBefore t) = solid t := by
  obtain ⟨lead, hlead, h⟩ := exists_paragraphBefore t
  rw [h, linewise_solid.append_blanks hlead, linewise_solid.trimEnd]

/-- The new document without the part that the edit wrote. -/
def Edit.remainder (e : Edit) : Text := e.range.replace e.document []

namespace Frame

theorem remainder_rebuild (f : Frame) (kept content rest : Text) (change : Change) :
    (f.rebuild kept content rest change).remainder = f.before ++ kept ++ (rest ++ f.after) := by
  rw [Edit.remainder, rebuild, ← List.length_append, List.append_assoc _ rest,
    Span.replace_sized_append, List.append_nil]

/-- An addition leaves what its frame holds before and after the section. -/
theorem exists_document_add (f : Frame) (content : Text) (placement : Placement) :
    ∃ x, (f.add content placement).document = f.before ++ x ++ f.after := by
  cases placement <;> exact ⟨_, f.document_rebuild ..⟩

theorem solid_remainder_add (f : Frame) (content : Text) (placement : Placement) :
    solid (f.add content placement).remainder = solid f.text := by
  cases placement with
  | beginning =>
    have h := Text.linewise_solid.firstLine f.middle
    simp only [add, remainder_rebuild, text, Text.solid_append, ← h, List.cons_append,
      Text.solid_cons_newline, List.nil_append, List.append_assoc]
  | ending =>
    simp only [add, remainder_rebuild, text, Text.solid_append, Text.linewise_solid.trimEnd,
      Text.solid_cons_newline, Text.solid_nil, List.append_nil, List.nil_append]

end Frame

theorem Outline.solid_remainder_create (o : Outline) (t content name : Text) :
    solid (o.create t content name).remainder = solid t := by
  unfold create Edit.remainder
  cases o.finishes.head? with
  | some finish =>
    simp only [Span.replace_sized_append, List.append_nil, Text.solid_append, Text.solid_paragraphBefore,
      Text.solid_separator, List.nil_append]
    rw [← Text.solid_append, List.take_append_drop]
  | none =>
    simp only [Span.replace_sized_append, Text.solid_append, Text.solid_paragraphBefore,
      Text.solid_nil]
    rw [List.append_nil, List.append_nil]

end TexSplice
