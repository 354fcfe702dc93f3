import TexSplice.Proofs.Layout.Start
import TexSplice.Proofs.Splice.Structure

/-! # Documents with a new section

A new section stands where the document's own text ends, so its content has its headings between
those before that place and those behind it, and none is lost. Where the content starts there is a
section exactly if its first line is a heading. -/
namespace TexSplice

open Outline (ofText)
open Text (marks)

/-! ## How many headings a text has -/

/-- Whether a line counts as a heading. -/
def isHeadingLine (line : Text) : Bool := ((classify line).bind Mark.heading?).isSome

namespace Text

theorem length_headings (t : Text) : t.headings.length = (lines t).countP isHeadingLine := by
  rw [headings, marks, Outline.marks_ofText, List.filterMap_filterMap,
    List.length_filterMap_eq_countP]
  rfl

theorem length_sections (t : Text) : (ofText t).sections.length = t.headings.length := by
  rw [headings_eq, List.length_map]

theorem titles_eq (t : Text) : (ofText t).titles = t.headings.map Heading.title := by
  rw [headings_eq, List.map_map, Outline.titles]
  rfl

theorem headings_trim (t : Text) : (trim t).headings = t.headings := linewise_headings.trim t

end Text

/-! ## The headings of a new document -/

/-- The headings of the content stand together among those of the document. -/
theorem exists_headings_create (t content name : Text) :
    ∃ front back, t.headings = front ++ back ∧
      ((ofText t).create t content name).document.headings = front ++ content.headings ++ back := by
  refine ⟨Text.headings (t.take (ofText t).bodyEnd), Text.headings (t.drop (ofText t).bodyEnd),
    ?_, ?_⟩
  · exact (Text.linewise_headings.bodyEnd t).symm
  · exact Text.linewise_headings.create t content name

/-- A new section adds as many headings as its content has. -/
theorem length_sections_create (t content name : Text) :
    (ofText ((ofText t).create t content name).document).sections.length =
      (ofText t).sections.length + content.headings.length := by
  obtain ⟨front, back, hold, hnew⟩ := exists_headings_create t content name
  rw [Text.length_sections, Text.length_sections, hold, hnew]
  simp only [List.length_append]
  omega

/-- The content of a new section starts a section exactly if its first line is a heading. -/
theorem exists_section_create_iff (t content name : Text) {h : Heading} :
    (∃ s ∈ (ofText ((ofText t).create t content name).document).sections,
        s.span.start = ((ofText t).create t content name).range.start ∧ s.heading = h) ↔
      classify (Text.firstLine (Text.trim content)).1 = some (.heading h) := by
  obtain ⟨tail, htail, hdocument, hrange, _⟩ := exists_create t content name
  rw [hdocument, hrange]
  exact Outline.exists_section_start_iff (Text.opensLine_paragraphBefore _) htail

/-- What was written is the content, trimmed. -/
theorem cut_range_create (t content name : Text) :
    ((ofText t).create t content name).range.cut ((ofText t).create t content name).document =
      Text.trim content := by
  obtain ⟨tail, _, hdocument, hrange, _⟩ := exists_create t content name
  rw [hdocument, hrange, Span.cut_sized_append]

end TexSplice
