import TexSplice.Proofs.Layout.Edit
import TexSplice.Proofs.Outline.Written

/-! # Sections that start with a part of a document

Content is put into a document between two lines. Nothing before it and nothing behind it has a
section where the content starts, so a section starts there exactly if the first line of the content
ITSELF is a heading, and then it is the section of that heading. -/
namespace TexSplice

open Outline (ofText)

namespace Outline

variable {a m z : Text} {h : Heading}

/-- A section at the start of a text is the section of its first line. -/
theorem exists_section_first_iff :
    (∃ s ∈ (ofText m).sections, s.span.start = 0 ∧ s.heading = h) ↔
      classify (Text.firstLine m).1 = some (.heading h) := by
  obtain ⟨l, z, hm, hl, hz⟩ := Text.exists_firstLine m
  obtain ⟨ls, hls⟩ := Text.exists_lines_cons hl hz
  have helements : (ofText m).elements = elementsFrom Rule.all 0 0 (l :: ls) := by
    rw [← hls, ← hm]
    rfl
  have hfirst : (Text.firstLine m).1 = l := by rw [hm, Text.firstLine_append hl hz]
  rw [hfirst]
  constructor
  · rintro ⟨s, hs, hstart, rfl⟩
    have hmem := mem_sections.mp hs
    rw [helements] at hmem
    obtain ⟨mark, hmark, he⟩ | hmem := mem_elementsFrom_cons.mp hmem
    · have hmark : classify l = some mark := hmark
      rw [hmark]
      exact congrArg some (congrArg Element.mark he).symm
    · -- a later line starts behind the first one and its line feed
      have hlate : 0 + l.length + 1 ≤ s.span.start := (bounds_of_mem hmem).2
      omega
  · intro hclass
    refine ⟨⟨h, 0, Span.sized 0 l.length⟩, mem_sections.mpr ?_, rfl, rfl⟩
    rw [helements]
    exact mem_elementsFrom_cons.mpr (.inl ⟨_, hclass, rfl⟩)

/-- **Between two lines a part of a document starts a section exactly if its own first line is a
heading.** -/
theorem exists_section_start_iff (ha : Text.OpensLine a) (hz : Text.ClosesLine z) :
    (∃ s ∈ (ofText (a ++ m ++ z)).sections, s.span.start = a.length ∧ s.heading = h) ↔
      classify (Text.firstLine m).1 = some (.heading h) := by
  have hfirst : (Text.firstLine (m ++ z)).1 = (Text.firstLine m).1 := by
    rcases hz with rfl | ⟨w, rfl⟩
    · rw [List.append_nil]
    · exact Text.firstLine_append_newline m w
  obtain ⟨n, hn⟩ := sections_append_of_opensLine ha (m ++ z)
  rw [← hfirst, ← exists_section_first_iff, List.append_assoc, hn]
  constructor
  · rintro ⟨s, hs, hstart, hheading⟩
    rcases List.mem_append.mp hs with hs | hs
    · have hstop : s.span.stop < a.length := stop_lt_length_of_opensLine ha (mem_sections.mp hs)
      have := s.span.start_le_stop
      omega
    · obtain ⟨u, hu, rfl⟩ := List.mem_map.mp hs
      have hstart : u.span.start + a.length = a.length := hstart
      exact ⟨u, hu, by omega, hheading⟩
  · rintro ⟨u, hu, hstart, hheading⟩
    refine ⟨u.shifted n a.length, List.mem_append_right _ (List.mem_map_of_mem hu), ?_, hheading⟩
    change u.span.start + a.length = a.length
    omega

end Outline

/-- A text that begins with a heading command has its heading first, if the title can be read from
one line, and then those of the lines below. -/
theorem WrittenHeading.headings_text {w : WrittenHeading} (hbrace : '}' ∉ w.title)
    (hne : w.title ≠ []) (hline : '\n' ∉ w.title) :
    w.text.headings = w.heading :: (Text.firstLine w.rest).2.headings := by
  have hclass : classify { w with rest := (Text.firstLine w.rest).1 }.text =
      some (.heading w.heading) := classify_text hbrace hne
  have hfirst : '\n' ∉ (Text.firstLine w.text).1 := by
    obtain ⟨l, z, hw, hl, hz⟩ := Text.exists_firstLine w.text
    rwa [hw, Text.firstLine_append hl hz]
  rw [firstLine_text hline] at hfirst
  rw [Text.headings, ← Text.marks_firstLine, firstLine_text hline, Text.marks_of_not_mem hfirst,
    hclass]
  rfl

end TexSplice
