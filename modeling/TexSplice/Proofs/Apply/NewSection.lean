import TexSplice.Proofs.Apply.Creation
import TexSplice.Proofs.Intent.Terms
import TexSplice.Proofs.Splice.Created

/-! # What a new section brings

Content that has no heading for the section that is asked for gets one in front. Its title is made
of the name that the instruction gave, so the document has the section from then on and the same
instruction asks for no other. Content that has a heading is taken as it is, and there a heading
counts that the document will not show: one in the middle of a line. -/
namespace TexSplice

open Outline (ofText)

/-! ## Requests that write a section -/

namespace Request

variable {instruction document reply name : Text} {selection : Option Span} {cursor : Option Int}

/-- What an instruction has a section written for is one of the terms. -/
theorem Creates.titled
    (h : (ofInstruction instruction document reply selection cursor).Creates name) :
    Reply.Titled name := by
  obtain ⟨hn, _, _, _⟩ := wantsSection_ofInstruction_iff.mp (creates_iff_wantsSection.mp h)
  exact Intent.titled_of_mem_sectionTerms (Intent.mem_sectionTerms (Intent.eq_some_of_named? hn))

/-- A name of which there is a section is not written again, whatever the reply. -/
theorem creating_not_mem_of_find? {found : Text}
    (h : (ofInstruction instruction document reply selection cursor).Creates name)
    (hfound : ((ofText found).find? name).isSome = true) (reply' : Text)
    (selection' : Option Span) (cursor' : Option Int) (name' : Text) :
    .creating name' ∉ (ofInstruction instruction found reply' selection' cursor').apply.trace := by
  intro htold
  have h' := creates_of_creating htold
  obtain ⟨hn, _⟩ := wantsSection_ofInstruction_iff.mp (creates_iff_wantsSection.mp h)
  obtain ⟨hn', hmissing, _⟩ := wantsSection_ofInstruction_iff.mp (creates_iff_wantsSection.mp h')
  have hsame : name = name' := Option.some_inj.mp (hn.symm.trans hn')
  have hnone : (ofText found).find? name = none := by
    rw [hsame]
    exact Option.map_eq_none_iff.mp hmissing
  rw [hnone] at hfound
  cases hfound

variable {r : Request}

/-- A new section adds the headings of what is written to those of the document. -/
theorem Creates.exists_headings (h : r.Creates name) :
    ∃ front back, Text.headings r.document = front ++ back ∧
      Text.headings r.apply.patch.document =
        front ++ (Reply.withHeading r.content name).headings ++ back := by
  rw [h.patch]
  exact exists_headings_create r.document (Reply.withHeading r.content name) name

theorem Creates.length_sections (h : r.Creates name) :
    (ofText r.apply.patch.document).sections.length =
      (ofText r.document).sections.length + (Reply.withHeading r.content name).headings.length := by
  rw [h.patch]
  exact length_sections_create r.document (Reply.withHeading r.content name) name

/-- The supplied heading is the section that starts where the new text does. -/
theorem Creates.exists_section (h : r.Creates name) (hn : Reply.Titled name)
    (hno : Reply.hasHeadingFor r.content name = false) :
    ∃ s ∈ (ofText r.apply.patch.document).sections, s.span.start = r.apply.patch.range.start ∧
      s.heading = (Reply.supplied r.content name).heading := by
  rw [h.patch]
  exact (exists_section_create_iff r.document (Reply.withHeading r.content name) name).mpr
    (Reply.classify_firstLine_withHeading hn hno)

end Request

/-- A conclusion that is to be written and is not there is written. -/
theorem Request.creates_conclusion {document reply : Text}
    (hmissing : (ofText document).boundary? document "conclusion".toList = none)
    (hreply : Reply.content reply ≠ []) :
    (ofInstruction "write a conclusion".toList document reply none none).Creates
      "conclusion".toList := by
  have hnamed : Intent.named? (Intent.targetOf "write a conclusion".toList) =
      some "conclusion".toList := by
    decide +kernel
  have hwriting : Intent.asksForCreation "write a conclusion".toList = true := by decide +kernel
  exact creates_iff_wantsSection.mpr
    (wantsSection_ofInstruction_iff.mpr ⟨hnamed, hmissing, hwriting, hreply⟩)

/-- **A new section is one more heading, where a line shows it.** Whenever a section is written, the
document has more sections than before if the heading was supplied, if any line of the content is a
heading, and so if the content opens with a heading whose title can be read from one line. Content
that names the section in a heading further on is taken as it is: without a line that is a heading
it adds none. -/
theorem new_section_adds_heading (instruction document reply : Text) (selection : Option Span)
    (cursor : Option Int) (name : Text) :
    let r := Request.ofInstruction instruction document reply selection cursor
    let grows :=
      (ofText document).sections.length < (ofText r.apply.patch.document).sections.length
    .creating name ∈ r.apply.trace →
    (Reply.hasHeadingFor r.content name = false → grows) ∧
    (r.content.headings ≠ [] → grows) ∧
    (∀ w, Reply.leadingHeading? r.content = some w → w.title ≠ [] → '\n' ∉ w.title → grows) ∧
    (Reply.namesTarget r.content name = true → Reply.startsWithHeading r.content = false →
      (grows ↔ r.content.headings ≠ [])) := by
  intro r grows htold
  have h : r.Creates name := Request.creates_of_creating htold
  have hlength : (ofText r.apply.patch.document).sections.length =
      (ofText document).sections.length + (Reply.withHeading r.content name).headings.length :=
    h.length_sections
  have hgrows : grows ↔ (Reply.withHeading r.content name).headings ≠ [] := by
    rw [← List.length_pos_iff]
    omega
  have hsupplied (hno : Reply.hasHeadingFor r.content name = false) : grows := by
    rw [hgrows, Reply.headings_withHeading h.titled hno]
    exact List.cons_ne_nil _ _
  have hkept (hhas : Reply.hasHeadingFor r.content name = true) :
      grows ↔ r.content.headings ≠ [] := by
    rw [hgrows, Reply.withHeading_of_has hhas]
  have hshown (hne : r.content.headings ≠ []) : grows := by
    cases hhas : Reply.hasHeadingFor r.content name with
    | false => exact hsupplied hhas
    | true => exact (hkept hhas).mpr hne
  refine ⟨hsupplied, hshown, ?_, ?_⟩
  · intro w hw hne hline
    obtain ⟨hcontent, hbrace⟩ := Reply.leadingHeading?_content_iff.mp hw
    have hcontent : r.content = w.text := hcontent
    refine hshown ?_
    rw [hcontent, WrittenHeading.headings_text hbrace hne hline]
    exact List.cons_ne_nil _ _
  · intro hnames hopens
    have hhas : Reply.hasHeadingFor r.content name = true := by
      rw [Reply.hasHeadingFor, hnames, hopens]
      rfl
    exact hkept hhas

/-- Content that speaks of the conclusion in the middle of a line still brings a section, which
stands in the line below. -/
theorem new_section_adds_heading_below :
    let document := "Hi".toList
    let r := Request.ofInstruction "write a conclusion".toList document
      "See \\section{Conclusion}.\n\\section{Outlook}".toList none none
    .creating "conclusion".toList ∈ r.apply.trace ∧
      (ofText document).sections.length < (ofText r.apply.patch.document).sections.length := by
  have hcreates : (Request.ofInstruction "write a conclusion".toList "Hi".toList
      "See \\section{Conclusion}.\n\\section{Outlook}".toList none none).Creates
        "conclusion".toList :=
    Request.creates_conclusion (by decide) (by decide)
  obtain ⟨_, hshown, _, _⟩ := new_section_adds_heading "write a conclusion".toList "Hi".toList
    "See \\section{Conclusion}.\n\\section{Outlook}".toList none none _ hcreates.told
  exact ⟨hcreates.told, hshown (by decide +kernel)⟩

/-- A heading in the middle of a line counts as the heading of the new section, and the document has
no section more. -/
theorem new_section_adds_no_heading :
    let document := "Hi".toList
    let r := Request.ofInstruction "write a conclusion".toList document
      "See \\section{Conclusion}.".toList none none
    .creating "conclusion".toList ∈ r.apply.trace ∧
      ¬(ofText document).sections.length < (ofText r.apply.patch.document).sections.length := by
  intro document r
  have hcreates : r.Creates "conclusion".toList :=
    Request.creates_conclusion (by decide) (by decide)
  have hcontent : r.content = "See \\section{Conclusion}.".toList := by decide +kernel
  have hwritten : Reply.withHeading r.content "conclusion".toList = r.content := by
    rw [hcontent]
    decide +kernel
  have hlength := hcreates.length_sections
  rw [hwritten, hcontent] at hlength
  refine ⟨hcreates.told, ?_⟩
  rw [hlength]
  exact Nat.lt_irrefl _

-- A heading of another level does not count.
example : Reply.namesTarget "See \\subsection{Conclusion}.".toList "conclusion".toList = false := by
  decide +kernel

/-- **A new section is found again.** Where the content has no heading for it, the document has a
section with the title of the name where the content starts; the other titles are as they were, with
those of the content among them; the name is found; and the same instruction, with whatever reply,
selection and cursor, does not write it again. -/
theorem new_section_is_found (instruction document reply : Text) (selection : Option Span)
    (cursor : Option Int) (name : Text) :
    let r := Request.ofInstruction instruction document reply selection cursor
    let a := r.apply
    .creating name ∈ a.trace → Reply.hasHeadingFor r.content name = false →
    (∃ s ∈ (ofText a.patch.document).sections,
      s.span.start = a.patch.range.start ∧ s.heading.title = Reply.titleFor name) ∧
    (∃ front back, (ofText document).titles = front ++ back ∧
      (ofText a.patch.document).titles =
        front ++ Reply.titleFor name :: (ofText r.content).titles ++ back) ∧
    ((ofText a.patch.document).find? name).isSome = true ∧
    ∀ (reply' : Text) (selection' : Option Span) (cursor' : Option Int) (name' : Text),
      .creating name' ∉ (Request.ofInstruction instruction a.patch.document reply' selection'
        cursor').apply.trace := by
  intro r a htold hno
  have h : r.Creates name := Request.creates_of_creating htold
  have hn : Reply.Titled name := h.titled
  obtain ⟨s, hs, hstart, hheading⟩ := h.exists_section hn hno
  have hfound : ((ofText a.patch.document).find? name).isSome = true :=
    Outline.isSome_find? hn.named hs (hheading ▸ Reply.supplied_fits hn)
  refine ⟨⟨s, hs, hstart, ?_⟩, ?_, hfound, Request.creating_not_mem_of_find? h hfound⟩
  · rw [hheading, Reply.supplied_title hn]
  · obtain ⟨front, back, hold, hnew⟩ := h.exists_headings
    have hold : Text.headings document = front ++ back := hold
    have hnew : Text.headings a.patch.document =
      front ++ (Reply.withHeading r.content name).headings ++ back := hnew
    refine ⟨front.map Heading.title, back.map Heading.title, ?_, ?_⟩
    · rw [Text.titles_eq, hold, List.map_append]
    · rw [Text.titles_eq, Text.titles_eq, hnew, Reply.headings_withHeading hn hno, List.map_append,
        List.map_append, List.map_cons, Reply.supplied_title hn]

/-- The conclusion stands before the end of the document, with a section of the reply behind it, and
is not written a second time. -/
theorem new_section_before_end_is_found :
    let document := "\\section{Methods}\nWe measured.\n\\end\x7bdocument\x7d".toList
    let r := Request.ofInstruction "write a conclusion".toList document
      "It works.\n\\section{Outlook}".toList none none
    let a := r.apply
    .creating "conclusion".toList ∈ a.trace ∧
      Reply.hasHeadingFor r.content "conclusion".toList = false ∧
      ((ofText a.patch.document).find? "conclusion".toList).isSome = true ∧
      ∀ (reply' : Text) (selection' : Option Span) (cursor' : Option Int) (name' : Text),
        .creating name' ∉ (Request.ofInstruction "write a conclusion".toList a.patch.document reply'
          selection' cursor').apply.trace := by
  have hcreates : (Request.ofInstruction "write a conclusion".toList
      "\\section{Methods}\nWe measured.\n\\end\x7bdocument\x7d".toList
      "It works.\n\\section{Outlook}".toList none none).Creates "conclusion".toList :=
    Request.creates_conclusion (by decide +kernel) (by decide)
  have hno : Reply.hasHeadingFor (Reply.content "It works.\n\\section{Outlook}".toList)
      "conclusion".toList = false := by
    decide +kernel
  obtain ⟨_, _, hfound, hagain⟩ := new_section_is_found "write a conclusion".toList
    "\\section{Methods}\nWe measured.\n\\end\x7bdocument\x7d".toList
    "It works.\n\\section{Outlook}".toList none none _ hcreates.told hno
  exact ⟨hcreates.told, hno, hfound, hagain⟩

end TexSplice
