import TexSplice.Proofs.Apply.Strategy
import TexSplice.Proofs.Reply.Headings

/-! # Sections that are mended

A section is fixed or improved only by a reply that is a whole section: its content opens with a
heading command. The reply then stands where the section stood, between two lines. Whether a section
starts there is for the reading of lines to say, and a line asks more of a heading than the look at
the reply did: a title that is not empty and does not go on in the next line. -/
namespace TexSplice

open Outline (ofText)

/-! ## The section in its new text -/

/-- What is put in the place of a section starts a section exactly if its own first line is a
heading. -/
theorem Frame.Holds.exists_section_replace_iff {f : Frame} {t : Text} {g h : Heading}
    (hf : f.Holds t g) (content : Text) :
    (∃ s ∈ (ofText (f.replace content).document).sections,
        s.span.start = (f.replace content).range.start ∧ s.heading = h) ↔
      classify (Text.firstLine content).1 = some (.heading h) := by
  have hdocument : (f.replace content).document = f.before ++ content ++ f.after := by
    rw [replace, document_rebuild, List.nil_append, List.append_nil]
  have hstart : (f.replace content).range.start = f.before.length := rfl
  rw [hdocument, hstart]
  exact Outline.exists_section_start_iff hf.opens hf.closes

namespace Request

variable {r : Request}

/-- A section that is fixed or improved is there, and gives way to content that opens with a
heading command. -/
theorem exists_of_mended (haction : r.intent.action = .improve ∨ r.intent.action = .fix)
    (hs : r.apply.strategy = .namedSection) :
    ∃ b w, r.located? = some b ∧ Reply.leadingHeading? r.content = some w ∧
      r.apply.patch = .ofEdit (b.frame.replace r.content) := by
  have hwin : (r.attempt r.apply.strategy).2 = some r.apply.patch := r.attempt_strategy
  rw [hs] at hwin
  have hi : r.intent.action.inserts = false := by
    rcases haction with h | h <;> rw [h] <;> rfl
  have hd : r.intent.action ≠ .delete := by
    rcases haction with h | h <;> rw [h] <;> decide
  obtain ⟨target, _, hobstacle, ⟨b, hb, hp⟩ | ⟨_, hp⟩⟩ := editSection_eq_some hwin
  · have hheading : Reply.startsWithHeading r.content = true := by
      have hnone := r.isNone_obstacle? target
      rw [hobstacle] at hnone
      rcases haction with h | h <;> rw [h] at hnone <;> exact hnone.symm
    obtain ⟨w, hw⟩ := Option.isSome_iff_exists.mp hheading
    refine ⟨b, w, hb, hw, ?_⟩
    rw [editFound_replaces hi hp, if_neg hd]
  · rw [(editMissing_eq_some hp).1] at hi
    cases hi

end Request

/-- **A mended section is a section again exactly if its title can be read from one line.** Whenever
a section is fixed or improved, the content that takes its place opens with a heading command; the
new document has a section at that place if and only if the title of that command is not empty and
ends on its line. -/
theorem mended_section_is_section_iff (instruction document reply : Text) (selection : Option Span)
    (cursor : Option Int) (intent : Option Intent) :
    let r := Request.ofInstruction instruction document reply selection cursor intent
    let a := r.apply
    a.intent.action = .improve ∨ a.intent.action = .fix → a.strategy = .namedSection →
    ∃ w, Reply.leadingHeading? r.content = some w ∧
      ((∃ s ∈ (ofText a.patch.document).sections, s.span.start = a.patch.range.start) ↔
        w.title ≠ [] ∧ '\n' ∉ w.title) := by
  intro r a haction hs
  obtain ⟨b, w, hb, hw, hpatch⟩ := Request.exists_of_mended haction hs
  refine ⟨w, hw, ?_⟩
  obtain ⟨hcontent, hbrace⟩ := Reply.leadingHeading?_content_iff.mp hw
  have hcontent : r.content = w.text := hcontent
  obtain ⟨name, _, hboundary⟩ := Option.bind_eq_some_iff.mp hb
  have hfound (h : Heading) :=
    (Boundary.holds hboundary).exists_section_replace_iff (h := h) r.content
  rw [← WrittenHeading.exists_classify_firstLine_iff hbrace, ← hcontent, hpatch]
  constructor
  · rintro ⟨s, hmem, hstart⟩
    exact ⟨s.heading, (hfound s.heading).mp ⟨s, hmem, hstart, rfl⟩⟩
  · rintro ⟨h, hclass⟩
    obtain ⟨s, hmem, hstart, _⟩ := (hfound h).mpr hclass
    exact ⟨s, hmem, hstart⟩

/-- The reply is a whole section, and the document has it in the place of the old one. -/
theorem mended_section_is_found :
    let intent : Intent := ⟨.improve, .ending, some "results".toList, false, false, .simple⟩
    let r := Request.ofInstruction "improve results".toList
      "Hi\n\\section{Results}\nWe measured.".toList
      "\\section{Findings}\nWe measured twice.".toList none none (some intent)
    let a := r.apply
    a.intent.action = .improve ∧ a.strategy = .namedSection ∧
      ∃ s ∈ (ofText a.patch.document).sections, s.span.start = a.patch.range.start := by
  intro intent
  obtain ⟨w, hw, hiff⟩ := mended_section_is_section_iff "improve results".toList
    "Hi\n\\section{Results}\nWe measured.".toList
    "\\section{Findings}\nWe measured twice.".toList none none (some intent) (by decide +kernel)
    (by decide +kernel)
  refine ⟨by decide +kernel, by decide +kernel, hiff.mpr ?_⟩
  -- the content opens with one heading command only
  have htitle : (Reply.leadingHeading? (Reply.content
      "\\section{Findings}\nWe measured twice.".toList)).map WrittenHeading.title =
        some "Findings".toList := by
    decide +kernel
  have hsame := htitle.symm.trans (congrArg (Option.map WrittenHeading.title) hw)
  rw [← Option.some_inj.mp hsame]
  decide

/-- A heading command without a title passes for a whole section, and the document has none. -/
theorem mended_section_without_title_is_lost :
    let document := "Hi\n\\section{Results}\nWe measured.".toList
    let r := Request.ofInstruction "improve results".toList document
      "\\section{}\nWe measured twice.".toList none none
    let a := r.apply
    a.intent.action = .improve ∧ a.strategy = .namedSection ∧
      ¬∃ s ∈ (ofText a.patch.document).sections, s.span.start = a.patch.range.start := by
  intro document r a
  have ha : (a.intent.action, a.strategy, a.patch.document) =
      (.improve, .namedSection, "Hi\n\\section{}\nWe measured twice.".toList) := by
    decide +kernel
  simp only [Prod.mk.injEq] at ha
  obtain ⟨haction, hs, hdocument⟩ := ha
  refine ⟨haction, hs, ?_⟩
  rw [hdocument]
  rintro ⟨s, hs, _⟩
  cases hs

-- So does a title that goes on in the next line.
example : Reply.startsWithHeading "\\section\x7bMore\nresults\x7d".toList = true ∧
    (ofText "\\section\x7bMore\nresults\x7d".toList).sections = [] := by
  decide +kernel

end TexSplice
