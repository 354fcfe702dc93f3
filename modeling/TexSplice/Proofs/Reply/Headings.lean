import TexSplice.Proofs.Layout.Start
import TexSplice.Proofs.Reply.Content
import TexSplice.Proofs.Splice.Exhaust

/-! # Headings of a reply

Content is trimmed, so what it opens with stands at its very start. Content that has no heading for
the section that is asked for gets one in front, with a title made of the name. If a line can show
that title, it is the first heading of what is written, and the name finds it. -/
namespace TexSplice

/-! ## What content opens with -/

namespace Reply

theorem leadingHeading?_content_iff {reply : Text} {w : WrittenHeading} :
    leadingHeading? (content reply) = some w ↔ content reply = w.text ∧ '}' ∉ w.title := by
  have hstart : Text.trimStart (content reply) = content reply := by
    rw [← (isContent_content reply).trimmed, Text.trimStart_trim]
  rw [leadingHeading?, hstart, writtenHeading?_eq_some_iff]

/-! ## The heading that is supplied -/

/-- A name of which a title is made that can be written as a heading and is found by the name. -/
structure Titled (name : Text) : Prop where
  named : Text.allBlank name = false
  nonempty : titleFor name ≠ []
  trimmed : Text.trim (titleFor name) = titleFor name
  brace : '}' ∉ titleFor name
  line : '\n' ∉ titleFor name
  fits : ∀ h : Heading, h.key = titleKey (titleFor name) → h.fits name = true

variable {t name : Text}

/-- The heading command that is put in front of content. -/
def supplied (t name : Text) : WrittenHeading := ⟨.sec, false, titleFor name, '\n' :: '\n' :: t⟩

theorem withHeading_eq_text (h : hasHeadingFor t name = false) :
    withHeading t name = (supplied t name).text := by
  rw [withHeading, h]
  rfl

theorem withHeading_of_has (h : hasHeadingFor t name = true) : withHeading t name = t := by
  rw [withHeading, h, if_pos rfl]

/-- The supplied heading comes before those of the content. -/
theorem headings_withHeading (hn : Titled name) (h : hasHeadingFor t name = false) :
    (withHeading t name).headings = (supplied t name).heading :: t.headings := by
  have hrest : (Text.firstLine (supplied t name).rest).2 = '\n' :: t := rfl
  rw [withHeading_eq_text h, WrittenHeading.headings_text hn.brace hn.nonempty hn.line, hrest,
    Text.linewise_headings.cons_newline]

theorem supplied_title (hn : Titled name) : (supplied t name).heading.title = titleFor name :=
  hn.trimmed

theorem supplied_fits (hn : Titled name) : (supplied t name).heading.fits name = true :=
  hn.fits _ rfl

/-- The supplied heading is still the first line when the content is trimmed. -/
theorem classify_firstLine_withHeading (hn : Titled name) (h : hasHeadingFor t name = false) :
    classify (Text.firstLine (Text.trim (withHeading t name))).1 =
      some (.heading (supplied t name).heading) := by
  rw [withHeading_eq_text h, WrittenHeading.trim_text, WrittenHeading.firstLine_text hn.line]
  exact WrittenHeading.classify_text hn.brace hn.nonempty

end Reply

end TexSplice
