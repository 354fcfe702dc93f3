import TexSplice.Proofs.Apply.NewSection
import TexSplice.Proofs.Session.Asking
import TexSplice.Proofs.Session.History
import TexSplice.Proofs.Session.Selection

/-! # What the check says of a new section

The check is told before the edit that a section is going to be added, and after it counts the
sections of both documents. A new section leaves the headings of the document as they are, so what
is counted is the headings of what was written. -/
namespace TexSplice

open Outline (ofText)

/-! ## The expected number of sections -/

namespace Check

/-- Where a section is to be added the report asks for exactly one more. -/
theorem structured_report_iff (before after : Text) :
    (report before after true).structured = true ↔
      (ofText after).sections.length = (ofText before).sections.length + 1 := by
  have hcount : (report before after true).count =
      if ((ofText after).sections.length : Int) - (ofText before).sections.length = 1 then none
      else some (.expectedOne
        (((ofText after).sections.length : Int) - (ofText before).sections.length)) := rfl
  rw [Report.structured, hcount]
  split
  · rename_i h
    exact ⟨fun _ => by omega, fun _ => rfl⟩
  · rename_i h
    exact ⟨fun hs => (by cases hs), fun hs => absurd (by omega) h⟩

end Check

/-- Where a section is written the check expects one. -/
theorem Request.Creates.addsSection {instruction document reply name : Text}
    {selection : Option Span} {cursor : Option Int}
    (h : (ofInstruction instruction document reply selection cursor).Creates name) :
    Check.addsSection document
      (some (Intent.ofInstruction instruction (ofText document) selection)) = true := by
  obtain ⟨hn, hmissing, hwriting, _⟩ :=
    wantsSection_ofInstruction_iff.mp (creates_iff_wantsSection.mp h)
  exact Check.addsSection_iff.mpr
    ⟨Intent.actionOf_of_asksForCreation hwriting, name, hn, hmissing⟩

/-- The lines of what was written that are headings are those of the content with its heading. -/
theorem Request.Creates.countP_lines {r : Request} {name : Text} (h : r.Creates name) :
    (Text.lines (r.apply.patch.range.cut r.apply.patch.document)).countP isHeadingLine =
      (Reply.withHeading r.content name).headings.length := by
  have hcut : r.apply.patch.range.cut r.apply.patch.document =
      Text.trim (Reply.withHeading r.content name) := by
    rw [h.patch]
    exact cut_range_create r.document (Reply.withHeading r.content name) name
  rw [hcut, ← Text.length_headings, Text.headings_trim]

namespace Session

variable {σ : Type}

theorem Task.request_eq (t : Task) (reply : Text) : t.request reply =
    Request.ofInstruction t.instruction t.document reply t.selection t.cursor := rfl

theorem Task.report_of_checks {t : Task} {policy : Policy} (h : policy.checks = true)
    (a : Applied) : t.report policy a = some (Check.report t.document a.patch.document
      (Check.addsSection t.document (some t.intent))) := by
  rw [report, h, if_pos rfl]

/-- **The check and the edit agree on new sections.** Every session that checks its changes and
writes a new section has a report, and it finds the structure in order if and only if exactly one
line of what was written is a heading. -/
theorem new_section_is_checked (d : Desk σ) (g : Generator σ) (policy : Policy) (t : Task)
    (o : Outcome) (a : Applied) (name : Text) (hchecks : policy.checks = true)
    (ho : (d.run g policy t).1 = .ok o) (ha : o.applied? = some a)
    (hcreating : .creating name ∈ a.trace) :
    ∃ report, o.report? = some report ∧
      (report.structured = true ↔
        (Text.lines (a.patch.range.cut a.patch.document)).countP isHeadingLine = 1) := by
  obtain ⟨reply, o', _, rfl, hrun, _⟩ | ⟨f, o', _, _, rfl, hrun, _⟩ | ⟨f, _, _, hrun, _⟩ :=
    d.run_cases g policy t
  · cases ho.symm.trans hrun
    have ha : (t.request reply).apply = a := Option.some_inj.mp ha
    have hreport : (t.succeed policy (idOf (d.count + 1)) reply).report? = t.report policy a :=
      congrArg (t.report policy) ha
    rw [Task.request_eq] at ha
    subst ha
    have hcreates : (Request.ofInstruction t.instruction t.document reply t.selection
        t.cursor).Creates name := Request.creates_of_creating hcreating
    rw [hreport, Task.report_of_checks hchecks]
    refine ⟨_, rfl, ?_⟩
    have hadds : Check.addsSection t.document (some t.intent) = true := hcreates.addsSection
    have hlength := hcreates.length_sections
    have hdocument : (Request.ofInstruction t.instruction t.document reply t.selection
        t.cursor).document = t.document := rfl
    rw [hadds, Check.structured_report_iff, hcreates.countP_lines]
    rw [hdocument] at hlength
    omega
  · cases ho.symm.trans hrun
    cases ha
  · cases ho.symm.trans hrun

/-- The reply brings a section of its own besides the conclusion, which is one too many. -/
theorem new_section_with_another_is_checked :
    let t : Task := ⟨"Hi".toList, "write a conclusion".toList, none, none⟩
    let g : Generator Unit := fun _ s => (.ok (some "It works.\n\\section{Outlook}".toList), s)
    ∃ o a report, ((Desk.mk () 0 []).run g {} t).1 = .ok o ∧ o.applied? = some a ∧
      .creating "conclusion".toList ∈ a.trace ∧ o.report? = some report ∧
      report.structured = false := by
  intro t g
  obtain ⟨prompt, hp⟩ := t.exists_prompt
  have hreply : t.reply g {} () = (.ok "It works.\n\\section{Outlook}".toList, ()) :=
    Task.reply_of_answer hp (by decide) rfl rfl
  have hrun := Desk.run_of_reply (d := ⟨(), 0, []⟩) (congrArg Prod.fst hreply)
  have hcreates : (Request.ofInstruction t.instruction t.document
      "It works.\n\\section{Outlook}".toList t.selection t.cursor).Creates "conclusion".toList :=
    Request.creates_conclusion (by decide) (by decide)
  have happlied := congrArg (fun r => some (Request.apply r))
    (t.request_eq "It works.\n\\section{Outlook}".toList)
  obtain ⟨report, hreport, hiff⟩ := new_section_is_checked ⟨(), 0, []⟩ g {} t _ _ _ rfl hrun
    happlied hcreates.told
  refine ⟨_, _, report, hrun, happlied, hcreates.told, hreport, ?_⟩
  rw [← Bool.not_eq_true, hiff, hcreates.countP_lines]
  decide +kernel

end Session

end TexSplice
