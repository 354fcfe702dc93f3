import TexSplice.Proofs.Apply.Fallback
import TexSplice.Proofs.Text.Spans

/-! # What a blank reply does

A blank reply has no content, so what it is put in the place of is lost. An addition or a mended
section is refused then, but a section that is to be replaced is not, and no strategy behind the
named section looks at the content at all: the selection is lost too, whatever was asked for. Only a
request that comes to neither leaves the document as it was. -/
namespace TexSplice

/-! ## The content of a blank reply -/

namespace Reply
open Text

theorem fenced?_of_allBlank {reply : Text} (h : allBlank reply = true) : fenced? reply = none := by
  have hcut : cut? fence reply = none := by
    refine Option.eq_none_iff_forall_ne_some.mpr fun ⟨before, after⟩ hc => ?_
    have hmem : '`' ∈ reply := by
      rw [cut?_eq_append hc]
      simp [fence]
    exact absurd (List.all_eq_true.mp h '`' hmem) (by decide)
  rw [fenced?, hcut]
  rfl

theorem hasCommand_of_allBlank : ∀ {reply : Text}, allBlank reply = true → hasCommand reply = false
  | [], _ => rfl
  | c :: rest, h => by
    obtain ⟨hc, hrest⟩ := Bool.and_eq_true_iff.mp h
    have hne : c ≠ '\\' := fun he => absurd (he ▸ hc) (by decide)
    rw [hasCommand]
    · exact hasCommand_of_allBlank hrest
    · exact fun _ _ he _ => hne he

theorem content_of_allBlank {reply : Text} (h : allBlank reply = true) : content reply = [] := by
  have hcode : code? reply = none := by
    simp [code?, fenced?_of_allBlank h, hasCommand_of_allBlank h]
  rw [content, hcode]
  exact trim_eq_nil_iff.mpr h

-- A no-break space is blank too.
example : content "\u00a0\n".toList = [] := by decide +kernel

end Reply

/-! ## Requests with a blank reply -/

/-- Taking out a span that holds something leaves less. -/
theorem Span.outside_ne {s : Span} {t : Text} (hlt : s.start < s.stop) (hle : s.stop ≤ t.length) :
    s.outside t ≠ t := by
  intro h
  have hlen := congrArg List.length h
  simp only [outside, List.length_append, List.length_take, List.length_drop] at hlen
  omega

/-- A section is never empty: it holds its heading. -/
theorem Outline.start_lt_sectionStop {t : Text} {s : Section} (hs : s ∈ (ofText t).sections) :
    s.span.start < (ofText t).sectionStop s := by
  obtain ⟨before, line, after, st⟩ := exists_standsIn (mem_sections.mp hs)
  have hline : line ≠ [] := fun he => by
    have hmark := st.mark
    rw [he] at hmark
    cases hmark
  have hpos := List.length_pos_iff.mpr hline
  have hstop := stop_le_sectionStop hs
  have hspan : s.span = Span.sized before.length line.length := st.span
  rw [hspan] at hstop ⊢
  simp only [Span.sized] at hstop ⊢
  omega

namespace Request

variable {r : Request}

/-- What a blank reply takes the place of: the section that is to be replaced, if it was found, and
else the selection, if it can be used. -/
def blankedSpan? (r : Request) : Option Span :=
  match r.intent.action, r.located? with
  | .replace, some b => some (r.outline.sectionSpan b.found)
  | _, _ => r.usable?

theorem blankedSpan?_bounds {s : Span} (h : r.blankedSpan? = some s) :
    s.start < s.stop ∧ s.stop ≤ r.document.length := by
  unfold blankedSpan? at h
  split at h
  · rename_i b _ hb
    cases h
    obtain ⟨name, _, hb⟩ := Option.bind_eq_some_iff.mp hb
    have hs := (Outline.boundary?_eq_some hb).1
    exact ⟨Outline.start_lt_sectionStop hs, Outline.sectionStop_le_length hs⟩
  · exact (usable?_eq_some h).2

/-- Without content a section is edited only to be replaced. -/
theorem editsSection_of_no_content (hd : r.intent.action ≠ .delete) (hc : r.content = []) :
    r.editsSection = (r.intent.action == .replace && r.located?.isSome) := by
  unfold editsSection
  have hstrip (h : Heading) : Reply.stripHeading [] (some h) = [] := rfl
  cases ha : r.intent.action with
  | delete => exact absurd ha hd
  | replace => simp
  | fix | improve => simp [hc, Reply.startsWithHeading, Reply.leadingHeading?, writtenHeading?,
      Text.trimStart, Text.after?]
  | add | expand => cases r.located? <;> simp [hc, hstrip]

theorem document_of_no_content (hd : r.intent.action ≠ .delete) (hc : r.content = []) :
    r.apply.patch.document =
      match r.blankedSpan? with
      | some s => s.outside r.document
      | none => r.document := by
  have hedits := editsSection_of_no_content hd hc
  cases he : r.editsSection with
  | true =>
    rw [he, eq_comm, Bool.and_eq_true_iff, beq_iff_eq] at hedits
    obtain ⟨ha, hb⟩ := hedits
    obtain ⟨b, hb⟩ := Option.isSome_iff_exists.mp hb
    have hs : r.apply.strategy = .namedSection := (strategy_eq_namedSection_iff r).mpr he
    obtain ⟨place, hplace, _, hp⟩ := attempt_eq_some (by simp [ha, Action.inserts]) r.attempt_strategy
    have hspan : r.blankedSpan? = some place := by
      simpa [hs, place?, hb, blankedSpan?, ha] using hplace
    rw [hspan, hp, hc, ite_self]
    exact place.replace_nil r.document
  | false =>
    have hs : r.apply.strategy ≠ .namedSection := by
      rw [ne_eq, strategy_eq_namedSection_iff, he]
      exact Bool.false_ne_true
    have hdel : r.apply.strategy ≠ .deletion := fun h => hd (r.strategy_eq_deletion_iff.mp h).1
    have hspan : r.blankedSpan? = r.usable? := by
      unfold blankedSpan?
      split
      · rename_i b ha hb
        simp [he, ha, hb] at hedits
      · rfl
    rw [hspan, patch_of_fallback hs hdel, hc]
    change r.fallbackSpan.replace r.document [] = _
    rw [Span.replace_nil, fallbackSpan]
    cases r.usable? with
    | some sel => rfl
    | none => exact List.take_append_drop ..

end Request

/-- **A blank reply changes nothing exactly if there is nothing it would take the place of.** Asked
for anything but a deletion, it takes out the section that is to be replaced, or else the selection;
the document stays as it was only if the request comes to neither. -/
theorem blank_reply_keeps_document_iff (instruction document reply : Text)
    (selection : Option Span) (cursor : Option Int) (intent : Option Intent) :
    let r := Request.ofInstruction instruction document reply selection cursor intent
    r.intent.action ≠ .delete → Text.allBlank reply = true →
    let a := r.apply
    (a.patch.document =
      match r.blankedSpan? with
      | some s => s.outside document
      | none => document) ∧
    (a.patch.document = document ↔ r.blankedSpan? = none) := by
  intro r hd hb a
  have hdocument := Request.document_of_no_content hd (Reply.content_of_allBlank hb)
  refine ⟨hdocument, ?_⟩
  rw [hdocument]
  cases hs : r.blankedSpan? with
  | none => simp [r, Request.ofInstruction]
  | some s =>
    obtain ⟨hlt, hle⟩ := Request.blankedSpan?_bounds hs
    have hne : s.outside r.document ≠ document := Span.outside_ne hlt hle
    simpa using hne

/-- Nothing is named and nothing selected, so the blank reply goes to the cursor and adds nothing. -/
theorem blank_reply_at_cursor :
    let document := "one two".toList
    let r := Request.ofInstruction "make it better".toList document "  ".toList none (some 3)
    r.intent.action ≠ .delete ∧ r.apply.patch.document = document := by
  intro document r
  have hd : r.intent.action ≠ .delete := by decide +kernel
  obtain ⟨_, hiff⟩ := blank_reply_keeps_document_iff "make it better".toList document
    "  ".toList none (some 3) none hd rfl
  refine ⟨hd, ?_⟩
  rw [hiff]
  decide +kernel

/-- A blank reply is no replacement, and yet the section that was to be replaced is lost. -/
theorem blank_reply_for_section :
    let document := "Hi\n\\section{Results}\nWe measured.".toList
    let r := Request.ofInstruction "replace the results section".toList document [] none none
    r.intent.action ≠ .delete ∧ Text.allBlank r.reply = true ∧
      r.apply.patch.document ≠ document := by
  intro document r
  have hdocument : r.apply.patch.document = "Hi\n".toList := by decide +kernel
  rw [hdocument]
  exact ⟨by decide +kernel, rfl, by decide⟩

end TexSplice
