import TexSplice.Proofs.Apply.Fallback
import TexSplice.Proofs.Text.Spans

/-! # What an addition keeps

An addition to a section, a new section and an insertion take nothing but blanks away. What is left
is the selection: an addition that no section takes is put in its place like any other reply, and
then the selected text is lost unless the reply brings it along. -/
namespace TexSplice
open Text (solid)
open scoped List

/-! ## Requests that add -/

namespace Request

variable {r : Request}

/-- Where the named section is edited, an addition keeps all that is not blank. -/
theorem solid_sublist_of_editsSection (hi : r.intent.action.inserts = true)
    (he : r.editsSection = true) : solid r.document <+ solid r.apply.patch.document := by
  have hwin := r.attempt_strategy
  rw [(strategy_eq_namedSection_iff r).mpr he] at hwin
  rw [← solid_remainder_editSection hi hwin, Span.replace_nil]
  exact (r.apply.patch.range.outside_sublist r.apply.patch.document).filter _

theorem patch_of_addition (hi : r.intent.action.inserts = true) (he : r.editsSection = false) :
    r.apply.patch = .ofSpan r.document r.fallbackSpan r.content := by
  refine patch_of_fallback ?_ ?_
  · rw [ne_eq, strategy_eq_namedSection_iff, he]
    exact Bool.false_ne_true
  · rw [ne_eq, strategy_eq_deletion_iff]
    rintro ⟨hd, _⟩
    rw [hd] at hi
    cases hi

end Request

/-- **An addition keeps the text of a document, unless it takes the place of a selection.** All that
is not blank is still there, in order, exactly if the reply is an edit of the named section, or no
selection can be used, or the reply brings the selected text along. -/
theorem addition_keeps_text_iff (instruction document reply : Text) (selection : Option Span)
    (cursor : Option Int) (intent : Option Intent) :
    let r := Request.ofInstruction instruction document reply selection cursor intent
    r.intent.action.inserts = true →
    let a := r.apply
    (solid document <+ solid a.patch.document ↔ r.editsSection = true ∨
      ∀ sel ∈ r.usable?, solid (sel.cut document) <+ solid r.content) ∧
    (r.editsSection = false →
      ∀ sel ∈ r.usable?, a.patch.document = sel.replace document r.content) := by
  intro r hi a
  cases he : r.editsSection with
  | true =>
    have hkept : solid document <+ solid a.patch.document :=
      Request.solid_sublist_of_editsSection hi he
    exact ⟨iff_of_true hkept (.inl rfl), nofun⟩
  | false =>
    have hp := Request.patch_of_addition hi he
    have hdocument : a.patch.document = r.fallbackSpan.replace document r.content := by
      simp only [a, hp]
      rfl
    rw [hdocument, Span.solid_sublist_replace_iff, Request.fallbackSpan]
    cases hu : r.usable? with
    | some sel => simp
    | none => simp [Span.cut_empty]

/-- The reply brings the selected word along. -/
theorem addition_with_selected_word :
    let document := "one two".toList
    let r := Request.ofInstruction "expand this".toList document "two three".toList
      (some (Span.sized 4 3)) none
    r.intent.action.inserts = true ∧ solid document <+ solid r.apply.patch.document := by
  intro document r
  have hi : r.intent.action.inserts = true := by decide +kernel
  obtain ⟨hiff, _⟩ := addition_keeps_text_iff "expand this".toList document "two three".toList
    (some (Span.sized 4 3)) none none hi
  refine ⟨hi, ?_⟩
  rw [hiff]
  exact .inr (by decide +kernel)

/-- The reply is the new text alone, as it was asked for, and takes the place of the selected
word. -/
theorem addition_over_selected_word :
    let document := "one two".toList
    let r := Request.ofInstruction "add a word".toList document "three".toList
      (some (Span.sized 4 3)) none
    r.intent.action = .add ∧ ¬ solid document <+ solid r.apply.patch.document := by
  intro document r
  have hdocument : r.apply.patch.document = "one three".toList := by decide +kernel
  rw [hdocument]
  exact ⟨by decide +kernel, by decide +kernel⟩

end TexSplice
