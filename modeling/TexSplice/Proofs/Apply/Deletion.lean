import TexSplice.Proofs.Apply.Fallback
import TexSplice.Proofs.Text.Spans

/-! # What a deletion takes out

A deletion that the reply does not confirm is no deletion: the reply takes the place of the
selection, or is inserted. A deletion of a selection keeps all that stands outside it, but ONLY if
the selection lies within the document: one that reaches past the end counts as none, and without a
section or a selection a deletion takes out everything. -/
namespace TexSplice

/-! ## Deletions that are not confirmed -/

namespace Request

variable {r : Request}

theorem strategy_of_unconfirmed (hd : r.intent.action = .delete)
    (hb : Text.allBlank r.reply = false) (hc : Reply.confirmsDeletion r.reply = false) :
    r.apply.strategy ≠ .namedSection ∧ r.apply.strategy ≠ .deletion := by
  constructor
  · rw [ne_eq, strategy_eq_namedSection_iff]
    simp [editsSection, hd, hc]
  · rw [ne_eq, strategy_eq_deletion_iff]
    simp [hb, hc]

end Request

/-- **A deletion that is not confirmed takes out nothing but a selection.** The content of the reply
is put in the place of the selection if there is one that can be used; else it is inserted, and the
whole document stands around it. -/
theorem unconfirmed_deletion_keeps (instruction document reply : Text) (selection : Option Span)
    (cursor : Option Int) (intent : Option Intent) :
    let r := Request.ofInstruction instruction document reply selection cursor intent
    r.intent.action = .delete → Text.allBlank reply = false →
    Reply.confirmsDeletion reply = false →
    let a := r.apply
    let written := a.patch.range.cut a.patch.document
    written = r.content ∧
      match r.usable? with
      | some sel => a.patch.document = document.take sel.start ++ written ++ document.drop sel.stop
      | none => ∃ offset, a.patch.document =
          document.take offset ++ written ++ document.drop offset := by
  intro r hd hb hc a written
  obtain ⟨hs, hdel⟩ := Request.strategy_of_unconfirmed (r := r) hd hb hc
  have hp : a.patch = .ofSpan document r.fallbackSpan r.content := Request.patch_of_fallback hs hdel
  have hw : written = r.content := by
    simp only [written, hp]
    exact Span.cut_replace _ r.start_fallbackSpan_le
  have hdocument : a.patch.document =
      document.take r.fallbackSpan.start ++ written ++ document.drop r.fallbackSpan.stop := by
    rw [hw, hp]
    rfl
  refine ⟨hw, ?_⟩
  cases hu : r.usable? with
  | some sel => simpa [Request.fallbackSpan, hu] using hdocument
  | none => exact ⟨r.insertionPoint, by simpa [Request.fallbackSpan, hu, Span.empty] using hdocument⟩

/-- The section is named, but the reply asks back. -/
theorem unconfirmed_deletion_of_section :
    let document := "\\section{Methods}\nWe measured.".toList
    let intent : Intent := ⟨.delete, .ending, some "methods".toList, false, false, .simple⟩
    let r := Request.ofInstruction "delete the methods section".toList document "Sure?".toList
      none none (some intent)
    ∃ offset, r.apply.patch.document =
      document.take offset ++ "Sure?".toList ++ document.drop offset := by
  intro document intent r
  obtain ⟨hw, offset, h⟩ := unconfirmed_deletion_keeps "delete the methods section".toList document
    "Sure?".toList none none (some intent) rfl rfl (by decide +kernel)
  have hcontent : r.content = "Sure?".toList := by decide +kernel
  refine ⟨offset, ?_⟩
  rw [h, hw, hcontent]

/-- A deletion that is not confirmed does not only insert: here the question takes the place of the
selected word. -/
theorem unconfirmed_deletion_of_word :
    let document := "one two".toList
    let r := Request.ofInstruction "delete this".toList document "Sure?".toList
      (some (Span.sized 4 3)) none
    let patch := r.apply.patch
    let written := patch.range.cut patch.document
    r.intent.action = .delete ∧ Text.allBlank r.reply = false ∧
      Reply.confirmsDeletion r.reply = false ∧
      ¬ ∃ offset, patch.document = document.take offset ++ written ++ document.drop offset := by
  intro document r patch written
  have hpatch : patch = ⟨"one Sure?".toList, Span.sized 4 5⟩ := by decide +kernel
  refine ⟨by decide +kernel, rfl, by decide +kernel, ?_⟩
  rintro ⟨offset, h⟩
  -- an insertion would be longer than the document by all that was written
  have hlen := congrArg List.length h
  simp only [written, hpatch, List.length_append, List.length_take, List.length_drop] at hlen
  have hold : document.length = 7 := rfl
  have hnew : "one Sure?".toList.length = 9 := rfl
  have hwritten : ((Span.sized 4 5).cut "one Sure?".toList).length = 5 := rfl
  omega

/-! ## Deletions of a selection -/

namespace Request

variable {r : Request}

theorem usable?_of_nonempty {sel : Span} (hsel : r.selection = some sel)
    (hne : sel.isEmpty = false) :
    r.usable? = if sel.fits r.document = true then some sel else none := by
  simp only [usable?, hsel, Option.filter, hne, Bool.not_false, Bool.true_and]

/-- A selection that does not fit counts as none, and then everything is deleted. -/
theorem document_of_deletion {sel : Span} (hs : r.apply.strategy = .deletion)
    (hsel : r.selection = some sel) (hne : sel.isEmpty = false) :
    r.apply.patch.document =
      if sel.fits r.document = true then sel.outside r.document else [] := by
  have hwin := r.attempt_strategy
  rw [hs] at hwin
  obtain ⟨_, _, _, hp⟩ := deleteUnnamed_eq_some hwin
  rw [usable?_of_nonempty hsel hne] at hp
  rw [hp]
  cases sel.fits r.document with
  | true => exact sel.replace_nil r.document
  | false => rfl

end Request

/-- **A deletion keeps what stands outside its selection exactly if the selection fits.** One that
fits is taken out and nothing else. One that reaches past the end of the document takes everything
with it, so something is lost unless nothing stood before it. -/
theorem deletion_keeps_outside_iff (instruction document reply : Text) (sel : Span)
    (cursor : Option Int) (intent : Option Intent) :
    let r := Request.ofInstruction instruction document reply (some sel) cursor intent
    sel.isEmpty = false → r.intent.action = .delete → Intent.named? r.intent.target = none →
    Text.allBlank reply = true ∨ Reply.confirmsDeletion reply = true →
    let a := r.apply
    a.patch.document = (if sel.fits document = true then sel.outside document else []) ∧
      ((sel.outside document).Sublist a.patch.document ↔
        sel.fits document = true ∨ sel.start = 0 ∨ document = []) := by
  intro r hne hd hn hr a
  have hs : a.strategy = .deletion := r.strategy_eq_deletion_iff.mpr ⟨hd, hn, hr⟩
  have hdocument : a.patch.document =
      if sel.fits document = true then sel.outside document else [] :=
    Request.document_of_deletion hs rfl hne
  refine ⟨hdocument, ?_⟩
  rw [hdocument]
  cases hfits : sel.fits document with
  | true => simp
  | false =>
    rw [if_neg Bool.false_ne_true, List.sublist_nil, Span.outside_of_not_fits hfits,
      List.take_eq_nil_iff]
    simp

/-- The selected word is the last of the document, and the reply confirms that it is deleted. -/
theorem deletion_of_last_word :
    let sel := Span.sized 4 3
    let document := "one two".toList
    let intent : Intent := ⟨.delete, .ending, none, false, true, .medium⟩
    let r := Request.ofInstruction "delete this".toList document "I've deleted it".toList
      (some sel) none (some intent)
    r.apply.patch.document = "one ".toList ∧
      (sel.outside document).Sublist r.apply.patch.document := by
  intro sel document intent r
  obtain ⟨hdocument, hiff⟩ := deletion_keeps_outside_iff "delete this".toList document
    "I've deleted it".toList sel none (some intent) rfl rfl rfl (.inr (by decide +kernel))
  have hfits : sel.fits document = true := by decide
  have hkept : sel.outside document = "one ".toList := by decide
  rw [if_pos hfits, hkept] at hdocument
  constructor
  · rw [hdocument]
  · rw [hiff]
    exact .inl hfits

/-- A selection that reaches one character too far loses the text before it. -/
theorem deletion_past_the_end :
    let sel := Span.sized 4 4
    let document := "one two".toList
    let r := Request.ofInstruction "delete this".toList document [] (some sel) none
    r.intent.action = .delete ∧ Intent.named? r.intent.target = none ∧
      ¬ (sel.outside document).Sublist r.apply.patch.document := by
  intro sel document r
  have hdocument : r.apply.patch.document = [] := by decide +kernel
  have houtside : sel.outside document = "one ".toList := by decide
  refine ⟨by decide +kernel, by decide +kernel, ?_⟩
  rw [hdocument, houtside, List.sublist_nil]
  decide

end TexSplice
