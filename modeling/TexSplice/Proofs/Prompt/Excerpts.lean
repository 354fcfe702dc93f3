import TexSplice.Prompt.Build

/-! # Excerpts around selections that do not fit

A selection that reaches past the end of a document counts as none when a prompt is chosen. But a
prompt about the whole document cuts its excerpt around the selection all the same, so it shows the
end of the document only from `contextWindow` characters before the selection on. The excerpt is the
usual one exactly if the selection starts early enough for that. -/
namespace TexSplice.Prompt

/-! ## The end of a document -/

/-- Whether the beginning of a text is cut off cannot be told from its end, unless the cut lies
within it. -/
theorem tail_drop_eq_iff {t : Text} {n : Nat} :
    tail (t.drop n) = tail t ↔ t = [] ∨ n ≤ t.length - tailLength := by
  have hdrop : tail (t.drop n) = t.drop (n + (t.length - n - tailLength)) := by
    rw [tail, List.length_drop, List.drop_drop]
  rw [hdrop, tail]
  constructor
  · intro h
    have hlength := congrArg List.length h
    rw [List.length_drop, List.length_drop] at hlength
    have hpos : 0 < tailLength := by decide
    rcases Nat.eq_zero_or_pos t.length with hnil | hlt
    · exact .inl (List.length_eq_zero_iff.mp hnil)
    · exact .inr (by omega)
  · rintro (rfl | hn)
    · rw [List.drop_nil, List.drop_nil]
    · have hstart : n + (t.length - n - tailLength) = t.length - tailLength := by omega
      rw [hstart]

/-- Of a text that a selection reaches past, the context is all from some characters before the
selection on. -/
theorem context_of_not_fits {t : Text} {s : Span} (hs : s.isEmpty = false)
    (h : s.fits t = false) : context t (some s) = t.drop (s.start - contextWindow) := by
  have hlt : t.length < s.stop := by simpa [Span.fits] using h
  have hstart : (max 0 ((s.start : Int) - contextWindow)).toNat = s.start - contextWindow := by omega
  have hstop : offsetIn t (min (t.length : Int) (s.stop + contextWindow)) = t.length := by
    have hmin : min (t.length : Int) (s.stop + contextWindow) = t.length := by omega
    rw [offsetIn, hmin, if_neg (by omega), Int.toNat_natCast]
  simp only [context, hs, hstart, hstop, Bool.false_eq_true, if_false, Text.slice, List.take_length]

/-- Two prompts about documents differ only by the ends that they show. -/
theorem aboutDocument_eq_iff {message t u : Text} {selection other : Option Span} :
    aboutDocument message t selection = aboutDocument message u other ↔
      tail (context t selection) = tail (context u other) := by
  simp only [aboutDocument, wholeDocument, Piece.str, Template.fill, List.flatMap_cons,
    List.flatMap_nil, List.append_cancel_left_eq, List.append_cancel_right_eq]

/-! ## Prompts -/

namespace Ask

variable {a : Ask} {s : Span}

def unselected (a : Ask) : Ask := { a with selection := none }

theorem selectedText_of_not_fits (hs : a.selection = some s) (h : s.fits a.document = false) :
    a.selectedText = [] := by
  simp [selectedText, selected, hs, h]

/-- What is asked about depends on the selected text alone. -/
theorem subject_unselected (h : a.selectedText = []) (o : Outline) :
    a.unselected.subject o = a.subject o := by
  have hnone : a.unselected.selectedText = [] := rfl
  rw [subject, subject, h, hnone]
  rfl

theorem prompt_unselected (h : a.selectedText = []) (o : Outline) :
    a.unselected.prompt o = (a.subject o).map fun subject =>
      a.unselected.body subject ++ ['\n', '\n'] ++ rules a.action a.target false := by
  rw [prompt, subject_unselected h]
  rfl

theorem prompt_of_no_text (h : a.selectedText = []) (o : Outline) :
    a.prompt o = (a.subject o).map fun subject =>
      a.body subject ++ ['\n', '\n'] ++ rules a.action a.target false := by
  rw [prompt, h]
  rfl

/-- Without selected text the selection shows only in a prompt about the whole document. -/
theorem prompt_eq_unselected_iff (h : a.selectedText = []) (o : Outline) :
    a.prompt o = a.unselected.prompt o ↔
      (a.subject o = .ok .document →
        tail (context a.document a.selection) = tail a.document) := by
  rw [prompt_unselected h, prompt_of_no_text h]
  cases hsubject : a.subject o with
  | error f => simp [Except.map]
  | ok subject =>
    cases subject with
    | document =>
      simp only [Except.map, Except.ok.injEq, List.append_cancel_right_eq, forall_const]
      exact aboutDocument_eq_iff
    | selection text => simp [Except.map, body, unselected]
    | newSection name => simp [Except.map, body, unselected]
    | sectionText name content => simp [Except.map, body, unselected]

end Ask

/-- **When a selection that does not fit is ignored.** A request whose selection holds something and
reaches past the end of the document gets the prompt of the same request with nothing selected, unless
that prompt is about the whole document, the document is not empty, and the selection starts more than
`contextWindow` characters behind the start of what the prompt shows of its end. -/
theorem selection_past_end_is_ignored_iff (a : Ask) (o : Outline) (s : Span)
    (hs : a.selection = some s) (hne : s.isEmpty = false) (hfits : s.fits a.document = false) :
    a.prompt o = a.unselected.prompt o ↔
      (a.unselected.subject o = .ok .document →
        a.document = [] ∨ s.start ≤ a.document.length - tailLength + contextWindow) := by
  have htext := Ask.selectedText_of_not_fits hs hfits
  rw [Ask.prompt_eq_unselected_iff htext, Ask.subject_unselected htext, hs,
    context_of_not_fits hne hfits, tail_drop_eq_iff, Nat.sub_le_iff_le_add]

/-- A selection that reaches one character past the end of a short document is ignored. -/
theorem selection_past_end_is_ignored :
    let a : Ask := ⟨"make it better".toList, "Hi".toList, some ⟨1, 3, by decide⟩, none, .improve,
      .ending⟩
    a.selection = some ⟨1, 3, by decide⟩ ∧ Span.isEmpty ⟨1, 3, by decide⟩ = false ∧
      Span.fits ⟨1, 3, by decide⟩ a.document = false ∧
      a.prompt (.ofText a.document) = a.unselected.prompt (.ofText a.document) := by
  intro a
  refine ⟨rfl, rfl, rfl, ?_⟩
  exact (selection_past_end_is_ignored_iff a _ _ rfl rfl rfl).mpr fun _ => .inr (by decide)

/-- One that starts far behind the end hides the document. -/
theorem selection_past_end_hides_document :
    let a : Ask := ⟨"make it better".toList, "Hi".toList, some ⟨502, 503, by decide⟩, none, .improve,
      .ending⟩
    Span.isEmpty ⟨502, 503, by decide⟩ = false ∧ Span.fits ⟨502, 503, by decide⟩ a.document = false ∧
      a.prompt (.ofText a.document) ≠ a.unselected.prompt (.ofText a.document) := by
  intro a
  refine ⟨rfl, rfl, fun h => ?_⟩
  have htail := (Ask.prompt_eq_unselected_iff rfl _).mp h rfl
  exact absurd htail (by decide)

end TexSplice.Prompt
