import Mathlib.Data.List.Basic
import TexSplice.Proofs.Prompt.Excerpts

/-! # What a prompt shows of a document

A prompt shows the selected text, the text of the section that is named, or the end of the document,
and of a document without that section, where one is to be written, it shows nothing. All else in it
comes from the request. So documents that show the same make the same prompt, and nothing else in
them can be told from it. What is shown stands in the prompt as it is, and so does the message: a
template is filled once, and what was filled in is never read as a template again. -/
namespace TexSplice.Prompt

open Outline (ofText)

/-! ## Filled templates -/

namespace Template

variable {template : Template}

/-- What is filled in stands there as it is. -/
theorem infix_fill {slot : Slot} {value : Slot → Text} {t : Text} (h : .slot slot ∈ template)
    (ht : value slot = t) : t <:+: template.fill value := by
  rw [fill, List.flatMap_def]
  exact List.infix_of_mem_flatten (List.mem_map.mpr ⟨_, h, ht⟩)

/-- A slot that a template does not have is not filled in. -/
theorem fill_congr {v w : Slot → Text} (h : ∀ slot, .slot slot ∈ template → v slot = w slot) :
    template.fill v = template.fill w := by
  refine List.flatMap_congr fun piece hpiece => ?_
  cases piece with
  | fixed t => rfl
  | slot s => exact h s hpiece

end Template

/-! ## Excerpts -/

/-- As much of a section as a prompt about it shows. -/
def excerptFor (action : Action) (content : Text) : Text :=
  if action = .delete then content.take excerptLength else content

theorem excerptFor_excerptFor (action : Action) (content : Text) :
    excerptFor action (excerptFor action content) = excerptFor action content := by
  unfold excerptFor
  split
  · rw [List.take_take, Nat.min_self]
  · rfl

/-- The rest of a section that is to be deleted is not shown. -/
theorem aboutSection_excerptFor (message name content : Text) (action : Action)
    (placement : Placement) :
    aboutSection message name (excerptFor action content) action placement =
      aboutSection message name content action placement := by
  by_cases haction : action = .delete
  · subst haction
    have hslot : Piece.slot .sectionContent ∉ sectionDelete := by decide
    refine Template.fill_congr fun slot h => ?_
    cases slot with
    | sectionExcerpt => exact excerptFor_excerptFor .delete content
    | sectionContent => exact absurd h hslot
    | _ => rfl
  · rw [excerptFor, if_neg haction]

theorem tail_tail (t : Text) : tail (tail t) = tail t :=
  tail_drop_eq_iff.mpr (.inr (Nat.le_refl _))

/-! ## What is shown -/

/-- What a prompt shows of a document. -/
inductive Shown where
  | selection (text : Text)
  | sectionText (text : Text)
  /-- Nothing, since the section is not there yet. -/
  | nothing
  | ending (text : Text)
deriving Repr, DecidableEq

def Shown.text : Shown → Text
  | selection text | sectionText text | ending text => text
  | nothing => []

def Shown.isSelection : Shown → Bool
  | selection _ => true
  | _ => false

namespace Ask

/-- There is no selection, or none that holds anything. -/
def SelectsNothing (a : Ask) : Prop := ∀ s ∈ a.selection, s.isEmpty = true

def Locates (a : Ask) (b : Boundary) : Prop :=
  ∃ name ∈ a.target, (ofText a.document).locate a.document name = .ok (some b)

/-- The target is no section of the document, and is to be one. -/
def WantsNew (a : Ask) : Prop :=
  ∃ name ∈ a.target, name ≠ [] ∧ (ofText a.document).locate a.document name = .ok none ∧
    (a.action = .add ∨ Intent.asksForCreation a.message = true)

/-- What a request shows of its document. A selection that holds something but does not fit is left
out: where the document ends in such a prompt depends on it. -/
inductive Shows (a : Ask) : Shown → Prop
  | selection {s : Span} (hs : a.selection = some s) (hne : s.isEmpty = false)
      (hfits : s.fits a.document = true) : Shows a (.selection (s.cut a.document))
  | sectionText {b : Boundary} (hnothing : a.SelectsNothing) (hb : a.Locates b) :
      Shows a (.sectionText (excerptFor a.action b.frame.middle))
  | nothing (hnothing : a.SelectsNothing) (hnew : a.WantsNew) : Shows a .nothing
  | ending (hnothing : a.SelectsNothing) (hlocates : ∀ b, ¬ a.Locates b) (hnew : ¬ a.WantsNew) :
      Shows a (.ending (tail a.document))

/-- The body of a prompt that shows this and takes all else from the request. -/
def bodyShowing (a : Ask) : Shown → Text
  | .selection text => aboutSelection a.message text a.action
  | .sectionText text => aboutSection a.message (a.target.getD []) text a.action a.placement
  | .nothing => forNewSection a.message (a.target.getD [])
  | .ending text => aboutDocument a.message text none

def promptShowing (a : Ask) (shown : Shown) : Text :=
  a.bodyShowing shown ++ ['\n', '\n'] ++ rules a.action a.target shown.isSelection

variable {a : Ask} {shown : Shown}

/-! ### Subjects -/

theorem selectedText_of_selectsNothing (h : a.SelectsNothing) : a.selectedText = [] := by
  unfold selectedText selected
  cases hs : a.selection with
  | none => rfl
  | some s => simp [h s hs]

theorem selectedText_of_fits {s : Span} (hs : a.selection = some s) (hne : s.isEmpty = false)
    (hfits : s.fits a.document = true) : a.selectedText = s.cut a.document ∧ a.selectedText ≠ [] := by
  have htext : a.selectedText = s.cut a.document := by simp [selectedText, selected, hs, hne, hfits]
  refine ⟨htext, ?_⟩
  have hle := s.start_le_stop
  simp only [Span.isEmpty, Span.fits, beq_eq_false_iff_ne, decide_eq_true_eq] at hne hfits
  rw [htext]
  refine List.ne_nil_of_length_pos ?_
  simp only [Span.cut, Text.slice, List.length_drop, List.length_take]
  omega

/-- Without selected text a named section is asked about, and the document if none is named. -/
theorem subject_of_no_text (h : a.selectedText = []) :
    a.subject (ofText a.document) = .ok (match Intent.named? a.target with
      | none => .document
      | some name => a.namedSubject (ofText a.document) name
          ((ofText a.document).boundary? a.document name)) := by
  rw [subject, h]
  cases Intent.named? a.target with
  | none => rfl
  | some name => simp only [List.isEmpty_nil, if_true, Outline.locate_ofText, Except.map]

/-- A section that is not there is asked for if the action adds or the message speaks of writing. -/
theorem namedSubject_none {o : Outline} {name : Text}
    (hname : Intent.named? (some name) = some name) (hfind : o.find? name = none) :
    a.namedSubject o name none =
      if a.action = .add ∨ Intent.asksForCreation a.message = true then .newSection name
      else .document := by
  simp [namedSubject, Intent.createsSection, hname, hfind]

theorem ne_nil_of_boundary? {o : Outline} {t name : Text} {b : Boundary}
    (h : o.boundary? t name = some b) : name ≠ [] := by
  rintro rfl
  cases h

theorem subject_of_locates {b : Boundary} (h : a.selectedText = []) (hb : a.Locates b) :
    a.subject (ofText a.document) = .ok (.sectionText (a.target.getD []) b.frame.middle) := by
  obtain ⟨name, htarget, hlocate⟩ := hb
  rw [Outline.locate_ofText, Except.ok.injEq] at hlocate
  obtain ⟨c, name, rfl⟩ := List.exists_cons_of_ne_nil (ne_nil_of_boundary? hlocate)
  rw [subject_of_no_text h, Option.mem_def.mp htarget]
  simp only [Intent.named?, hlocate]
  rfl

theorem subject_of_wantsNew (h : a.selectedText = []) (hnew : a.WantsNew) :
    a.subject (ofText a.document) = .ok (.newSection (a.target.getD [])) := by
  obtain ⟨name, htarget, hname, hlocate, hwish⟩ := hnew
  rw [Outline.locate_ofText, Except.ok.injEq] at hlocate
  obtain ⟨c, name, rfl⟩ := List.exists_cons_of_ne_nil hname
  rw [subject_of_no_text h, Option.mem_def.mp htarget]
  simp only [Intent.named?, hlocate]
  rw [namedSubject_none rfl (Option.map_eq_none_iff.mp hlocate), if_pos hwish]
  rfl

theorem subject_of_neither (h : a.selectedText = []) (hlocates : ∀ b, ¬ a.Locates b)
    (hnew : ¬ a.WantsNew) : a.subject (ofText a.document) = .ok .document := by
  rw [subject_of_no_text h]
  cases htarget : a.target with
  | none => rfl
  | some name =>
    cases name with
    | nil => rfl
    | cons c name =>
      simp only [Intent.named?, Except.ok.injEq]
      cases hb : (ofText a.document).boundary? a.document (c :: name) with
      | some b =>
        have hlocate := Outline.locate_ofText a.document (c :: name)
        rw [hb] at hlocate
        exact absurd ⟨_, htarget, hlocate⟩ (hlocates b)
      | none =>
        have hlocate := Outline.locate_ofText a.document (c :: name)
        rw [hb] at hlocate
        rw [namedSubject_none rfl (Option.map_eq_none_iff.mp hb), if_neg]
        exact fun hwish => hnew ⟨_, htarget, List.cons_ne_nil c name, hlocate, hwish⟩

theorem context_of_selectsNothing (h : a.SelectsNothing) :
    context a.document a.selection = a.document := by
  unfold context
  cases hs : a.selection with
  | none => rfl
  | some s => exact if_pos (h s hs)

theorem prompt_of_subject {o : Outline} {subject : Subject} (h : a.subject o = .ok subject) :
    a.prompt o = .ok (a.body subject ++ ['\n', '\n'] ++
      rules a.action a.target (!a.selectedText.isEmpty)) := by
  rw [prompt, h]
  rfl

/-- A prompt is told by what it shows. -/
theorem Shows.prompt_eq (h : a.Shows shown) :
    a.prompt (ofText a.document) = .ok (a.promptShowing shown) := by
  cases h with
  | selection hs hne hfits =>
    obtain ⟨htext, htext_ne⟩ := selectedText_of_fits hs hne hfits
    have hempty : a.selectedText.isEmpty = false := List.isEmpty_eq_false_iff.mpr htext_ne
    have hsubject : a.subject (ofText a.document) = .ok (.selection a.selectedText) := by
      rw [subject, hempty]
      rfl
    rw [prompt_of_subject hsubject, hempty, htext]
    rfl
  | sectionText hnothing hb =>
    have htext := selectedText_of_selectsNothing hnothing
    rw [prompt_of_subject (subject_of_locates htext hb), htext, promptShowing, bodyShowing,
      aboutSection_excerptFor]
    rfl
  | nothing hnothing hnew =>
    have htext := selectedText_of_selectsNothing hnothing
    rw [prompt_of_subject (subject_of_wantsNew htext hnew), htext]
    rfl
  | ending hnothing hlocates hnew =>
    have htext := selectedText_of_selectsNothing hnothing
    have hbody : aboutDocument a.message a.document a.selection =
        aboutDocument a.message (tail a.document) none := by
      rw [aboutDocument_eq_iff, context_of_selectsNothing hnothing]
      exact (tail_tail a.document).symm
    rw [prompt_of_subject (subject_of_neither htext hlocates hnew), htext, body, hbody]
    rfl

/-! ### What stands in a prompt -/

theorem message_infix_bodyShowing (a : Ask) (shown : Shown) :
    a.message <:+: a.bodyShowing shown := by
  cases shown with
  | selection text =>
    have hslot : .slot .userMessage ∈
        if a.action == .delete then selectionDelete else selectionEdit := by
      split <;> decide
    exact Template.infix_fill hslot rfl
  | sectionText text =>
    have hslot : .slot .userMessage ∈
        if a.action == .delete then sectionDelete else sectionEdit := by
      split <;> decide
    exact Template.infix_fill hslot rfl
  | nothing =>
    have hslot : .slot .userMessage ∈ sectionCreate := by decide
    exact Template.infix_fill hslot rfl
  | ending text =>
    have hslot : .slot .userMessage ∈ wholeDocument := by decide
    exact Template.infix_fill hslot rfl

theorem excerptFor_infix_aboutSection (message name content : Text) (action : Action)
    (placement : Placement) :
    excerptFor action content <:+: aboutSection message name content action placement := by
  by_cases haction : action = .delete
  · subst haction
    have hslot : .slot .sectionExcerpt ∈ sectionDelete := by decide
    exact Template.infix_fill hslot rfl
  · have hslot : .slot .sectionContent ∈
        if action == .delete then sectionDelete else sectionEdit := by
      rw [if_neg (by simpa using haction)]
      decide
    rw [excerptFor, if_neg haction]
    exact Template.infix_fill hslot rfl

theorem tail_infix_aboutDocument (message t : Text) : tail t <:+: aboutDocument message t none := by
  have hslot : .slot .documentTail ∈ wholeDocument := by decide
  exact Template.infix_fill hslot rfl

theorem Shows.text_infix_bodyShowing (h : a.Shows shown) : shown.text <:+: a.bodyShowing shown := by
  cases h with
  | selection hs _ _ =>
    have hslot : .slot .selectedText ∈
        if a.action == .delete then selectionDelete else selectionEdit := by
      split <;> decide
    exact Template.infix_fill hslot rfl
  | @sectionText b _ _ =>
    rw [bodyShowing, aboutSection_excerptFor]
    exact excerptFor_infix_aboutSection ..
  | nothing => exact List.nil_infix
  | ending =>
    have h := tail_infix_aboutDocument a.message (tail a.document)
    rw [tail_tail] at h
    rw [Shown.text, bodyShowing]
    exact h

def onDocument (a : Ask) (document : Text) (selection : Option Span) : Ask :=
  { a with document, selection }

end Ask

/-- **A prompt shows nothing else of a document.** A request that shows the same of two documents gets
the same prompt for both: the same selected text, the same text of the section that is located (its
first `excerptLength` characters, if it is to be deleted), nothing for a section that is located in
neither and is to be written, or else the same last `tailLength` characters. The message and what is
shown stand in the prompt as they are. -/
theorem same_prompt_of_same_shown (a : Ask) (document : Text) (selection : Option Span)
    (shown : Shown) (ha : a.Shows shown) (hb : (a.onDocument document selection).Shows shown) :
    ∃ p, a.prompt (ofText a.document) = .ok p ∧
      (a.onDocument document selection).prompt (ofText document) = .ok p ∧
      a.message <:+: p ∧ shown.text <:+: p := by
  have hbody : a.bodyShowing shown <:+: a.promptShowing shown := by
    rw [Ask.promptShowing, List.append_assoc]
    exact (List.prefix_append ..).isInfix
  refine ⟨a.promptShowing shown, ha.prompt_eq, hb.prompt_eq, ?_, ?_⟩
  · exact (a.message_infix_bodyShowing shown).trans hbody
  · exact ha.text_infix_bodyShowing.trans hbody

/-- The section has other text before it in one document and another section behind it in the other.
Braces stand in it and in the message, one of them left open. -/
theorem same_prompt_of_same_section :
    let text := "\\section\x7bResults\x7d\nWe \x7bmeasured\x7d.".toList
    let a : Ask := ⟨"fix \x7b0\x7d and \x7b".toList, "Hi \x7b\n".toList ++ text, none,
      some "results".toList, .fix, .ending⟩
    let document := text ++ "\n\\section\x7bEnd\x7d".toList
    let selection := some (Span.empty 3)
    a.Shows (.sectionText text) ∧ (a.onDocument document selection).Shows (.sectionText text) ∧
      ∃ p, a.prompt (ofText a.document) = .ok p ∧
        (a.onDocument document selection).prompt (ofText document) = .ok p ∧
        a.message <:+: p ∧ text <:+: p := by
  intro text a document selection
  have hmiddle : ((ofText a.document).boundary? a.document "results".toList).map
      (fun b => b.frame.middle) = some text := by decide +kernel
  have hmiddle' : ((ofText document).boundary? document "results".toList).map
      (fun b => b.frame.middle) = some text := by decide +kernel
  obtain ⟨b, hb, hb_text⟩ := Option.map_eq_some_iff.mp hmiddle
  obtain ⟨c, hc, hc_text⟩ := Option.map_eq_some_iff.mp hmiddle'
  have ha : a.Shows (.sectionText text) := by
    have hlocates : a.Locates b := ⟨_, rfl, by rw [Outline.locate_ofText, hb]⟩
    rw [← hb_text]
    exact .sectionText nofun hlocates
  have hb : (a.onDocument document selection).Shows (.sectionText text) := by
    have hnothing : (a.onDocument document selection).SelectsNothing := by
      rintro s ⟨⟩
      rfl
    have hlocates : (a.onDocument document selection).Locates c :=
      ⟨_, rfl, (Outline.locate_ofText document _).trans (congrArg Except.ok hc)⟩
    rw [← hc_text]
    exact .sectionText hnothing hlocates
  exact ⟨ha, hb, same_prompt_of_same_shown a document selection _ ha hb⟩

end TexSplice.Prompt
