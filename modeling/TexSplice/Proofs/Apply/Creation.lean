import TexSplice.Check
import TexSplice.Proofs.Apply.Strategy
import TexSplice.Proofs.Intent.Creating
import TexSplice.Proofs.Prompt.Shown

/-! # Which requests get a new section

The prompt, the check after the edit and the edit itself each decide whether an instruction wants a
section that the document does not have. All three ask for a section that is named and not there.
The prompt and the check want an action that adds, and speaking of writing always is one; the edit
wants the instruction to SPEAK of writing, which "add a conclusion" does not. -/
namespace TexSplice

open Outline (ofText)

/-! ## Instructions that speak of writing -/

namespace Intent

theorem eq_some_of_named? {target : Option Text} {name : Text} (h : named? target = some name) :
    target = some name := by
  unfold named? at h
  split at h
  · exact h
  · cases h

theorem named?_some {target : Option Text} {name : Text} (h : named? target = some name) :
    named? (some name) = some name := by
  rwa [eq_some_of_named? h] at h

/-- A section that is named and not there is asked for by speaking of writing. -/
theorem createsSection_of_missing (instruction : Text) {target : Option Text} {name t : Text}
    (hn : named? target = some name) (hb : (ofText t).boundary? t name = none) :
    createsSection instruction target (ofText t) = asksForCreation instruction := by
  have hfind : (ofText t).find? name = none := Option.map_eq_none_iff.mp hb
  simp [createsSection, hn, hfind]

-- To add is not to write.
example : asksForCreation "add a conclusion".toList = false := by decide +kernel

end Intent

/-! ## Requests that write a section -/

namespace Request

variable {r : Request} {name : Text}

/-- The named section is written anew: the trace tells so, and the new document is the one in which
the content of the reply, under a heading for the name, is a section of its own. -/
structure Creates (r : Request) (name : Text) : Prop where
  told : .creating name ∈ r.apply.trace
  patch : r.apply.patch =
    .ofEdit (r.outline.create r.document (Reply.withHeading r.content name) name)

/-- What a section is written for: it is named and not there, the action inserts, the intent asks
for it and the reply has content. -/
structure WantsSection (r : Request) (name : Text) : Prop where
  named : Intent.named? r.intent.target = some name
  missing : r.outline.boundary? r.document name = none
  inserts : r.intent.action.inserts = true
  asked : r.intent.creates = true
  content : r.content ≠ []

/-- An event is of a strategy that was tried, or tells that one was passed over. -/
theorem mem_events_firstOf {e : Event} (he : ∀ s, e ≠ .skipped s) :
    ∀ {l : List Strategy}, e ∈ (r.firstOf l).1 → ∃ s ∈ l, e ∈ (r.attempt s).1
  | [], h => by cases h
  | s :: rest, h => by
    cases hs : r.attempt s with
    | mk events patch =>
      cases patch with
      | some patch =>
        simp only [firstOf, hs] at h
        exact ⟨s, List.mem_cons_self, by rw [hs]; exact h⟩
      | none =>
        simp only [firstOf, hs] at h
        rcases List.mem_append.mp h with h | h
        · exact ⟨s, List.mem_cons_self, by rw [hs]; exact h⟩
        · obtain ⟨u, hu, hmem⟩ := mem_events_firstOf he (List.mem_of_ne_of_mem (he s) h)
          exact ⟨u, List.mem_cons_of_mem _ hu, hmem⟩

/-- Only the strategy of the named section tells of a new section. -/
theorem creating_mem_editSection (h : .creating name ∈ r.apply.trace) :
    .creating name ∈ r.editSection.1 := by
  have hevents : .creating name ∈
      (r.firstOf [.namedSection, .deletion, .selection, .cursor]).1 := by
    simpa [apply] using h
  obtain ⟨s, _, hs⟩ := mem_events_firstOf (fun _ => by simp) hevents
  cases s with
  | namedSection => exact hs
  | deletion => cases stage_of_mem_deleteUnnamed hs
  | selection => cases stage_of_mem_usableSelection hs
  | cursor | documentStart => cases hs

theorem creating_not_mem_editFound {target : Text} {b : Boundary} :
    .creating name ∉ (r.editFound target b).1 := by
  unfold editFound addTo replaceWhole
  cases r.intent.action with
  | add | expand => dsimp only; split <;> simp
  | delete | replace | fix | improve => exact List.not_mem_nil

theorem obstacle?_ne_creating {target : Text} : r.obstacle? target ≠ some (.creating name) := by
  unfold obstacle?
  cases r.intent.action with
  | delete | fix | improve => dsimp only; split <;> simp
  | add | expand | replace => simp

theorem of_creating_mem_editMissing {target : Text} (h : .creating name ∈ (r.editMissing target).1) :
    target = name ∧ r.intent.action.inserts = true ∧ r.intent.creates = true ∧ r.content ≠ [] := by
  unfold editMissing create at h
  split at h
  · rename_i hi
    split at h
    · rename_i hc
      obtain ⟨hc, hne⟩ := Bool.and_eq_true_iff.mp hc
      exact ⟨(Event.creating.inj (List.mem_singleton.mp h)).symm, hi, hc, by simpa using hne⟩
    · cases h
  · cases h

theorem wantsSection_of_creating (h : .creating name ∈ r.editSection.1) : r.WantsSection name := by
  obtain ⟨target, hn, ho | hsearch | ⟨b, _, hfound⟩ | ⟨hb, hmissing⟩⟩ := mem_editSection h
  · exact absurd ho obstacle?_ne_creating
  · have hstage := congrArg Event.stage hsearch
    rw [stage_search] at hstage
    cases hstage
  · exact absurd hfound creating_not_mem_editFound
  · obtain ⟨rfl, hi, hc, hne⟩ := of_creating_mem_editMissing hmissing
    exact ⟨hn, hb, hi, hc, hne⟩

theorem WantsSection.creates (h : r.WantsSection name) : r.Creates name := by
  obtain ⟨hn, hb, hi, hc, hne⟩ := h
  have ho : r.obstacle? name = none := by
    have := r.isNone_obstacle? name
    revert hi this
    cases r.intent.action <;> simp [Action.inserts]
  have hcontent : r.content.isEmpty = false := List.isEmpty_eq_false_iff.mpr hne
  have hedit : r.editSection = ([.notLocated name r.outline.titles, .creating name],
      some (.ofEdit (r.outline.create r.document (Reply.withHeading r.content name) name))) := by
    simp [editSection, hn, ho, hb, editMissing, create, hi, hc, hcontent, Event.search]
  refine ⟨?_, ?_⟩
  · simp [apply, firstOf, attempt, hedit]
  · simp [apply, firstOf, attempt, hedit]

theorem creates_iff_wantsSection : r.Creates name ↔ r.WantsSection name :=
  ⟨fun h => wantsSection_of_creating (creating_mem_editSection h.told), WantsSection.creates⟩

/-- What the trace tells of a new section is true. -/
theorem creates_of_creating (h : .creating name ∈ r.apply.trace) : r.Creates name :=
  (wantsSection_of_creating (creating_mem_editSection h)).creates

end Request

/-! ## The three parts -/

namespace Check

theorem addsSection_iff {t : Text} {i : Intent} :
    addsSection t (some i) = true ↔ i.action = .add ∧
      ∃ name, Intent.named? i.target = some name ∧ (ofText t).boundary? t name = none := by
  cases hn : Intent.named? i.target <;> simp [addsSection, hn]

end Check

namespace Prompt.Ask

/-- Without a selection a prompt asks for a section that is named and not there if the action adds,
or the message speaks of writing. -/
theorem subject_eq_newSection_iff (a : Ask) (name : Text) (hsel : a.selection = none) :
    a.subject (ofText a.document) = .ok (.newSection name) ↔
      Intent.named? a.target = some name ∧
        (ofText a.document).boundary? a.document name = none ∧
        (a.action = .add ∨ Intent.asksForCreation a.message = true) := by
  have hnothing : a.SelectsNothing := by simp [SelectsNothing, hsel]
  rw [subject_of_no_text (selectedText_of_selectsNothing hnothing), Except.ok.injEq]
  cases hn : Intent.named? a.target with
  | none => simp
  | some target =>
    simp only [Option.some_inj]
    cases hb : (ofText a.document).boundary? a.document target with
    | some b =>
      refine ⟨fun h => (by cases h), ?_⟩
      rintro ⟨rfl, hnot, _⟩
      rw [hb] at hnot
      cases hnot
    | none =>
      rw [namedSubject_none (Intent.named?_some hn) (Option.map_eq_none_iff.mp hb)]
      by_cases h : a.action = .add ∨ Intent.asksForCreation a.message = true
      · rw [if_pos h]
        constructor
        · intro he
          cases he
          exact ⟨rfl, hb, h⟩
        · rintro ⟨rfl, _⟩
          rfl
      · rw [if_neg h]
        refine ⟨fun he => (by cases he), ?_⟩
        rintro ⟨_, _, hor⟩
        exact absurd hor h

end Prompt.Ask

/-- With the intent derived from the instruction, a section is wanted where the instruction speaks
of writing. -/
theorem Request.wantsSection_ofInstruction_iff {instruction document reply name : Text}
    {selection : Option Span} {cursor : Option Int} :
    (ofInstruction instruction document reply selection cursor).WantsSection name ↔
      Intent.named? (Intent.targetOf instruction) = some name ∧
        (ofText document).boundary? document name = none ∧
        Intent.asksForCreation instruction = true ∧ Reply.content reply ≠ [] := by
  constructor
  · rintro ⟨hn, hb, _, hasked, hne⟩
    exact ⟨hn, hb, (Intent.createsSection_of_missing instruction hn hb).symm.trans hasked, hne⟩
  · rintro ⟨hn, hb, hwriting, hne⟩
    refine ⟨hn, hb, ?_, (Intent.createsSection_of_missing instruction hn hb).trans hwriting, hne⟩
    have haction :
        (ofInstruction instruction document reply selection cursor).intent.action = .add :=
      Intent.actionOf_of_asksForCreation hwriting
    rw [haction]
    rfl

/-- **Who asks for a new section.** Without a selection the prompt asks for a new section exactly if
the check afterwards expects one: a section is named, it is not there, and the action adds. The edit
writes one exactly if, besides, the instruction speaks of writing. -/
theorem creation_is_expected_as_asked (instruction document reply : Text) (cursor : Option Int)
    (hreply : Reply.content reply ≠ []) :
    let i := Intent.ofInstruction instruction (ofText document) none
    let a : Prompt.Ask := ⟨instruction, document, none, i.target, i.action, i.placement⟩
    let r := Request.ofInstruction instruction document reply none cursor
    ((∃ name, a.subject (ofText document) = .ok (.newSection name)) ↔
        Check.addsSection document (some i) = true) ∧
      ((∃ name, r.Creates name) ↔
        Check.addsSection document (some i) = true ∧
          Intent.asksForCreation instruction = true) := by
  intro i a r
  have hadd : Intent.asksForCreation instruction = true → i.action = .add :=
    Intent.actionOf_of_asksForCreation
  refine ⟨⟨?_, ?_⟩, ?_, ?_⟩
  · rintro ⟨name, h⟩
    obtain ⟨hn, hb, haction⟩ := (a.subject_eq_newSection_iff name rfl).mp h
    exact Check.addsSection_iff.mpr ⟨haction.elim id hadd, name, hn, hb⟩
  · intro h
    obtain ⟨haction, name, hn, hb⟩ := Check.addsSection_iff.mp h
    exact ⟨name, (a.subject_eq_newSection_iff name rfl).mpr ⟨hn, hb, .inl haction⟩⟩
  · rintro ⟨name, h⟩
    obtain ⟨hn, hb, hwriting, _⟩ :=
      Request.wantsSection_ofInstruction_iff.mp (Request.creates_iff_wantsSection.mp h)
    exact ⟨Check.addsSection_iff.mpr ⟨hadd hwriting, name, hn, hb⟩, hwriting⟩
  · rintro ⟨h, hwriting⟩
    obtain ⟨_, name, hn, hb⟩ := Check.addsSection_iff.mp h
    exact ⟨name, Request.creates_iff_wantsSection.mpr
      (Request.wantsSection_ofInstruction_iff.mpr ⟨hn, hb, hwriting, hreply⟩)⟩

/-- All three ask for a conclusion that is to be written. -/
theorem creation_is_expected_of_writing :
    let i := Intent.ofInstruction "write a conclusion".toList (ofText "Hi".toList) none
    let a : Prompt.Ask :=
      ⟨"write a conclusion".toList, "Hi".toList, none, i.target, i.action, i.placement⟩
    let r := Request.ofInstruction "write a conclusion".toList "Hi".toList "X".toList none (some 0)
    (∃ name, a.subject (ofText "Hi".toList) = .ok (.newSection name)) ∧
      Check.addsSection "Hi".toList (some i) = true ∧ ∃ name, r.Creates name := by
  intro i a r
  obtain ⟨hprompt, hedit⟩ := creation_is_expected_as_asked "write a conclusion".toList "Hi".toList
    "X".toList (some 0) (by decide)
  have hadds : Check.addsSection "Hi".toList (some i) = true := by decide +kernel
  exact ⟨hprompt.mpr hadds, hadds, hedit.mpr ⟨hadds, by decide +kernel⟩⟩

/-- To add a conclusion is not to write one: the prompt and the check are for a new section, and the
reply is inserted like any other. -/
theorem creation_is_not_made_by_adding :
    let i := Intent.ofInstruction "add a conclusion".toList (ofText "Hi".toList) none
    let a : Prompt.Ask :=
      ⟨"add a conclusion".toList, "Hi".toList, none, i.target, i.action, i.placement⟩
    let r := Request.ofInstruction "add a conclusion".toList "Hi".toList "X".toList none none
    Reply.content "X".toList ≠ [] ∧
      (∃ name, a.subject (ofText "Hi".toList) = .ok (.newSection name)) ∧
      Check.addsSection "Hi".toList (some i) = true ∧ ¬∃ name, r.Creates name := by
  intro i a r
  have hnamed : Intent.named? i.target = some "conclusion".toList := by decide +kernel
  have haction : i.action = .add := by decide +kernel
  have hmissing : (ofText "Hi".toList).boundary? "Hi".toList "conclusion".toList = none := by decide
  -- all that matters of the intent is known, so nothing has to evaluate it again
  clear_value i
  refine ⟨by decide, ⟨_, (a.subject_eq_newSection_iff _ rfl).mpr ⟨hnamed, hmissing, .inl haction⟩⟩,
    Check.addsSection_iff.mpr ⟨haction, _, hnamed, hmissing⟩, ?_⟩
  rintro ⟨name, h⟩
  obtain ⟨_, _, hwriting, _⟩ :=
    Request.wantsSection_ofInstruction_iff.mp (Request.creates_iff_wantsSection.mp h)
  exact absurd hwriting (by decide +kernel)

end TexSplice
