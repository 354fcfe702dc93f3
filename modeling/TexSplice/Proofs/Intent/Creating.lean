import TexSplice.Proofs.Intent.FirstTerm
import TexSplice.Proofs.Text.Case

/-! # Instructions that ask for a new section

Whether an instruction speaks of writing is asked twice: of the instruction as it is, for the section
that may be missing, and of its small letters without the blanks around them, for the action. The
answers are one, since small letters stay small and a trimmed text is trimmed. So an intent that asks
for a new section always adds. -/
namespace TexSplice

/-- No section is found for a target: none is named, or the outline has none by that name. -/
def Outline.Lacks (o : Outline) (target : Option Text) : Prop :=
  target = none ∨ ∃ name, target = some name ∧ o.find? name = none

namespace Intent

/-! ## Speaking of writing -/

theorem searched_searched (t : Text) : searched (searched t) = searched t := by
  have hsmall : ∀ c ∈ searched t, Text.IsSmall c := fun c hc =>
    Text.isSmall_of_mem_lower (Text.mem_of_mem_trim hc)
  have hlower : Text.lower (searched t) = searched t := Text.lower_of_isSmall hsmall
  calc searched (searched t)
    _ = Text.trim (searched t) := by rw [searched, hlower]
    _ = searched t := Text.trim_trim _

theorem asksForCreation_searched (instruction : Text) :
    asksForCreation (searched instruction) = asksForCreation instruction := by
  rw [asksForCreation, asksForCreation, searched_searched]

/-- Creation is tried before every other action. -/
theorem actionOf_of_asksForCreation {instruction : Text} (h : asksForCreation instruction = true) :
    actionOf instruction = .add := by
  rw [actionOf, asksForCreation_searched, h, if_pos rfl]

/-! ## Sections that are not there -/

theorem createsSection_iff {instruction : Text} {target : Option Text} {o : Outline} :
    createsSection instruction target o = true ↔
      asksForCreation instruction = true ∧ o.Lacks (named? target) := by
  rw [createsSection, Bool.and_eq_true, Outline.Lacks]
  cases named? target with
  | none => simp
  | some name => simp

/-- No term is empty, so what an instruction names has a name. -/
theorem named?_targetOf (instruction : Text) :
    named? (targetOf instruction) = targetOf instruction := by
  cases htarget : targetOf instruction with
  | none => rfl
  | some name =>
    have hne := (sectionTerms_framed name (mem_sectionTerms htarget)).ne_nil
    cases name with
    | nil => exact absurd rfl hne
    | cons c name => rfl

/-- **An intent that asks for a new section adds, and names none that is there.** It asks for one
exactly if the instruction speaks of writing and names no section, or one that the document does not
have. -/
theorem creation_is_consistent (instruction document : Text) (selection : Option Span) :
    let o := Outline.ofText document
    let i := ofInstruction instruction o selection
    (i.creates = true → i.action = .add ∧ o.Lacks i.target) ∧
      (i.creates = true ↔ asksForCreation instruction = true ∧ o.Lacks i.target) := by
  intro o i
  have htarget : named? i.target = i.target := named?_targetOf instruction
  have hcreates : i.creates = true ↔
      asksForCreation instruction = true ∧ o.Lacks (named? i.target) := createsSection_iff
  rw [htarget] at hcreates
  refine ⟨fun h => ?_, hcreates⟩
  obtain ⟨hasked, hlacks⟩ := hcreates.mp h
  exact ⟨actionOf_of_asksForCreation hasked, hlacks⟩

example :
    let i := ofInstruction " WRITE it up, do not delete it".toList (Outline.ofText []) none
    i.creates = true ∧ i.action = .add ∧ i.target = none := by
  decide +kernel

end Intent

end TexSplice
