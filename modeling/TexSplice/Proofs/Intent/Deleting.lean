import TexSplice.Proofs.Apply.Fallback
import TexSplice.Proofs.Text.Phrases

/-! # Nothing is deleted unasked

Deleting is the one action that can clear a document on a blank reply, so it matters which
instructions are read as it. It takes one of a few phrases, but NOT one of a few words: a phrase may go
on with any ending, so that "clearly" asks for a deletion as "clear" does. -/
namespace TexSplice

namespace Intent

theorem deletePhrases_plain : ∀ phrase ∈ deletePhrases,
    (∀ d ∈ phrase, d.toNat < 128 ∧ d ≠ 'k') ∧ phrase.getLast? ≠ some 'i' ∧ phrase ≠ [] := by
  have hplain : ∀ phrase ∈ deletePhrases,
      phrase.all (fun d => decide (d.toNat < 128 ∧ d ≠ 'k')) = true := by decide
  have hends : ∀ phrase ∈ deletePhrases, phrase.getLast? ≠ some 'i' ∧ phrase ≠ [] := by decide
  intro phrase hphrase
  refine ⟨fun d hd => ?_, hends phrase hphrase⟩
  exact of_decide_eq_true (List.all_eq_true.mp (hplain phrase hphrase) d hd)

/-- An instruction that is read as a deletion has one of the phrases in it, in letters of any case. -/
theorem exists_of_actionOf_eq_delete {instruction : Text} (h : actionOf instruction = .delete) :
    ∃ phrase ∈ deletePhrases, Text.standsFree phrase instruction = true := by
  have hany : hasAny (searched instruction) deletePhrases = true := by
    unfold actionOf at h
    extract_lets t at h
    split_ifs at h with hcreates hdeletes
    exact hdeletes
  obtain ⟨phrase, hmem, hphrase⟩ := List.any_eq_true.mp hany
  obtain ⟨hplain, hlast, hne⟩ := deletePhrases_plain phrase hmem
  exact ⟨phrase, hmem, Text.standsFree_of_hasPhrase hplain hlast hne hphrase⟩

end Intent

namespace Request

variable {r : Request}

/-- A section that an edit writes to is added to or replaced, or it is new. -/
def WritesSection (r : Request) (p : Patch) : Prop :=
  (∃ b, r.located? = some b ∧
    ((∃ content, p = .ofEdit (b.frame.add content r.intent.placement)) ∨
      p = .ofEdit (b.frame.replace r.content))) ∨
  r.located? = none ∧ ∃ target content, p = .ofEdit (r.outline.create r.document content target)

/-- Without a deletion no section is deleted. -/
theorem writesSection_of_ne_delete {p : Patch} (hd : r.intent.action ≠ .delete)
    (h : r.editSection.2 = some p) : r.WritesSection p := by
  obtain ⟨target, _, _, ⟨b, hb, hfound⟩ | ⟨hnone, hmissing⟩⟩ := editSection_eq_some h
  · refine .inl ⟨b, hb, ?_⟩
    cases hi : r.intent.action.inserts with
    | true =>
      obtain ⟨content, _, _, hp⟩ := editFound_inserts hi hfound
      exact .inl ⟨content, hp⟩
    | false =>
      have hp := editFound_replaces hi hfound
      rw [if_neg hd] at hp
      exact .inr hp
  · obtain ⟨_, _, _, hp⟩ := editMissing_eq_some hmissing
    exact .inr ⟨hnone, target, _, hp⟩

end Request

/-- **A deletion needs one of its phrases.** An instruction in which "delete", "remove", "clear" and
"get rid of" stand only behind a letter, if at all, is not read as a deletion. Whatever the reply, it
deletes neither a selection nor the document, and of the section it names nothing but to add to it,
replace it or write it is done. -/
theorem deletion_needs_its_phrase (instruction : Text)
    (h : ∀ phrase ∈ Intent.deletePhrases, Text.standsFree phrase instruction = false) :
    Intent.actionOf instruction ≠ .delete ∧
      ∀ document reply selection cursor,
        let r := Request.ofInstruction instruction document reply selection cursor
        r.apply.strategy ≠ .deletion ∧
          (r.apply.strategy = .namedSection → r.WritesSection r.apply.patch) := by
  have haction : Intent.actionOf instruction ≠ .delete := by
    intro hdelete
    obtain ⟨phrase, hmem, hfree⟩ := Intent.exists_of_actionOf_eq_delete hdelete
    rw [h phrase hmem] at hfree
    cases hfree
  refine ⟨haction, fun document reply selection cursor => ?_⟩
  intro r
  have hd : r.intent.action ≠ .delete := haction
  constructor
  · intro hs
    exact hd (r.strategy_eq_deletion_iff.mp hs).1
  · intro hs
    have hwin := r.attempt_strategy
    rw [hs] at hwin
    exact Request.writesSection_of_ne_delete hd hwin

/-- The phrase stands in the instruction, but behind a letter. -/
theorem undeleted_is_kept :
    let r := Request.ofInstruction "Keep what was UNDELETED".toList "Hi".toList [] none none
    Intent.actionOf "Keep what was UNDELETED".toList ≠ .delete ∧ r.apply.strategy ≠ .deletion := by
  intro r
  obtain ⟨haction, hkept⟩ := deletion_needs_its_phrase "Keep what was UNDELETED".toList
    (by decide +kernel)
  exact ⟨haction, (hkept "Hi".toList [] none none).1⟩

namespace Intent

/-- The words of deletions, in all their forms. -/
def deletionWords : List Text :=
  [ "delete".toList, "deletes".toList, "deleted".toList, "deleting".toList, "deletion".toList,
    "remove".toList, "removes".toList, "removed".toList, "removing".toList, "removal".toList,
    "clear".toList, "clears".toList, "cleared".toList, "clearing".toList ]

end Intent

/-- None of the words is needed: with a blank reply "clearly" clears the document. -/
theorem clearly_deletes :
    let instruction := "Explain it clearly".toList
    let r := Request.ofInstruction instruction "Hi".toList [] none none
    (∀ word ∈ Intent.deletionWords, Text.hasWord (Text.lower instruction) word = false) ∧
      Text.includes (Text.lower instruction) "get rid of".toList = false ∧
      Intent.actionOf instruction = .delete ∧ r.apply.strategy = .deletion ∧
      r.apply.patch.document = [] := by
  decide +kernel

end TexSplice
