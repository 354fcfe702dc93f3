import TexSplice.Proofs.Json.Quotes
import TexSplice.Proofs.Json.Reordered
import TexSplice.Proofs.Store.Names

/-! # What the digest is taken of

The text of which the digest is taken gives back the component and the data, up to the order of fields.
The component may have any characters, colons and quotation marks too: it ends at the LAST colon behind
which written data stand, since written data do not end with other written data behind a colon. -/
namespace TexSplice.Store

open Json (Same)

variable {c₁ c₂ : Text} {d₁ d₂ : Json}

/-- Behind the shorter of two components nothing stands before the colon. -/
theorem eq_nil_of_colon {u : Text} (h : ':' :: d₁.sorted = u ++ ':' :: d₂.sorted) : u = [] := by
  cases u with
  | nil => rfl
  | cons c u =>
    have hrest : d₁.sorted = u ++ ':' :: d₂.sorted := (List.cons.inj h).2
    have hreads : Json.Reads (u ++ ':' :: d₂.sorted) := hrest ▸ Json.reads_sorted d₁
    exact absurd hreads
      (Json.not_reads_append_colon (Json.head?_sorted_ne d₂) (Json.reads_sorted d₂) u)

/-- **The text that is digested gives back the component and the data.** -/
theorem digested_eq_iff : digested c₁ d₁ = digested c₂ d₂ ↔ c₁ = c₂ ∧ Same d₁ d₂ := by
  constructor
  · intro h
    have hcomponent : c₁ = c₂ := by
      rcases List.append_eq_append_iff.mp h with ⟨u, rfl, hu⟩ | ⟨u, rfl, hu⟩
      · rw [eq_nil_of_colon hu, List.append_nil]
      · rw [eq_nil_of_colon hu, List.append_nil]
    subst hcomponent
    have hsorted := (List.cons.inj (List.append_cancel_left h)).2
    exact ⟨rfl, Json.sorted_eq_iff.mp hsorted⟩
  · intro h
    obtain ⟨rfl, hsame⟩ := h
    rw [digested, digested, hsame.sorted_eq]

/-- A file name shows the component and some digits of the digest, and nothing else. -/
theorem fileName_eq_iff : fileName c₁ d₁ = fileName c₂ d₂ ↔
    c₁ = c₂ ∧ shown (digested c₁ d₁) = shown (digested c₂ d₂) := by
  constructor
  · exact fileName_inj
  · intro h
    obtain ⟨rfl, hshown⟩ := h
    rw [fileName_eq, fileName_eq, hshown]

/-- **Keys tell components and data apart, up to the order of fields.** The name of a file is made of
the component and of digits of a digest. The component and the text of which the digest is taken are
those of another entry exactly if the components are one and the data differ in the order of fields
alone, at any depth. That text by itself is enough. -/
theorem keys_tell_entries_apart (h₁ : d₁.IsProper) (h₂ : d₂.IsProper) :
    (fileName c₁ d₁ = fileName c₂ d₂ ↔
      c₁ = c₂ ∧ shown (digested c₁ d₁) = shown (digested c₂ d₂)) ∧
    ((c₁, digested c₁ d₁) = (c₂, digested c₂ d₂) ↔ c₁ = c₂ ∧ d₁.Reordered d₂) ∧
    (digested c₁ d₁ = digested c₂ d₂ → c₁ = c₂) := by
  refine ⟨fileName_eq_iff, ?_, fun h => (digested_eq_iff.mp h).1⟩
  rw [Prod.mk.injEq, digested_eq_iff, Json.same_iff_reordered h₁ h₂, and_self_left]

/-! A message of a conversation, with its fields in two orders, inside a question in two orders. -/

def message : Json := .object [("role".toList, .text "user".toList), ("content".toList, .null)]

def turnedMessage : Json := .object [("content".toList, .null), ("role".toList, .text "user".toList)]

def question : Json := .object [("retries".toList, .int 3), ("messages".toList, .list [message])]

def turnedQuestion : Json :=
  .object [("messages".toList, .list [turnedMessage]), ("retries".toList, .int 3)]

theorem isProper_question : question.IsProper := by
  have hmessage : message.IsProper :=
    .object (by decide) (by simpa using ⟨.text _, .null⟩)
  exact .object (by decide) (by simpa using ⟨.int _, .list (by simpa using hmessage)⟩)

theorem isProper_turnedQuestion : turnedQuestion.IsProper := by
  have hmessage : turnedMessage.IsProper :=
    .object (by decide) (by simpa using ⟨.null, .text _⟩)
  exact .object (by decide) (by simpa using ⟨.list (by simpa using hmessage), .int _⟩)

theorem question_reordered : question.Reordered turnedQuestion := by
  have hmessage : message.Reordered turnedMessage :=
    .object (.swap ..) rfl (.cons (.text _) (.cons .null .nil))
  exact .object (.swap ..) rfl (.cons (.int _) (.cons (.list (.cons hmessage .nil)) .nil))

theorem turned_question_has_same_key : question.IsProper ∧ turnedQuestion.IsProper ∧
    ("intent".toList, digested "intent".toList question) =
      ("intent".toList, digested "intent".toList turnedQuestion) := by
  refine ⟨isProper_question, isProper_turnedQuestion, ?_⟩
  obtain ⟨_, hkeys, _⟩ := keys_tell_entries_apart isProper_question isProper_turnedQuestion
  exact hkeys.mpr ⟨rfl, question_reordered⟩

end TexSplice.Store
