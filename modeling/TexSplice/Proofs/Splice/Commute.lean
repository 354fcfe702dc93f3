import TexSplice.Proofs.Layout.Edit

/-! # Edits of different sections commute

After an edit the document is outlined again, and the second name is looked up among sections that
have moved. The keys have not changed, so it means the section it meant before, and the two edits
write to two places of one list. -/
namespace TexSplice

open Outline (ofText)

/-- **Edits of different sections commute.** Let two names mean different sections of a document,
and each be given an edit that adds lines without a heading to its section, or replaces it by a
section with the same key, and brings no line that ends the document's own text. In either order
both edits find their section, and the documents they leave are the same. -/
theorem edits_of_sections_commute {t name₁ name₂ : Text} {b₁ b₂ : Boundary}
    (h₁ : (ofText t).boundary? t name₁ = some b₁) (h₂ : (ofText t).boundary? t name₂ = some b₂)
    (hne : b₁.found ≠ b₂.found) {e₁ e₂ : SectionEdit} (he₁ : e₁.Keeps b₁.found.heading.key)
    (he₂ : e₂.Keeps b₂.found.heading.key) :
    ∃ x₁ x₂ y₁ y₂ : Edit,
      ((NamedEdit.onSection name₁ e₁).run t).2 = .edited x₁ ∧
      ((NamedEdit.onSection name₂ e₂).run x₁.document).2 = .edited y₁ ∧
      ((NamedEdit.onSection name₂ e₂).run t).2 = .edited x₂ ∧
      ((NamedEdit.onSection name₁ e₁).run x₂.document).2 = .edited y₂ ∧
      y₁.document = y₂.document := by
  obtain ⟨i, c₁, hs₁, hc₁, hheading₁, hp₁⟩ := Layout.exists_of_boundary? h₁
  obtain ⟨j, c₂, hs₂, hc₂, hheading₂, hp₂⟩ := Layout.exists_of_boundary? h₂
  have hij : i ≠ j := by
    rintro rfl
    exact hne (Option.some_inj.mp (hs₁.symm.trans hs₂))
  have hl := Layout.valid_of_boundary? h₁
  have ht := Layout.text_ofDocument t
  generalize Layout.ofDocument t = l at hc₁ hc₂ hp₁ hp₂ hl ht
  subst ht
  obtain ⟨d₁, hd₁, hkey₁, hend₁⟩ := SectionEdit.Keeps.exists_block (hheading₁ ▸ he₁)
  obtain ⟨d₂, hd₂, hkey₂, hend₂⟩ := SectionEdit.Keeps.exists_block (hheading₂ ▸ he₂)
  -- each order: the first edit keeps all keys and the other section, which the second one finds
  obtain ⟨x₁, hx₁, hxt₁⟩ := Layout.run_onSection hl hp₁ hc₁ hd₁
  obtain ⟨x₂, hx₂, hxt₂⟩ := Layout.run_onSection hl hp₂ hc₂ hd₂
  obtain ⟨y₁, hy₁, hyt₁⟩ := Layout.run_onSection (hl.set hc₁ hend₁)
    (Layout.keys_set hc₁ hkey₁ ▸ hp₂) (Layout.getElem?_set_of_ne hij hc₂ d₁) hd₂
  obtain ⟨y₂, hy₂, hyt₂⟩ := Layout.run_onSection (hl.set hc₂ hend₂)
    (Layout.keys_set hc₂ hkey₂ ▸ hp₁) (Layout.getElem?_set_of_ne hij.symm hc₁ d₂) hd₁
  rw [← hxt₁] at hy₁
  rw [← hxt₂] at hy₂
  refine ⟨x₁, x₂, y₁, y₂, hx₁, hy₁, hx₂, hy₂, ?_⟩
  rw [hyt₁, hyt₂, Layout.set_comm l d₁ d₂ hij]

/-- Text is added at the end of the first of two sections, and the second one is written anew. -/
theorem edits_of_two_sections_commute :
    let t := "\\section\x7bA\x7d\nx\n\\section\x7bB\x7d\ny".toList
    let addition := NamedEdit.onSection "a".toList (.add "u".toList .ending)
    let rewriting := NamedEdit.onSection "b".toList (.replace "\\section\x7bb\x7d\nv".toList)
    ∃ x₁ x₂ y₁ y₂ : Edit,
      (addition.run t).2 = .edited x₁ ∧ (rewriting.run x₁.document).2 = .edited y₁ ∧
      (rewriting.run t).2 = .edited x₂ ∧ (addition.run x₂.document).2 = .edited y₂ ∧
      y₁.document = y₂.document := by
  intro t addition rewriting
  obtain ⟨b₁, hb₁⟩ : ∃ b, (ofText t).boundary? t "a".toList = some b :=
    Option.isSome_iff_exists.mp (by decide)
  obtain ⟨b₂, hb₂⟩ : ∃ b, (ofText t).boundary? t "b".toList = some b :=
    Option.isSome_iff_exists.mp (by decide)
  have key₁ : ∀ b ∈ (ofText t).boundary? t "a".toList, b.found.heading.key = "a".toList := by decide
  have key₂ : ∀ b ∈ (ofText t).boundary? t "b".toList, b.found.heading.key = "b".toList := by decide
  have hne : b₁.found ≠ b₂.found := by
    intro h
    have := congrArg (fun s => s.heading.key) h
    rw [key₁ b₁ hb₁, key₂ b₂ hb₂] at this
    cases this
  refine edits_of_sections_commute hb₁ hb₂ hne (.add .ending rfl rfl) ?_
  exact .replace (h := ⟨.sec, "b".toList, "b".toList, false⟩) (by decide +kernel)
    (key₂ b₂ hb₂).symm (by decide +kernel) (by decide +kernel)

end TexSplice
