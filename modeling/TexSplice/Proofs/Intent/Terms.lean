import TexSplice.Proofs.Intent.FirstTerm
import TexSplice.Proofs.Reply.Headings

/-! # The names that instructions give to sections

An instruction names a section by one of a few terms. Each of them is written in small letters, and
the title that is made of it can stand in a heading and is found by the term again. That is checked
of the list of terms, and holds of whatever an instruction names. -/
namespace TexSplice

/-! ## Titles -/

theorem titleKey_of_isPlainLetter {t : Text} (h : t.all Text.isPlainLetter = true) :
    titleKey t = Text.trim (t.map Char.toLower) := by
  rw [titleKey, Text.lower_of_isPlainLetter h]

namespace Intent

/-- The title of a term: the usual one, or the term with a capital letter. -/
def titleOfTerm (name : Text) : Text :=
  (Reply.usualTitles.lookup name).getD (Text.capitalize name)

theorem sectionTerms_plain : ∀ name ∈ sectionTerms, name.all Text.isPlainLetter = true ∧
    Text.allBlank name = false ∧ Text.trim (name.map Char.toLower) = name := by
  decide +kernel

theorem titleOfTerm_plain : ∀ name ∈ sectionTerms,
    (titleOfTerm name).all Text.isPlainLetter = true ∧ titleOfTerm name ≠ [] ∧
      Text.trim (titleOfTerm name) = titleOfTerm name ∧
      Text.includes (Text.trim ((titleOfTerm name).map Char.toLower)) name = true := by
  decide +kernel

theorem titleKey_of_mem {name : Text} (h : name ∈ sectionTerms) : titleKey name = name := by
  obtain ⟨hplain, _, htrim⟩ := sectionTerms_plain name h
  rw [titleKey_of_isPlainLetter hplain, htrim]

/-- **Every term that an instruction can name makes a title that is found by it.** -/
theorem titled_of_mem_sectionTerms {name : Text} (h : name ∈ sectionTerms) : Reply.Titled name := by
  obtain ⟨_, hnamed, _⟩ := sectionTerms_plain name h
  obtain ⟨hplain, hne, htrim, hincludes⟩ := titleOfTerm_plain name h
  have htitle : Reply.titleFor name = titleOfTerm name := by
    rw [Reply.titleFor, titleKey_of_mem h, titleOfTerm]
  have hletters (c : Char) (hc : Text.isPlainLetter c = false) : c ∉ titleOfTerm name := by
    intro hmem
    rw [List.all_eq_true.mp hplain c hmem] at hc
    cases hc
  refine ⟨hnamed, htitle ▸ hne, ?_, ?_, ?_, ?_⟩
  · rw [htitle, htrim]
  · rw [htitle]
    exact hletters '}' rfl
  · rw [htitle]
    exact hletters '\n' rfl
  · intro heading hheading
    refine List.any_eq_true.mpr ⟨.contains, by decide, ?_⟩
    rw [hheading, htitle, titleKey_of_isPlainLetter hplain, titleKey_of_mem h]
    exact Bool.or_eq_true_iff.mpr (.inl hincludes)

example : Reply.titleFor "intro".toList = "Introduction".toList := by decide +kernel

end Intent

end TexSplice
