import TexSplice.Proofs.Outline.Grammar

/-! # Headings as they are written

`WrittenHeading.text` writes a heading command, and a line is a heading exactly if, trimmed, it is
written like that, with a title that is not empty and has no closing brace. A title may go on over the
end of its line, and then a text that BEGINS with a heading command has no heading on its first
line. -/
namespace TexSplice

/-- **A line is a heading exactly if, trimmed, it is written as one with a title.** -/
theorem classify_eq_heading_iff {l : Text} {h : Heading} :
    classify l = some (.heading h) ↔ ∃ w : WrittenHeading,
      Text.trim l = w.text ∧ '}' ∉ w.title ∧ w.title ≠ [] ∧ w.heading = h := by
  rw [classify_eq_some_iff]
  constructor
  · rintro ⟨w, hw, htext, hmark⟩
    cases w with
    | heading w =>
      cases hmark
      exact ⟨w, htext.symm, hw.2, hw.1, rfl⟩
    | opening | closing | finish => cases hmark
  · rintro ⟨w, htext, hbrace, htitle, rfl⟩
    exact ⟨.heading w, ⟨htitle, hbrace⟩, htext.symm, rfl⟩

/-! ## Headings at the start of a text -/

namespace WrittenHeading

variable {w : WrittenHeading}

theorem trim_text (w : WrittenHeading) :
    Text.trim w.text = { w with rest := Text.trimEnd w.rest }.text := by
  have hstart : Text.trimStart w.text = w.text := List.dropWhile_cons_of_neg (by decide)
  rw [Text.trim, hstart, text, Text.trimEnd_append_cons (by decide)]
  rfl

theorem classify_text (hbrace : '}' ∉ w.title) (hne : w.title ≠ []) :
    classify w.text = some (.heading w.heading) :=
  classify_eq_heading_iff.mpr ⟨_, w.trim_text, hbrace, hne, rfl⟩

theorem not_mem_command {c : Char} (hc : c ∉ w.title) (hlower : c.isLower = false)
    (hsign : c ∉ ['\\', '*', '{']) : c ∉ w.command := by
  have hname : c ∉ w.level.name := by
    intro hmem
    rw [Level.isLower_of_mem_name hmem] at hlower
    cases hlower
  have hstar : c ∉ (if w.starred then ['*'] else []) := by
    split <;> simp_all
  simp_all [command]

/-- A command whose title ends on its line takes a part of that line. -/
theorem firstLine_text (hline : '\n' ∉ w.title) :
    Text.firstLine w.text =
      ({ w with rest := (Text.firstLine w.rest).1 }.text, (Text.firstLine w.rest).2) := by
  obtain ⟨l, z, hrest, hl, hz⟩ := Text.exists_firstLine w.rest
  have hcommand : '\n' ∉ w.command ++ '}' :: l := by
    have := not_mem_command hline (by decide) (by decide)
    simp_all
  have htext : w.text = (w.command ++ '}' :: l) ++ z := by
    rw [text, hrest, List.append_assoc, List.cons_append]
  rw [htext, Text.firstLine_append hcommand hz, hrest, Text.firstLine_append hl hz]
  rfl

/-- Where the title goes on over the end of the line, no closing brace is left on that line. -/
theorem brace_not_mem_firstLine (hbrace : '}' ∉ w.title) (hline : '\n' ∈ w.title) :
    '}' ∉ (Text.firstLine w.text).1 := by
  obtain ⟨p, z, htitle, hp, hz⟩ := Text.exists_firstLine w.title
  have hcloses : Text.ClosesLine (z ++ '}' :: w.rest) := by
    rcases hz with rfl | ⟨q, rfl⟩
    · rw [List.append_nil] at htitle
      exact absurd (htitle ▸ hline) hp
    · exact Text.closesLine_cons _
  have hsplit : w.text = { w with title := p }.command ++ (z ++ '}' :: w.rest) := by
    simp [text, command, htitle]
  have hpbrace : '}' ∉ p := fun h => hbrace (htitle ▸ List.mem_append_left z h)
  rw [hsplit, Text.firstLine_append (not_mem_command hp (by decide) (by decide)) hcloses]
  exact not_mem_command hpbrace (by decide) (by decide)

/-- **A text that begins with a heading command has a heading on its first line exactly if the
title is not empty and does not go on over the end of that line.** -/
theorem exists_classify_firstLine_iff (hbrace : '}' ∉ w.title) :
    (∃ h, classify (Text.firstLine w.text).1 = some (.heading h)) ↔
      w.title ≠ [] ∧ '\n' ∉ w.title := by
  constructor
  · rintro ⟨h, hclass⟩
    obtain ⟨v, hv, hvbrace, hvne, _⟩ := classify_eq_heading_iff.mp hclass
    by_cases hline : '\n' ∈ w.title
    · have hmem : '}' ∈ v.text := List.mem_append_right _ List.mem_cons_self
      exact absurd (Text.mem_of_mem_trim (hv ▸ hmem)) (brace_not_mem_firstLine hbrace hline)
    · refine ⟨?_, hline⟩
      rw [firstLine_text hline, trim_text] at hv
      rw [← text_injective hv hbrace hvbrace] at hvne
      exact hvne
  · rintro ⟨hne, hline⟩
    rw [firstLine_text hline]
    exact ⟨_, classify_text hbrace hne⟩

end WrittenHeading

end TexSplice
