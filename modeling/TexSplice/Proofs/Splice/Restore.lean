import TexSplice.Proofs.Layout.Edit

/-! # Replacements can be taken back

A section that is replaced by a section with the same key keeps its number, so the name that found
it finds what was put there, between the SAME texts as before. Putting the old text back is then an
update of the list of sections in the same place. -/
namespace TexSplice

open Outline (ofText)

/-! ## Texts that begin with a heading -/

namespace Text

variable {t : Text} {h : Heading}

theorem marks_of_headed (headed : classify (firstLine t).1 = some (.heading h)) :
    t.marks = .heading h :: (firstLine t).2.marks := by
  have hline : '\n' ∉ (firstLine t).1 := by
    obtain ⟨l, z, rfl, hl, hz⟩ := exists_firstLine t
    rwa [firstLine_append hl hz]
  rw [← marks_firstLine, marks_of_not_mem hline, headed]
  rfl

theorem headings_of_headed (headed : classify (firstLine t).1 = some (.heading h)) :
    t.headings = h :: (firstLine t).2.headings := by
  rw [headings, marks_of_headed headed]
  rfl

theorem hasFinish_of_headed (headed : classify (firstLine t).1 = some (.heading h)) :
    t.hasFinish = (firstLine t).2.hasFinish := by
  rw [hasFinish, marks_of_headed headed]
  rfl

end Text

namespace Layout

/-- The section of a document with no block behind it is the last one. -/
theorem getLast?_sections {t : Text} {i : Nat} {s : Section}
    (hs : (ofText t).sections[i]? = some s) (hlast : (ofDocument t).blocks[i + 1]? = none) :
    (ofText t).sections.getLast? = some s := by
  have hlength := congrArg List.length (headings_ofDocument t)
  rw [headings, List.length_map, List.length_map] at hlength
  have hle := List.getElem?_eq_none_iff.mp hlast
  have hlt := (List.getElem?_eq_some_iff.mp hs).1
  have hi : (ofText t).sections.length - 1 = i := by omega
  rw [List.getLast?_eq_getElem?, hi, hs]

end Layout

/-- **A replacement can be taken back.** Let a name find a section, and let the section be replaced
by content with a heading of the same key on its first line and on no other; if the section is the
last one, no other line of the content ends the document's own text. Then the name finds the content
between what stood before and behind the section, at the same tier, and replacing it by the old text
gives the old document. -/
theorem replacement_is_undone {t name content : Text} {b : Boundary} {h : Heading}
    (hb : (ofText t).boundary? t name = some b)
    (headed : classify (Text.firstLine content).1 = some (.heading h))
    (same : h.key = b.found.heading.key) (alone : (Text.firstLine content).2.headings = [])
    (endless : (ofText t).sections.getLast? = some b.found →
      (Text.firstLine content).2.hasFinish = false) :
    ∃ (x y : Edit) (b' : Boundary),
      ((NamedEdit.onSection name (.replace content)).run t).2 = .edited x ∧
      (ofText x.document).boundary? x.document name = some b' ∧
      b'.frame.before = b.frame.before ∧ b'.frame.middle = content ∧
      b'.frame.after = b.frame.after ∧ b'.tier = b.tier ∧
      ((NamedEdit.onSection name (.replace b.frame.middle)).run x.document).2 = .edited y ∧
      y.document = t := by
  obtain ⟨i, c, hs, hc, hheading, hp⟩ := Layout.exists_of_boundary? hb
  have hl := Layout.valid_of_boundary? hb
  have hend : (Layout.ofDocument t).blocks[i + 1]? = none → content.hasFinish = false := by
    intro hlast
    rw [Text.hasFinish_of_headed headed]
    exact endless (Layout.getLast?_sections hs hlast)
  have ht := Layout.text_ofDocument t
  generalize Layout.ofDocument t = l at hc hp hl hend ht
  subst ht
  -- the content as a block, which takes the number of the section
  have halone : content.headings = [h] := by rw [Text.headings_of_headed headed, alone]
  let d : Block := ⟨h, content, headed, halone⟩
  have hkey : d.heading.key = c.heading.key := by rw [hheading]; exact same
  have hd : (l.set i d).blocks[i]? = some d := Layout.getElem?_set_self hc d
  have hl' : (l.set i d).Valid := hl.set_of_last hc hend
  have hp' := (Layout.keys_set hc hkey).symm ▸ hp
  obtain ⟨s, hfound⟩ := Layout.boundary?_text hl hp hc
  obtain ⟨s', hfound'⟩ := Layout.boundary?_text hl' hp' hd
  have hframe : l.frame i c = b.frame :=
    congrArg Boundary.frame (Option.some_inj.mp (hfound.symm.trans hb))
  have hmiddle : d.text = (SectionEdit.replace content).middle c.text := rfl
  have hmiddle' : c.text = (SectionEdit.replace c.text).middle d.text := rfl
  obtain ⟨x, hx, hxt⟩ := Layout.run_onSection hl hp hc hmiddle
  obtain ⟨y, hy, hyt⟩ := Layout.run_onSection hl' hp' hd hmiddle'
  rw [← hxt] at hfound' hy
  rw [← hframe]
  refine ⟨x, y, _, hx, hfound', Layout.before_set l i d, rfl, Layout.after_set l i d, rfl, hy, ?_⟩
  rw [hyt, Layout.set_set_self hc]

/-- The last section is written anew with its title in small letters, and put back. -/
theorem replacement_of_last_section_is_undone :
    let t := "\\section\x7bA\x7d\nx\n\\section\x7bB\x7d\ny\n\\end\x7bdocument\x7d".toList
    let content := "\\section\x7bb\x7d\nv".toList
    ∃ (b : Boundary) (x y : Edit), (ofText t).boundary? t "b".toList = some b ∧
      ((NamedEdit.onSection "b".toList (.replace content)).run t).2 = .edited x ∧
      ((NamedEdit.onSection "b".toList (.replace b.frame.middle)).run x.document).2 = .edited y ∧
      y.document = t := by
  intro t content
  obtain ⟨b, hb⟩ : ∃ b, (ofText t).boundary? t "b".toList = some b :=
    Option.isSome_iff_exists.mp (by decide)
  have key : ∀ b ∈ (ofText t).boundary? t "b".toList, b.found.heading.key = "b".toList := by decide
  have headed : classify (Text.firstLine content).1 =
      some (.heading ⟨.sec, "b".toList, "b".toList, false⟩) := by decide +kernel
  obtain ⟨x, y, _, hx, _, _, _, _, _, hy, hyt⟩ :=
    replacement_is_undone hb headed (key b hb).symm (by decide +kernel) fun _ => by decide +kernel
  exact ⟨b, x, y, hb, hx, hy, hyt⟩

end TexSplice
