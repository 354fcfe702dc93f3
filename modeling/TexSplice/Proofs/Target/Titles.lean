import TexSplice.Proofs.Outline.Written
import TexSplice.Proofs.Target.Bounds
import TexSplice.Proofs.Target.Precedence
import TexSplice.Proofs.Text.Case

/-! # Titles as names

The key of a section is made of its title as it was written, and the title that is listed has lost its
outer blanks. A blank has no case and ends no word that a capital sigma could stand in, so the listed
title has the same key. As a name it therefore equals the title, and no tier is stricter than that: it
leads to the first section with this key. -/
namespace TexSplice

open Outline (ofText)

theorem titleKey_trim (title : Text) : titleKey (Text.trim title) = titleKey title :=
  Text.trim_lower_trim title

theorem titleKey_eq_nil_iff {name : Text} : titleKey name = [] ↔ Text.allBlank name = true := by
  rw [titleKey, Text.trim_eq_nil_iff, Text.allBlank_lower]

theorem titleKey_ne_nil {name : Text} (h : Text.allBlank name = false) : titleKey name ≠ [] :=
  fun he => Bool.false_ne_true (h.symm.trans (titleKey_eq_nil_iff.mp he))

namespace Outline

variable {t : Text} {s : Section}

/-- A section has the heading that some command on its line gives it. -/
theorem exists_heading_eq (hs : s ∈ (ofText t).sections) :
    ∃ w : WrittenHeading, s.heading = w.heading := by
  obtain ⟨before, line, after, st⟩ := exists_standsIn (mem_sections.mp hs)
  obtain ⟨w, _, _, _, hw⟩ := classify_eq_heading_iff.mp st.mark
  exact ⟨w, hw.symm⟩

theorem titleKey_title (hs : s ∈ (ofText t).sections) :
    titleKey s.heading.title = s.heading.key := by
  obtain ⟨w, hw⟩ := exists_heading_eq hs
  rw [hw]
  exact titleKey_trim w.title

/-- A name that equals some title finds the first section with this title. -/
theorem exists_find?_exact {name : Text} (hname : Text.allBlank name = false)
    (hs : s ∈ (ofText t).sections) (hkey : s.heading.key = titleKey name) :
    ∃ before u after, (ofText t).sections = before ++ u :: after ∧
      u.heading.key = titleKey name ∧ (∀ v ∈ before, v.heading.key ≠ titleKey name) ∧
      (ofText t).find? name = some (u, .exact) := by
  have hfound : ((ofText t).sections.find? fun v => v.heading.key == titleKey name).isSome :=
    List.find?_isSome.mpr ⟨s, hs, beq_iff_eq.mpr hkey⟩
  obtain ⟨u, hu⟩ := Option.isSome_iff_exists.mp hfound
  obtain ⟨hukey, before, after, hsplit, hbefore⟩ := List.find?_eq_some_iff_append.mp hu
  have hukey : u.heading.key = titleKey name := beq_iff_eq.mp hukey
  have hbefore : ∀ v ∈ before, v.heading.key ≠ titleKey name := fun v hv => by
    simpa using hbefore v hv
  refine ⟨before, u, after, hsplit, hukey, hbefore, ?_⟩
  exact find?_eq_some_iff.mpr
    ⟨titleKey_ne_nil hname, hukey, ⟨before, after, hsplit, hbefore⟩, nofun⟩

/-- **A section is found by its own title**, or an earlier one with the same title is: what a title
that is not blank leads to is the boundary of the first section with its key, at the strictest tier. If
no two sections have one key it is the section itself. -/
theorem own_title_is_found (hs : s ∈ (ofText t).sections)
    (htitle : Text.allBlank s.heading.title = false) :
    ∃ before u after b, (ofText t).sections = before ++ u :: after ∧
      u.heading.key = s.heading.key ∧ (∀ v ∈ before, v.heading.key ≠ s.heading.key) ∧
      (ofText t).boundaryOf t u .exact = .ok b ∧ b.found = u ∧ b.tier = .exact ∧
      (ofText t).locate t s.heading.title = .ok (some b) ∧
      (((ofText t).sections.map fun v => v.heading.key).Nodup → u = s) := by
  have hkey := titleKey_title hs
  obtain ⟨before, u, after, hsplit, hu, hbefore, hfind⟩ :=
    exists_find?_exact htitle hs hkey.symm
  rw [hkey] at hu hbefore
  have hmem : u ∈ (ofText t).sections := hsplit ▸ List.mem_append_right _ List.mem_cons_self
  refine ⟨before, u, after, _, hsplit, hu, hbefore, boundaryOf_eq .., rfl, rfl, ?_, fun hdistinct =>
    List.inj_on_of_nodup_map hdistinct hmem hs hu⟩
  have hlength : ¬ (ofText t).length ≠ t.length := not_not.mpr rfl
  rw [locate_eq, if_neg hlength, boundary?, hfind, Option.map_some]

/-- Both titles end in a final sigma, one as a capital with a blank behind it. -/
theorem own_title_with_sigma_is_found :
    let t := "\\section\x7b ΟΔΟΣ \x7d\nA\n\\section\x7bοδος\x7d\nB".toList
    let s : Section := ⟨⟨.sec, "οδος".toList, "οδος".toList, false⟩, 2, ⟨19, 33, by decide⟩⟩
    s ∈ (ofText t).sections ∧ Text.allBlank s.heading.title = false ∧
      ∃ b, (ofText t).locate t s.heading.title = .ok (some b) ∧ b.tier = .exact ∧
        b.found.heading.key = s.heading.key := by
  intro t s
  have hs : s ∈ (ofText t).sections := by decide +kernel
  have htitle : Text.allBlank s.heading.title = false := by decide +kernel
  obtain ⟨_, u, _, b, _, hu, _, _, hfound, htier, hlocate, _⟩ := own_title_is_found hs htitle
  exact ⟨hs, htitle, b, hlocate, htier, hfound ▸ hu⟩

end Outline

end TexSplice
