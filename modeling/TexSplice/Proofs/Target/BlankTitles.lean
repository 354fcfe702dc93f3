import TexSplice.Proofs.Target.Titles

/-! # Headings with a blank title

A heading whose title is nothing but blanks is a section, and its key is part of every name. So unless
some title equals a name, the first such section takes it away from all sections behind it, and from
those that the name only shares words with. -/
namespace TexSplice

open Outline (ofText)

namespace Tier

theorem likens_contains_nil (target : Text) : contains.Likens [] target :=
  .inr List.nil_infix

/-- The empty key is like a name that is not blank at one tier only. -/
theorem eq_contains_of_likens_nil {tier : Tier} {target : Text} (hname : target ≠ [])
    (h : tier.Likens [] target) : tier = contains := by
  cases tier with
  | exact => exact absurd h.symm hname
  | contains => rfl
  | wordOverlap =>
    obtain ⟨⟨w, hw⟩, _⟩ := h
    exact absurd (Finset.mem_of_mem_inter_left hw) (by simp [wordSet, Text.words, Text.pieces])

end Tier

namespace Outline

theorem key_eq_nil_iff {t : Text} {s : Section} (hs : s ∈ (ofText t).sections) :
    s.heading.key = [] ↔ s.heading.title = [] := by
  obtain ⟨w, hw⟩ := exists_heading_eq hs
  rw [hw, WrittenHeading.heading, titleKey_eq_nil_iff, Text.trim_eq_nil_iff]

/-- Of two sections in one list, one stands before the other. -/
theorem mem_or_mem_of_splits {s u : Section} {a b c d : List Section}
    (h : a ++ s :: b = c ++ u :: d) (hne : s ≠ u) : u ∈ a ∨ s ∈ c := by
  rcases List.append_eq_append_iff.mp h with ⟨between, hc, hbetween⟩ | ⟨between, ha, hbetween⟩
  · cases between with
    | nil => exact absurd (List.cons.inj hbetween).1 hne
    | cons x between =>
      rw [(List.cons.inj hbetween).1, hc]
      exact .inr (List.mem_append_right _ List.mem_cons_self)
  · cases between with
    | nil => exact absurd (List.cons.inj hbetween).1.symm hne
    | cons x between =>
      rw [(List.cons.inj hbetween).1, ha]
      exact .inl (List.mem_append_right _ List.mem_cons_self)

/-- Where no title equals a name, a blank title lets nothing but containment decide. -/
theorem exists_find?_contains {t name : Text} {s : Section} (hname : titleKey name ≠ [])
    (hexact : ¬ ∃ s ∈ (ofText t).sections, s.heading.key = titleKey name)
    (hs : s ∈ (ofText t).sections) (hkey : s.heading.key = []) :
    ∃ u, (ofText t).find? name = some (u, .contains) := by
  have hlikens : Tier.contains.Likens s.heading.key (titleKey name) :=
    hkey ▸ Tier.likens_contains_nil _
  cases hfind : (ofText t).find? name with
  | none =>
    rcases find?_eq_none_iff_forall.mp hfind with hblank | hnone
    · exact absurd hblank hname
    · exact absurd hlikens (hnone s hs .contains)
  | some found =>
    obtain ⟨u, tier⟩ := found
    obtain ⟨_, hu, _, hstricter⟩ := find?_eq_some_iff.mp hfind
    cases tier with
    | exact => exact absurd ⟨u, mem_of_find?_eq_some hfind, hu⟩ hexact
    | contains => exact ⟨u, rfl⟩
    | wordOverlap => exact absurd hlikens (hstricter .contains (by decide) s hs)

/-- **What a name finds has a title, unless a blank one comes first.** That is so exactly if the name is
blank too, or equals the title of some section, or each section with a blank title stands behind one
with a title that contains the name or is contained in it. -/
theorem found_section_is_titled_iff (t name : Text) :
    (∀ s tier, (ofText t).find? name = some (s, tier) → s.heading.key ≠ []) ↔
      Text.allBlank name = true ∨
      (∃ s ∈ (ofText t).sections, s.heading.key = titleKey name) ∨
      ∀ before s after, (ofText t).sections = before ++ s :: after → s.heading.title = [] →
        ∃ u ∈ before, u.heading.title ≠ [] ∧
          Tier.contains.Likens u.heading.key (titleKey name) := by
  rw [← titleKey_eq_nil_iff]
  constructor
  · intro h
    refine or_iff_not_imp_left.mpr fun hname => or_iff_not_imp_left.mpr fun hexact => ?_
    intro before s after hsplit htitle
    have hs : s ∈ (ofText t).sections := hsplit ▸ List.mem_append_right _ List.mem_cons_self
    have hkey : s.heading.key = [] := (key_eq_nil_iff hs).mpr htitle
    obtain ⟨u, hfind⟩ := exists_find?_contains hname hexact hs hkey
    have hkeyu := h u _ hfind
    have hmem := mem_of_find?_eq_some hfind
    obtain ⟨_, hu, ⟨front, back, hfront, hfirst⟩, _⟩ := find?_eq_some_iff.mp hfind
    have hne : s ≠ u := by
      rintro rfl
      exact hkeyu hkey
    -- what was found stands before the blank title, which would be found else
    rcases mem_or_mem_of_splits (hsplit.symm.trans hfront) hne with hbefore | hbehind
    · exact ⟨u, hbefore, mt (key_eq_nil_iff hmem).mpr hkeyu, hu⟩
    · exact absurd (hkey ▸ Tier.likens_contains_nil _) (hfirst s hbehind)
  · rintro h s tier hfind hkey
    obtain ⟨hname, hlikens, ⟨before, after, hsplit, hfirst⟩, hstricter⟩ :=
      find?_eq_some_iff.mp hfind
    have hs : s ∈ (ofText t).sections := mem_of_find?_eq_some hfind
    rw [hkey] at hlikens
    obtain rfl := Tier.eq_contains_of_likens_nil hname hlikens
    rcases h with hblank | ⟨u, hu, hexact⟩ | hbehind
    · exact hname hblank
    · exact hstricter .exact (by decide) u hu hexact
    · obtain ⟨u, hu, _, hcontains⟩ := hbehind before s after hsplit ((key_eq_nil_iff hs).mp hkey)
      exact hfirst u hu hcontains

/-- The name contains the second title, but the blank one before it is found. -/
theorem blank_title_is_found :
    ∃ s, (ofText "\\section\x7b \x7d\nHi\n\\section\x7bResults\x7d\nWe measured.".toList).find?
      "the results".toList = some (s, .contains) ∧ s.heading.key = [] :=
  ⟨⟨⟨.sec, [], [], false⟩, 0, ⟨0, 11, by decide⟩⟩, by decide +kernel, rfl⟩

end Outline

end TexSplice
