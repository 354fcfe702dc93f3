import TexSplice.Proofs.Layout.Basic
import TexSplice.Proofs.Splice.Structure
import TexSplice.Proofs.Target.Titles
import TexSplice.Proofs.Text.Spans
import TexSplice.NamedEdit

/-! # Deleting until no section is left

A deletion takes ONE heading out of a document, and it is a heading that the name fits. Every other
section is cut neither by the section that goes nor by the line feed that is left behind, so it stands
in the new document as it stood in the old one. The number of headings that the name fits is then the
number of deletions that find a section, in whatever order the tiers pick them. -/
namespace TexSplice

open Outline (ofText)

/-! ## Which names find a section -/

/-- Whether a section with this heading fits a name at some tier. -/
def Heading.fits (name : Text) (h : Heading) : Bool :=
  Tier.all.any fun tier => tier.fits h.key (titleKey name)

theorem Heading.fits_iff {name : Text} {h : Heading} :
    h.fits name = true ↔ ∃ tier : Tier, tier.Likens h.key (titleKey name) := by
  rw [fits, List.any_eq_true]
  exact exists_congr fun tier => (and_iff_right tier.mem_all).trans Tier.fits_iff

namespace Outline

variable {o : Outline} {name : Text}

theorem fits_of_find? {s : Section} {tier : Tier} (h : o.find? name = some (s, tier)) :
    s.heading.fits name = true :=
  Heading.fits_iff.mpr ⟨tier, (find?_eq_some_iff.mp h).2.1⟩

theorem find?_eq_none_iff (hname : Text.allBlank name = false) :
    o.find? name = none ↔ ∀ s ∈ o.sections, s.heading.fits name = false := by
  rw [find?_eq_none_iff_forall, or_iff_right (titleKey_ne_nil hname)]
  refine forall₂_congr fun s _ => ?_
  rw [Bool.eq_false_iff, ne_eq, Heading.fits_iff, not_exists]

theorem isSome_find? (hname : Text.allBlank name = false) {s : Section} (hs : s ∈ o.sections)
    (hfits : s.heading.fits name = true) : (o.find? name).isSome = true := by
  rw [Option.isSome_iff_ne_none, ne_eq, find?_eq_none_iff hname]
  intro hnone
  rw [hnone s hs] at hfits
  cases hfits

end Outline

/-! ## What one deletion leaves -/

/-- One heading is gone, and the others are as they were. -/
theorem Boundary.headings_delete {t name : Text} {b : Boundary}
    (hb : (ofText t).boundary? t name = some b) :
    ∃ pre post, t.headings = pre ++ b.found.heading :: post ∧
      b.frame.delete.document.headings = pre ++ post := by
  obtain ⟨hs, hframe⟩ := Outline.boundary?_eq_some hb
  have hf := Boundary.holds hb
  have hmiddle : b.frame.middle.headings = [b.found.heading] := by
    rw [hframe]
    exact (Block.ofSection hs).alone
  refine ⟨b.frame.before.headings, b.frame.after.headings, ?_,
    hf.read_delete Text.linewise_headings⟩
  rw [hf.read_text Text.linewise_headings, hmiddle, List.append_assoc, List.singleton_append]

/-- The text of a section stands in a document, between two lines. -/
def Block.StandsIn (c : Block) (t : Text) : Prop :=
  ∃ a z, Text.OpensLine a ∧ Text.ClosesLine z ∧ t = a ++ c.text ++ z

namespace Block

theorem standsIn_ofSection {t : Text} {s : Section} (hs : s ∈ (ofText t).sections) :
    (ofSection hs).StandsIn t := by
  have hf := Frame.holds_around [] hs
  exact ⟨_, _, hf.opens, hf.closes, hf.text.symm⟩

/-- A section of another heading that a document has around a block ends in front of the block or
starts behind it. -/
theorem lt_or_lt_of_mem_sections {c : Block} {a z : Text} {s : Section} (ha : Text.OpensLine a)
    (hz : Text.ClosesLine z) (hs : s ∈ (ofText (a ++ c.text ++ z)).sections)
    (hne : s.heading ≠ c.heading) :
    (ofText (a ++ c.text ++ z)).sectionStop s < a.length ∨
      a.length + c.text.length < s.span.start := by
  obtain ⟨u, hu, hheading, hstart⟩ := c.exists_section
  rcases Outline.mem_elements_parts ha hz (Outline.mem_sections.mp hs) with h | ⟨f, hf, n, he⟩ | h
  · have hmem : u ∈ (ofText c.text).sections := hu ▸ List.mem_singleton_self u
    obtain ⟨n, hn⟩ := Outline.exists_shifted_mem ha hz (Outline.mem_sections.mp hmem)
    have hblock : u.shifted n a.length ∈ (ofText (a ++ c.text ++ z)).sections :=
      Outline.mem_sections.mpr hn
    have hat : (u.shifted n a.length).span.start = a.length := by
      simp [Section.shifted, Span.shifted, hstart]
    have hle := s.span.start_le_stop
    refine .inl (hat ▸ Outline.sectionStop_lt_start hs hblock ?_)
    rw [hat]
    exact Nat.lt_of_le_of_lt hle h
  · -- it would be the only section of the block
    have hmark : f.mark = .heading s.heading := (congrArg Element.mark he).symm
    have hmem : (⟨s.heading, f.line, f.span⟩ : Section) ∈ (ofText c.text).sections := by
      refine Outline.mem_sections.mpr ?_
      rw [Section.element, ← hmark]
      exact hf
    rw [hu] at hmem
    refine absurd ?_ hne
    rw [← hheading, ← List.mem_singleton.mp hmem]
  · exact .inr h

/-- The section is still there if a span that stands between two lines is taken out in front of it
or behind it. -/
theorem standsIn_outside {c : Block} {a z : Text} (ha : Text.OpensLine a) (hz : Text.ClosesLine z)
    {s : Span} (hopens : Text.OpensLine ((a ++ c.text ++ z).take s.start))
    (hcloses : Text.ClosesLine ((a ++ c.text ++ z).drop s.stop))
    (h : s.stop < a.length ∨ a.length + c.text.length < s.start) :
    c.StandsIn (s.outside (a ++ c.text ++ z)) := by
  rcases h with hfront | hbehind
  · refine ⟨(a ++ c.text ++ z).take s.start ++ a.drop s.stop, z, hopens.append (ha.drop _), hz, ?_⟩
    simp only [Span.outside, List.append_assoc, List.drop_append_of_le_length (Nat.le_of_lt hfront)]
  · obtain ⟨k, hk⟩ : ∃ k, s.start = (a ++ c.text).length + k :=
      Nat.exists_eq_add_of_le (by rw [List.length_append]; omega)
    refine ⟨a, z.take k ++ (a ++ c.text ++ z).drop s.stop, ha, (hz.take k).append hcloses, ?_⟩
    rw [Span.outside, hk, List.take_length_add_append]
    simp only [List.append_assoc]

/-- A deletion keeps the section of every other heading as it is. -/
theorem StandsIn.delete {c : Block} {t name : Text} {b : Boundary} (hc : c.StandsIn t)
    (hb : (ofText t).boundary? t name = some b) (hne : b.found.heading ≠ c.heading) :
    c.StandsIn b.frame.delete.document := by
  obtain ⟨a, z, ha, hz, rfl⟩ := hc
  obtain ⟨hs, hframe⟩ := Outline.boundary?_eq_some hb
  obtain ⟨_, hopens, hcloses, _⟩ := Boundary.holds hb
  rw [Frame.delete, Frame.document_rebuild, List.append_nil, List.append_nil, List.append_nil]
  rw [hframe] at hopens hcloses ⊢
  exact standsIn_outside ha hz hopens hcloses (lt_or_lt_of_mem_sections ha hz hs hne)

end Block

/-! ## Runs of deletions -/

namespace NamedEdit

variable {t name : Text}

/-- While the name fits a section, a deletion finds one and takes it out. -/
theorem delete_fitting (hname : Text.allBlank name = false) {m : Nat}
    (hm : t.headings.countP (Heading.fits name) = m + 1) :
    ∃ e, ((onSection name .delete).run t).2 = .edited e ∧
      e.document.headings.countP (Heading.fits name) = m ∧
      (e.document.headings.filter fun h => !h.fits name) =
        t.headings.filter (fun h => !h.fits name) ∧
      ∀ c : Block, c.StandsIn t → c.heading.fits name = false → c.StandsIn e.document := by
  cases hfind : (ofText t).find? name with
  | none =>
    have hnone : t.headings.countP (Heading.fits name) = 0 := by
      rw [Text.headings_eq, List.countP_map, List.countP_eq_zero]
      intro s hs
      rw [Function.comp_apply, (Outline.find?_eq_none_iff hname).mp hfind s hs]
      exact Bool.false_ne_true
    omega
  | some found =>
    obtain ⟨b, hb, hfits⟩ : ∃ b, (ofText t).boundary? t name = some b ∧
        b.found.heading.fits name = true :=
      ⟨_, by rw [Outline.boundary?, hfind]; rfl, Outline.fits_of_find? hfind⟩
    obtain ⟨pre, post, ht, hleft⟩ := Boundary.headings_delete hb
    refine ⟨b.frame.delete, by simp only [run, hb, SectionEdit.run], ?_, ?_, fun c hc hne => ?_⟩
    · rw [ht] at hm
      rw [hleft]
      simp only [List.countP_append, List.countP_cons, hfits, if_true] at hm ⊢
      omega
    · simp [ht, hleft, hfits]
    · refine hc.delete hb fun he => ?_
      rw [he, hne] at hfits
      cases hfits

theorem delete_not_fitting (hname : Text.allBlank name = false)
    (h : t.headings.countP (Heading.fits name) = 0) :
    ((onSection name .delete).run t).2 = .notFound name (ofText t).titles := by
  rw [Text.headings_eq, List.countP_map, List.countP_eq_zero] at h
  have hfind : (ofText t).find? name = none :=
    (Outline.find?_eq_none_iff hname).mpr fun s hs => Bool.eq_false_iff.mpr (h s hs)
  simp only [run, Outline.boundary?, hfind, Option.map_none]

def afterDeletions (name t : Text) (n : Nat) : Text :=
  runAll t (List.replicate n (onSection name .delete))

theorem afterDeletions_succ {e : Edit} (he : ((onSection name .delete).run t).2 = .edited e)
    (n : Nat) : afterDeletions name t (n + 1) = afterDeletions name e.document n := by
  have hstep : afterDeletions name t (n + 1) =
      afterDeletions name (((onSection name .delete).run t).2.document t) n := rfl
  rw [hstep, he]
  rfl

/-- As long as the name fits a section one is found. What it does not fit is kept throughout. -/
theorem afterDeletions_all (hname : Text.allBlank name = false) :
    ∀ {m : Nat} {t : Text}, t.headings.countP (Heading.fits name) = m →
      (∀ n < m, ∃ e, ((onSection name .delete).run (afterDeletions name t n)).2 = .edited e) ∧
        (afterDeletions name t m).headings.countP (Heading.fits name) = 0 ∧
        ((afterDeletions name t m).headings.filter fun h => !h.fits name) =
          t.headings.filter (fun h => !h.fits name) ∧
        ∀ c : Block, c.StandsIn t → c.heading.fits name = false →
          c.StandsIn (afterDeletions name t m)
  | 0, _, hm => ⟨fun n hn => absurd hn (Nat.not_lt_zero n), hm, rfl, fun _ hc _ => hc⟩
  | m + 1, t, hm => by
    obtain ⟨e, he, hcount, hfilter, hkept⟩ := delete_fitting hname hm
    obtain ⟨hfound, hnone, hrest, hkept'⟩ := afterDeletions_all hname hcount
    rw [afterDeletions_succ he]
    refine ⟨fun n hn => ?_, hnone, hrest.trans hfilter, fun c hc h => hkept' c (hkept c hc h) h⟩
    cases n with
    | zero => exact ⟨e, he⟩
    | succ n =>
      rw [afterDeletions_succ he]
      exact hfound n (Nat.lt_of_succ_lt_succ hn)

end NamedEdit

open NamedEdit in
/-- **Deleting until no section is left.** Let a name that is not blank be given for deletion again
and again. Exactly as many deletions find a section as the document has sections that the name fits
at some tier. Then no section is found any more, the sections left are the others in their order, and
the text of each of them stands in the document as before. -/
theorem deletion_exhausts {name : Text} (hname : Text.allBlank name = false) (t : Text) :
    let left := afterDeletions name t
    let m := (ofText t).sections.countP fun s => s.heading.fits name
    (∀ n < m, ∃ e, ((onSection name .delete).run (left n)).2 = .edited e) ∧
      ((onSection name .delete).run (left m)).2 = .notFound name (ofText (left m)).titles ∧
      (ofText (left m)).sections.map Section.heading =
        ((ofText t).sections.filter fun s => !s.heading.fits name).map Section.heading ∧
      ∀ (s : Section) (hs : s ∈ (ofText t).sections), s.heading.fits name = false →
        (Block.ofSection hs).StandsIn (left m) := by
  intro left m
  have hm : t.headings.countP (Heading.fits name) = m := by
    rw [Text.headings_eq, List.countP_map]
    rfl
  obtain ⟨hfound, hnone, hrest, hkept⟩ := afterDeletions_all hname hm
  refine ⟨hfound, delete_not_fitting hname hnone, ?_, fun s hs hfits => ?_⟩
  · have hall : ((left m).headings.filter fun h => !h.fits name) = (left m).headings := by
      refine List.filter_eq_self.mpr fun h hh => ?_
      rw [Bool.not_eq_true', Bool.eq_false_iff]
      exact List.countP_eq_zero.mp hnone h hh
    calc (ofText (left m)).sections.map Section.heading
      _ = (left m).headings := (Text.headings_eq _).symm
      _ = t.headings.filter (fun h => !h.fits name) := by rw [← hall, hrest]
      _ = _ := by rw [Text.headings_eq, List.filter_map]; rfl
  · exact hkept _ (Block.standsIn_ofSection hs) hfits

open NamedEdit in
/-- Two of three sections go, and the one between them is left. -/
theorem deletion_of_two_exhausts :
    let t := "\\section\x7bNew results\x7d\n\\section\x7bB\x7d\ny\n\\section\x7bResults\x7d".toList
    let name := "results".toList
    (∀ n < 2, ∃ e, ((onSection name .delete).run (afterDeletions name t n)).2 = .edited e) ∧
      ∃ available, ((onSection name .delete).run (afterDeletions name t 2)).2 =
          .notFound name available ∧
        (ofText (afterDeletions name t 2)).sections.map Section.heading =
          [⟨.sec, "B".toList, "b".toList, false⟩] := by
  intro t name
  have hname : Text.allBlank name = false := by decide
  obtain ⟨hfound, hgone, hrest, _⟩ := deletion_exhausts hname t
  have hm : (ofText t).sections.countP (fun s => s.heading.fits name) = 2 := by decide +kernel
  rw [hm] at hfound hgone hrest
  refine ⟨hfound, _, hgone, hrest.trans ?_⟩
  decide +kernel

end TexSplice
