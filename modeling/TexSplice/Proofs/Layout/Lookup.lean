import TexSplice.Proofs.Layout.Basic

/-! # Which section a name means

A name is compared with the keys of the headings alone, so the keys decide the NUMBER of the section
it means, wherever the sections stand and whatever they hold. With a layout the number gives the
frame. -/
namespace TexSplice

open Outline (ofText)

namespace Tier

/-- The number of the first key that a name fits at one tier. -/
def pickAt? (keys : List Text) (target : Text) (tier : Tier) : Option (Nat × Tier) :=
  (keys.findIdx? fun key => tier.fits key target).map fun i => (i, tier)

/-- The number of the key that a name means, and the tier at which it fits. -/
def pick? (keys : List Text) (name : Text) : Option (Nat × Tier) :=
  let target := titleKey name
  if target.isEmpty then none else all.findSome? (pickAt? keys target)

theorem lt_length_of_pickAt? {keys : List Text} {target : Text} {tier tier' : Tier} {i : Nat}
    (h : pickAt? keys target tier = some (i, tier')) : i < keys.length := by
  obtain ⟨j, hj, he⟩ := Option.map_eq_some_iff.mp h
  cases he
  obtain ⟨hlt, _⟩ := List.findIdx?_eq_some_iff_getElem.mp hj
  exact hlt

end Tier

namespace Outline

def keys (o : Outline) : List Text := o.sections.map fun s => s.heading.key

/-- The section with a number, and the tier at which it was picked. -/
def picked? (o : Outline) (pick : Nat × Tier) : Option (Section × Tier) :=
  o.sections[pick.1]?.map fun s => (s, pick.2)

theorem firstFit?_eq (o : Outline) (target : Text) (tier : Tier) :
    o.firstFit? target tier = (tier.pickAt? o.keys target).bind o.picked? := by
  rw [firstFit?, Tier.pickAt?, List.find?_eq_bind_findIdx?_getElem?, keys, List.findIdx?_map,
    Option.map_bind, Option.bind_map]
  rfl

/-- The keys decide which section a name means. -/
theorem find?_eq (o : Outline) (name : Text) :
    o.find? name = (Tier.pick? o.keys name).bind o.picked? := by
  unfold find? Tier.pick?
  dsimp only
  split
  · rfl
  induction Tier.all with
  | nil => rfl
  | cons tier tiers ih =>
    rw [List.findSome?_cons, List.findSome?_cons, firstFit?_eq, ih]
    cases hp : tier.pickAt? o.keys (titleKey name) with
    | none => rfl
    | some pick =>
      -- a key that was found has a section, so no looser tier is asked
      have hlt := Tier.lt_length_of_pickAt? hp
      rw [keys, List.length_map] at hlt
      simp [picked?, List.getElem?_eq_getElem hlt]

end Outline

namespace Layout

variable {l : Layout} {i : Nat} {b : Block}

def keys (l : Layout) : List Text := l.blocks.map fun b => b.heading.key

theorem keys_eq {t : Text} (h : l.headings = (ofText t).sections.map Section.heading) :
    l.keys = (ofText t).keys := by
  have hl : l.keys = l.headings.map Heading.key := by
    rw [headings, List.map_map]
    rfl
  rw [hl, h, List.map_map]
  rfl

def frame (l : Layout) (i : Nat) (b : Block) : Frame :=
  ⟨b.heading.title, l.before i, b.text, l.after i⟩

/-- A name finds the section whose key it fits, between what stands before and behind it. -/
theorem boundary?_text (hl : l.Valid) {name : Text} {tier : Tier}
    (hp : Tier.pick? l.keys name = some (i, tier)) (hb : l.blocks[i]? = some b) :
    ∃ s, (ofText l.text).boundary? l.text name = some ⟨l.frame i b, s, tier⟩ := by
  obtain ⟨s, hs, hheading, hspan⟩ := exists_section hl hb
  have hfind : (ofText l.text).find? name = some (s, tier) := by
    rw [Outline.find?_eq, ← keys_eq (headings_text hl), hp, Option.bind_some, Outline.picked?, hs]
    rfl
  have hframe : Frame.around s.heading.title l.text ((ofText l.text).sectionSpan s) =
      l.frame i b := by
    rw [hspan, hheading, text_eq hb]
    simp [Frame.around, Span.sized, Span.cut, Text.slice, frame, List.drop_take]
  refine ⟨s, ?_⟩
  rw [← hframe, Outline.boundary?, hfind]
  rfl

/-- A document in which a name finds a section is the text of its layout. -/
theorem valid_of_boundary? {t name : Text} {found : Boundary}
    (h : (ofText t).boundary? t name = some found) : (ofDocument t).Valid :=
  valid_ofDocument (List.ne_nil_of_mem (Outline.boundary?_eq_some h).1)

/-- A section that a name finds in a document is a block of its layout. -/
theorem exists_of_boundary? {t name : Text} {found : Boundary}
    (h : (ofText t).boundary? t name = some found) :
    ∃ i b, (ofText t).sections[i]? = some found.found ∧ (ofDocument t).blocks[i]? = some b ∧
      b.heading = found.found.heading ∧
      Tier.pick? (ofDocument t).keys name = some (i, found.tier) := by
  obtain ⟨⟨s, tier⟩, hfind, rfl⟩ := Option.map_eq_some_iff.mp h
  rw [Outline.find?_eq, ← keys_eq (headings_ofDocument t)] at hfind
  obtain ⟨⟨i, tier⟩, hp, hpicked⟩ := Option.bind_eq_some_iff.mp hfind
  obtain ⟨s, hs, he⟩ := Option.map_eq_some_iff.mp hpicked
  cases he
  have hheadings := congrArg (·[i]?) (headings_ofDocument t)
  simp only [headings, List.getElem?_map, hs, Option.map_some] at hheadings
  obtain ⟨b, hb, hheading⟩ := Option.map_eq_some_iff.mp hheadings
  exact ⟨i, b, hs, hb, hheading, hp⟩

end Layout

end TexSplice
