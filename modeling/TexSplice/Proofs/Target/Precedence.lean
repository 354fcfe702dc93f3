import Mathlib.Data.Finset.Card
import Mathlib.Data.Finset.Dedup
import TexSplice.Target.Tier

/-! # Which section wins

The search is two loops, and what it finds is told without them: nothing fits better, and nothing
that fits as well stands earlier. What a tier asks is told in terms of equality, of parts, and of sets
of words. -/
namespace TexSplice

/-! ## What the tiers ask -/

namespace Tier

/-- The different words of a text. -/
def wordSet (t : Text) : Finset Text := (Text.words t).toFinset

/-- What a tier asks of the key of a title and of a name. -/
def Likens : Tier → Text → Text → Prop
  | exact, key, target => key = target
  | contains, key, target => target <:+: key ∨ key <:+: target
  | wordOverlap, key, target =>
    let shared := wordSet key ∩ wordSet target
    shared.Nonempty ∧ (wordSet target ⊆ wordSet key ∨ (wordSet key).card ≤ 2 * shared.card)

/-- The tiers that are stricter than one. -/
def stricter : Tier → List Tier
  | exact => []
  | contains => [exact]
  | wordOverlap => [exact, contains]

theorem nodup_eraseDups : ∀ words : List Text, words.eraseDups.Nodup
  | [] => .nil
  | w :: words => by
    rw [List.eraseDups_cons, List.nodup_cons, List.mem_eraseDups]
    exact ⟨by simp, nodup_eraseDups (words.filter fun v => !v == w)⟩
termination_by words => words.length
decreasing_by exact Nat.lt_succ_of_le (List.length_filter_le ..)

theorem toFinset_distinctWords (t : Text) : (distinctWords t).toFinset = wordSet t := by
  ext w
  simp [distinctWords, wordSet]

theorem length_distinctWords (t : Text) : (distinctWords t).length = (wordSet t).card := by
  rw [← toFinset_distinctWords]
  exact (List.toFinset_card_of_nodup (nodup_eraseDups _)).symm

theorem length_sharedWords (key target : Text) :
    (sharedWords key target).length = (wordSet key ∩ wordSet target).card := by
  have hset : (sharedWords key target).toFinset = wordSet key ∩ wordSet target := by
    ext w
    simp [sharedWords, distinctWords, wordSet]
  rw [← hset]
  exact (List.toFinset_card_of_nodup ((nodup_eraseDups _).filter _)).symm

/-- Some words take in all of others if they share as many as those are. -/
theorem card_le_card_inter_iff {s t : Finset Text} : t.card ≤ (s ∩ t).card ↔ t ⊆ s := by
  constructor
  · intro h
    rw [← Finset.eq_of_subset_of_card_le Finset.inter_subset_right h]
    exact Finset.inter_subset_left
  · intro h
    rw [Finset.inter_eq_right.mpr h]

/-- A tier fits what it asks for. -/
theorem fits_iff {tier : Tier} {key target : Text} :
    tier.fits key target = true ↔ tier.Likens key target := by
  cases tier with
  | exact => exact beq_iff_eq
  | contains => simp only [fits, Likens, Bool.or_eq_true, Text.includes_iff]
  | wordOverlap =>
    simp only [fits, Likens, length_sharedWords, length_distinctWords, Bool.and_eq_true,
      Bool.or_eq_true, bne_iff_ne, decide_eq_true_eq, card_le_card_inter_iff]
    rw [ne_eq, Finset.card_eq_zero, Finset.nonempty_iff_ne_empty]

/-- The tiers before one in the list of all are the stricter ones. -/
theorem stricter_of_all_eq {tier : Tier} {before after : List Tier}
    (h : all = before ++ tier :: after) : before = tier.stricter := by
  rcases before with _ | ⟨a, _ | ⟨b, _ | ⟨c, before⟩⟩⟩
  · cases h
    rfl
  · cases h
    rfl
  · cases h
    rfl
  · simp [all] at h

theorem mem_all (tier : Tier) : tier ∈ all := by
  cases tier <;> decide

theorem exists_all_eq (tier : Tier) : ∃ after, all = tier.stricter ++ tier :: after := by
  cases tier <;> exact ⟨_, rfl⟩

end Tier

/-! ## What is found -/

namespace Outline

variable {o : Outline} {name target : Text} {s : Section} {tier : Tier}

theorem firstFit?_eq_some_iff {tier' : Tier} :
    o.firstFit? target tier' = some (s, tier) ↔ tier' = tier ∧
      tier.Likens s.heading.key target ∧
        ∃ before after, o.sections = before ++ s :: after ∧
          ∀ u ∈ before, ¬ tier.Likens u.heading.key target := by
  unfold firstFit?
  rw [Option.map_eq_some_iff]
  constructor
  · rintro ⟨u, hu, he⟩
    cases he
    obtain ⟨hfits, before, after, hsplit, hbefore⟩ := List.find?_eq_some_iff_append.mp hu
    exact ⟨rfl, Tier.fits_iff.mp hfits, before, after, hsplit, fun v hv hlikens =>
      absurd (Tier.fits_iff.mpr hlikens) (by simpa using hbefore v hv)⟩
  · rintro ⟨rfl, hlikens, before, after, hsplit, hbefore⟩
    refine ⟨s, List.find?_eq_some_iff_append.mpr
      ⟨Tier.fits_iff.mpr hlikens, before, after, hsplit, fun v hv => ?_⟩, rfl⟩
    rw [Bool.not_eq_true', Bool.eq_false_iff]
    exact fun hfits => hbefore v hv (Tier.fits_iff.mp hfits)

theorem firstFit?_eq_none_iff :
    o.firstFit? target tier = none ↔ ∀ s ∈ o.sections, ¬ tier.Likens s.heading.key target := by
  unfold firstFit?
  rw [Option.map_eq_none_iff, List.find?_eq_none]
  exact forall₂_congr fun _ _ => not_congr Tier.fits_iff

/-- A section is found at a tier if it is the first that fits there, and none fits better. -/
theorem find?_eq_some_iff :
    o.find? name = some (s, tier) ↔ titleKey name ≠ [] ∧
      tier.Likens s.heading.key (titleKey name) ∧
      (∃ before after, o.sections = before ++ s :: after ∧
        ∀ u ∈ before, ¬ tier.Likens u.heading.key (titleKey name)) ∧
      ∀ better ∈ tier.stricter, ∀ u ∈ o.sections,
        ¬ better.Likens u.heading.key (titleKey name) := by
  unfold find?
  dsimp only
  split
  · rename_i hblank
    exact iff_of_false (nofun) fun h => h.1 (List.isEmpty_iff.mp hblank)
  · rename_i hname
    rw [List.findSome?_eq_some_iff]
    constructor
    · rintro ⟨before, tier', after, hall, hfound, hnone⟩
      obtain ⟨rfl, hlikens, hfirst⟩ := firstFit?_eq_some_iff.mp hfound
      obtain rfl := Tier.stricter_of_all_eq hall
      exact ⟨fun h => hname (List.isEmpty_iff.mpr h), hlikens, hfirst,
        fun better hbetter => firstFit?_eq_none_iff.mp (hnone better hbetter)⟩
    · rintro ⟨_, hlikens, hfirst, hnone⟩
      obtain ⟨after, hall⟩ := tier.exists_all_eq
      exact ⟨_, tier, after, hall, firstFit?_eq_some_iff.mpr ⟨rfl, hlikens, hfirst⟩,
        fun better hbetter => firstFit?_eq_none_iff.mpr (hnone better hbetter)⟩

theorem find?_eq_none_iff_forall :
    o.find? name = none ↔ titleKey name = [] ∨
      ∀ s ∈ o.sections, ∀ tier : Tier, ¬ tier.Likens s.heading.key (titleKey name) := by
  unfold find?
  dsimp only
  split
  · rename_i hblank
    exact iff_of_true rfl (.inl (List.isEmpty_iff.mp hblank))
  · rename_i hname
    rw [or_iff_right fun h => hname (List.isEmpty_iff.mpr h), List.findSome?_eq_none_iff]
    constructor
    · exact fun h s hs tier => firstFit?_eq_none_iff.mp (h tier tier.mem_all) s hs
    · exact fun h tier _ => firstFit?_eq_none_iff.mpr fun s hs => h s hs tier

/-- **The strictest likeness wins, and within it the earliest section.** A section is found at a tier
exactly if the name is not blank, the section is like it at that tier, no earlier one is, and none is
at a stricter tier. Nothing is found exactly if the name is blank or no section is like it at all. -/
theorem strictest_then_earliest (o : Outline) (name : Text) :
    (∀ s tier, o.find? name = some (s, tier) ↔ titleKey name ≠ [] ∧
      tier.Likens s.heading.key (titleKey name) ∧
      (∃ before after, o.sections = before ++ s :: after ∧
        ∀ u ∈ before, ¬ tier.Likens u.heading.key (titleKey name)) ∧
      ∀ better ∈ tier.stricter, ∀ u ∈ o.sections,
        ¬ better.Likens u.heading.key (titleKey name)) ∧
    (o.find? name = none ↔ titleKey name = [] ∨
      ∀ s ∈ o.sections, ∀ tier : Tier, ¬ tier.Likens s.heading.key (titleKey name)) :=
  ⟨fun _ _ => find?_eq_some_iff, find?_eq_none_iff_forall⟩

/-- The earlier title contains the name, but the later one equals it. -/
example :
    ((ofText "\\section\x7bNew results\x7d\n\\section\x7bResults\x7d".toList).find?
      "results".toList).map (fun found => (found.1.line, found.2)) = some (1, .exact) := by
  decide +kernel

end Outline

end TexSplice
