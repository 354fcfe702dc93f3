import TexSplice.Proofs.Target.Tiling

/-! # Outlines of another text

An outline knows of its text only how long it is, and that is all that is compared before a section is
located. Whatever text of this length is given is cut where the outline's own text would be, and as two
offsets in order always give parts that make up the text again, nothing later notices. -/
namespace TexSplice

open Outline (ofText)

/-- What was found, and where the text is cut for it. -/
def Boundary.place (b : Boundary) : Section × Tier × Nat × Nat :=
  (b.found, b.tier, b.frame.start, b.frame.stop)

namespace Outline

theorem place_around {a b name : Text} {s : Section} {tier : Tier} (hlength : a.length = b.length)
    (hs : s ∈ (ofText a).sections) :
    Boundary.place ⟨Frame.around name b ((ofText a).sectionSpan s), s, tier⟩ =
      (s, tier, s.span.start, (ofText a).sectionStop s) := by
  have hstop : ((ofText a).sectionSpan s).stop ≤ b.length := hlength ▸ sectionStop_le_length hs
  rw [Boundary.place, Frame.start_around name hstop, Frame.stop_around name hstop]
  rfl

/-- A text of the same length is cut as the outline's own. -/
theorem map_place_boundary? {a b : Text} (name : Text) (hlength : a.length = b.length) :
    ((ofText a).boundary? b name).map Boundary.place =
      ((ofText a).boundary? a name).map Boundary.place := by
  unfold boundary?
  cases hfind : (ofText a).find? name with
  | none => rfl
  | some found =>
    have hs := mem_of_find?_eq_some hfind
    simp only [Option.map_some]
    rw [place_around hlength hs, place_around rfl hs]

/-- **An outline of another text is refused exactly if that text has another length.** If the lengths
agree nothing is refused. What is found is what the outline's own text has, the text is cut where that
one would be, and the parts make up the text. -/
theorem refuses_iff_length_differs (a b name : Text) :
    ((∃ f, (ofText a).locate b name = .error f ∧ f.kind = .value ∧ f.message =
        "DocumentIndex was built from a different text; rescan before locating".toList) ↔
      a.length ≠ b.length) ∧
    ∀ found, (ofText a).locate b name = .ok found →
      found.map Boundary.place = ((ofText a).boundary? a name).map Boundary.place ∧
        ∀ x ∈ found, x.frame.text = b := by
  rw [locate_eq]
  have hlength : (ofText a).length = a.length := rfl
  rw [hlength]
  split
  · rename_i hdiffers
    exact ⟨iff_of_true ⟨_, rfl, rfl, rfl⟩ hdiffers, fun _ h => nomatch h⟩
  · rename_i hsame
    refine ⟨iff_of_false (fun ⟨_, h, _⟩ => nomatch h) hsame, fun found h => ?_⟩
    cases h
    refine ⟨map_place_boundary? name (not_not.mp hsame), fun x hx => ?_⟩
    rw [(boundary?_eq_some hx).2]
    exact Frame.text_around ..

/-- A text without a section is cut after the outline of another one. -/
theorem outline_of_other_text_is_used :
    let a := "\\section\x7bA\x7d\nx".toList
    let b := "Hello, world!".toList
    a ≠ b ∧ ∃ x, (ofText a).locate b "a".toList = .ok (some x) ∧ x.found.heading.key = "a".toList ∧
      x.frame.middle = b :=
  ⟨by decide, ⟨⟨"A".toList, [], "Hello, world!".toList, []⟩,
    ⟨⟨.sec, "A".toList, "a".toList, false⟩, 0, ⟨0, 11, by decide⟩⟩, .exact⟩,
    by decide +kernel, rfl, rfl⟩

end Outline

end TexSplice
