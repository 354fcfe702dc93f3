import Mathlib.Data.List.Induction
import TexSplice.Intent.Classify
import TexSplice.Proofs.Text.Words

/-! # The term that an instruction names

The terms are tried one after another and the best so far is kept. What is kept is the best of all that
were tried, so at the end it is the term that stands first, and of those that start together the
longest. No two terms of one length start together, so there is one best term in whatever order they
are tried. -/
namespace TexSplice.Intent
open Text

/-! ## The best of some terms -/

/-- The best of some terms in a text, with its offset: it is found, and none of the others that are
found is preferred to it. -/
structure IsBest (t : Text) (terms : List Text) (best : Nat × Text) : Prop where
  mem : best.2 ∈ terms
  found : offsetOfWord? best.2 t = some best.1
  best : ∀ k ∈ terms, ∀ j, offsetOfWord? k t = some j → preferred (j, k) best = false

theorem preferred_eq_false_iff {new old : Nat × Text} : preferred new old = false ↔
    old.1 < new.1 ∨ old.1 = new.1 ∧ new.2.length ≤ old.2.length := by
  simp only [preferred, Bool.or_eq_false_iff, Bool.and_eq_false_iff, decide_eq_false_iff_not,
    beq_eq_false_iff_ne]
  omega

theorem preferred_self (p : Nat × Text) : preferred p p = false :=
  preferred_eq_false_iff.mpr (.inr ⟨rfl, Nat.le_refl _⟩)

/-- What is not preferred to a term is not preferred to a better one either. -/
theorem preferred_eq_false_of_preferred {p new old : Nat × Text} (hold : preferred p old = false)
    (hnew : preferred new old = true) : preferred p new = false := by
  rw [← Bool.not_eq_false, preferred_eq_false_iff] at hnew
  rw [preferred_eq_false_iff] at hold ⊢
  omega

variable {t : Text} {terms : List Text} {term : Text} {best : Nat × Text}

theorem IsBest.concat (h : IsBest t terms best)
    (hterm : ∀ j, offsetOfWord? term t = some j → preferred (j, term) best = false) :
    IsBest t (terms ++ [term]) best := by
  refine ⟨List.mem_append_left _ h.mem, h.found, ?_⟩
  intro k hk
  rcases List.mem_append.mp hk with hk | hk
  · exact h.best k hk
  · rw [List.mem_singleton] at hk
    rwa [hk]

/-- A term that is found is the best if none before it is preferred to it. -/
theorem isBest_concat_self {i : Nat} (hfound : offsetOfWord? term t = some i)
    (h : ∀ k ∈ terms, ∀ j, offsetOfWord? k t = some j → preferred (j, k) (i, term) = false) :
    IsBest t (terms ++ [term]) (i, term) := by
  refine ⟨by simp, hfound, ?_⟩
  intro k hk j hj
  rcases List.mem_append.mp hk with hk | hk
  · exact h k hk j hj
  · rw [List.mem_singleton] at hk
    rw [hk, hfound, Option.some_inj] at hj
    rw [hk, hj]
    exact preferred_self _

/-- Terms of one length that are found at one offset are the same. -/
theorem IsBest.unique {other : Nat × Text} (h : IsBest t terms best) (hother : IsBest t terms other) :
    best = other := by
  obtain ⟨i, w⟩ := best
  obtain ⟨j, v⟩ := other
  have hle := preferred_eq_false_iff.mp (h.best v hother.mem j hother.found)
  have hge := preferred_eq_false_iff.mp (hother.best w h.mem i h.found)
  dsimp only at hle hge
  obtain rfl : i = j := by omega
  have hlength : w.length = v.length := by omega
  have hword : w = v := eq_of_offsetOfWord? h.found hother.found hlength
  rw [hword]

theorem IsBest.of_mem_iff {terms' : List Text} (h : IsBest t terms best)
    (hmem : ∀ k, k ∈ terms ↔ k ∈ terms') : IsBest t terms' best :=
  ⟨(hmem _).mp h.mem, h.found, fun k hk => h.best k ((hmem k).mpr hk)⟩

/-! ## Trying terms -/

/-- What is kept of some terms that were tried: nothing if none is found, or the best of them. -/
def Keeps (t : Text) (terms : List Text) : Option (Nat × Text) → Prop
  | none => ∀ k ∈ terms, offsetOfWord? k t = none
  | some best => IsBest t terms best

/-- What is kept when one more term is tried. -/
def tryTerm (t : Text) (kept : Option (Nat × Text)) (term : Text) : Option (Nat × Text) :=
  match offsetOfWord? term t, kept with
  | none, _ => kept
  | some offset, none => some (offset, term)
  | some offset, some old => if preferred (offset, term) old then some (offset, term) else kept

theorem bestTerm?_concat (t : Text) (terms : List Text) (term : Text) :
    bestTerm? t (terms ++ [term]) = tryTerm t (bestTerm? t terms) term := by
  rw [bestTerm?, List.foldl_append]
  rfl

theorem Keeps.tryTerm {kept : Option (Nat × Text)} (h : Keeps t terms kept) (term : Text) :
    Keeps t (terms ++ [term]) (tryTerm t kept term) := by
  cases hterm : offsetOfWord? term t with
  | none =>
    simp only [Intent.tryTerm, hterm]
    cases kept with
    | none =>
      intro k hk
      rcases List.mem_append.mp hk with hk | hk
      · exact h k hk
      · rw [List.mem_singleton] at hk
        rw [hk, hterm]
    | some old => exact IsBest.concat h (by simp [hterm])
  | some i =>
    cases kept with
    | none =>
      simp only [Intent.tryTerm, hterm]
      refine isBest_concat_self hterm ?_
      intro k hk j hj
      rw [h k hk] at hj
      cases hj
    | some old =>
      simp only [Intent.tryTerm, hterm]
      by_cases hbetter : preferred (i, term) old = true
      · rw [if_pos hbetter]
        refine isBest_concat_self hterm ?_
        intro k hk j hj
        exact preferred_eq_false_of_preferred (h.best k hk j hj) hbetter
      · rw [if_neg hbetter]
        refine IsBest.concat h ?_
        intro j hj
        rw [hterm, Option.some_inj] at hj
        rw [← hj]
        simpa using hbetter

theorem keeps_bestTerm? (t : Text) (terms : List Text) : Keeps t terms (bestTerm? t terms) := by
  induction terms using List.reverseRecOn with
  | nil =>
    intro k hk
    cases hk
  | append_singleton terms term ih =>
    rw [bestTerm?_concat]
    exact ih.tryTerm term

theorem bestTerm?_eq_some_iff : bestTerm? t terms = some best ↔ IsBest t terms best := by
  have hkept := keeps_bestTerm? t terms
  constructor
  · intro h
    rwa [h] at hkept
  · intro h
    cases hbest : bestTerm? t terms with
    | none =>
      rw [hbest] at hkept
      have hnone := hkept best.2 h.mem
      rw [h.found] at hnone
      cases hnone
    | some kept =>
      rw [hbest] at hkept
      rw [IsBest.unique hkept h]

theorem bestTerm?_eq_none_iff : bestTerm? t terms = none ↔ ∀ k ∈ terms, offsetOfWord? k t = none := by
  have hkept := keeps_bestTerm? t terms
  constructor
  · intro h
    rwa [h] at hkept
  · intro h
    cases hbest : bestTerm? t terms with
    | none => rfl
    | some kept =>
      have hfound := (bestTerm?_eq_some_iff.mp hbest).found
      rw [h kept.2 (bestTerm?_eq_some_iff.mp hbest).mem] at hfound
      cases hfound

/-- In which order terms are tried, and how often, does not matter. -/
theorem bestTerm?_congr {terms' : List Text} (hmem : ∀ k, k ∈ terms ↔ k ∈ terms') :
    bestTerm? t terms = bestTerm? t terms' := by
  refine Option.ext fun best => ?_
  rw [bestTerm?_eq_some_iff, bestTerm?_eq_some_iff]
  constructor
  · intro h
    exact h.of_mem_iff hmem
  · intro h
    exact h.of_mem_iff fun k => (hmem k).symm

/-! ## The term that stands first -/

/-- A term stands by itself in the text, and every other that does stands first behind it, or starts
with it and is shorter. -/
def IsFirstTerm (t : Text) (terms : List Text) (w : Text) : Prop :=
  w ∈ terms ∧ ∃ i, StandsFirstAt w t i ∧ ∀ k ∈ terms, k ≠ w → ∀ j, StandsFirstAt k t j →
    i < j ∨ i = j ∧ k.length < w.length

/-- The best of some terms is the one that stands first. -/
theorem map_bestTerm?_eq_some_iff (hframed : ∀ k ∈ terms, IsFramed k) {w : Text} :
    (bestTerm? t terms).map Prod.snd = some w ↔ IsFirstTerm t terms w := by
  rw [Option.map_eq_some_iff]
  constructor
  · intro h
    obtain ⟨⟨i, w⟩, hbest, rfl⟩ := h
    obtain ⟨hmem, hfound, hfirst⟩ := bestTerm?_eq_some_iff.mp hbest
    refine ⟨hmem, i, (offsetOfWord?_eq_some_iff (hframed w hmem)).mp hfound, ?_⟩
    intro k hk hne j hj
    have hfoundk := (offsetOfWord?_eq_some_iff (hframed k hk)).mpr hj
    rcases preferred_eq_false_iff.mp (hfirst k hk j hfoundk) with hlt | ⟨(rfl : i = j), hle⟩
    · exact .inl hlt
    · refine .inr ⟨rfl, Nat.lt_of_le_of_ne hle ?_⟩
      intro hlength
      exact hne (eq_of_offsetOfWord? hfoundk hfound hlength)
  · intro h
    obtain ⟨hmem, i, hi, hfirst⟩ := h
    refine ⟨(i, w), bestTerm?_eq_some_iff.mpr ⟨hmem, ?_, ?_⟩, rfl⟩
    · exact (offsetOfWord?_eq_some_iff (hframed w hmem)).mpr hi
    · intro k hk j hj
      have hstands := (offsetOfWord?_eq_some_iff (hframed k hk)).mp hj
      by_cases hkw : k = w
      · subst hkw
        rw [hstands.unique hi]
        exact preferred_self _
      · rw [preferred_eq_false_iff]
        rcases hfirst k hk hkw j hstands with hlt | ⟨heq, hlt⟩
        · exact .inl hlt
        · exact .inr ⟨heq, Nat.le_of_lt hlt⟩

theorem sectionTerms_framed : ∀ k ∈ sectionTerms, IsFramed k := by
  decide +kernel

theorem mem_sectionTerms {instruction name : Text} (h : targetOf instruction = some name) :
    name ∈ sectionTerms :=
  ((map_bestTerm?_eq_some_iff sectionTerms_framed).mp h).1

/-- **An instruction names the term that stands first in it.** In small letters the term stands there
by itself, and every other term that does comes first behind it, or starts with it and is shorter.
Nothing is named exactly if no term stands there by itself. In which order the terms are listed makes
no difference. -/
theorem target_is_first_term (instruction : Text) :
    (∀ w, targetOf instruction = some w ↔ IsFirstTerm (lower instruction) sectionTerms w) ∧
    (targetOf instruction = none ↔
      ∀ k ∈ sectionTerms, ∀ i, ¬ StandsAt k (lower instruction) i) ∧
    ∀ terms : List Text, terms.Perm sectionTerms →
      (bestTerm? (lower instruction) terms).map Prod.snd = targetOf instruction := by
  refine ⟨fun w => map_bestTerm?_eq_some_iff sectionTerms_framed, ?_, ?_⟩
  · rw [targetOf, Option.map_eq_none_iff, bestTerm?_eq_none_iff]
    constructor
    · intro h k hk
      exact (offsetOfWord?_eq_none_iff (sectionTerms_framed k hk)).mp (h k hk)
    · intro h k hk
      exact (offsetOfWord?_eq_none_iff (sectionTerms_framed k hk)).mpr (h k hk)
  · intro terms hperm
    rw [targetOf, bestTerm?_congr fun k => hperm.mem_iff]

example : targetOf "Shorten the Literature Review, not the intro".toList =
    some "literature review".toList := by
  decide +kernel

end TexSplice.Intent
