import Mathlib.Data.List.Forall2
import TexSplice.Proofs.Text.Case

/-! # Words in letters of any case

Two characters are one letter when case is ignored if their keys agree. Most small letters are the key
of themselves and of the characters that have them as small form, and of no other. In such letters a
text starts with a word in any case exactly if the small letters of its start are the word. -/
namespace TexSplice.Text

/-- What stands for a small letter when case is ignored. -/
def twinKey (n : Nat) : Nat :=
  match twinLetters.find? fun group => group.2.contains n with
  | some group => group.1
  | none => n

theorem letterKey_eq (c : Char) :
    letterKey c = twinKey (if c = 'İ' then 'i'.toNat else caseShift smallRuns c.toNat) := rfl

/-- A small letter without a twin. The dotted capital I counts as an i, which is none of these. -/
def isPlainKey (d : Char) : Bool :=
  d != 'İ' && d != 'i' && caseShift smallRuns d.toNat == d.toNat &&
    twinLetters.all fun group => group.1 != d.toNat && !group.2.contains d.toNat

theorem twinKey_eq_iff {d : Char} (hd : isPlainKey d = true) {n : Nat} :
    twinKey n = d.toNat ↔ n = d.toNat := by
  have htwins := List.all_eq_true.mp (Bool.and_eq_true_iff.mp hd).2
  unfold twinKey
  split
  · rename_i group hfound
    obtain ⟨hkey, hgroup⟩ := Bool.and_eq_true_iff.mp (htwins group (List.mem_of_find?_eq_some hfound))
    refine iff_of_false (bne_iff_ne.mp hkey) fun hn => ?_
    have hn' := List.find?_some hfound
    rw [hn] at hn'
    rw [hn'] at hgroup
    cases hgroup
  · rfl

theorem lowerChar_eq_singleton_iff {c d : Char} :
    lowerChar c = [d] ↔ c ≠ 'İ' ∧ caseShift smallRuns c.toNat = d.toNat := by
  rw [lowerChar]
  split
  · rename_i hc
    refine iff_of_false (fun h => ?_) fun h => h.1 hc
    cases h
  · rename_i hc
    rw [List.singleton_inj, ← Char.toNat_inj, toNat_ofNat_caseShift, and_iff_right hc]

theorem sameLetter_iff {c d : Char} (hd : isPlainKey d = true) :
    sameLetter d c = true ↔ lowerChar c = [d] := by
  obtain ⟨⟨⟨hcapital, hi⟩, hsmall⟩, _⟩ := by simpa [isPlainKey] using hd
  have hkey : letterKey d = d.toNat := by
    rw [letterKey_eq, if_neg hcapital, hsmall]
    exact (twinKey_eq_iff hd).mpr rfl
  rw [sameLetter, beq_iff_eq, hkey, eq_comm, letterKey_eq, twinKey_eq_iff hd, lowerChar_eq_singleton_iff]
  by_cases hc : c = 'İ'
  · rw [if_pos hc]
    exact iff_of_false (fun h => hi (Char.toNat_inj.mp h.symm)) fun h => h.1 hc
  · rw [if_neg hc, and_iff_right hc]

/-- The final sigma and the sigma are twins. -/
theorem sigmas_are_twins : isPlainKey 'ς' = false ∧ isPlainKey 'σ' = false ∧
    lowerChar 'Σ' = ['σ'] := by
  decide +kernel

/-- A character whose small form starts with a letter without a twin has no other small form. -/
theorem exists_lowerAfter_cons_eq_cons_iff (casedBehind : Bool) (c : Char) (word : Text) :
    ∃ b, ∀ {d : Char} {start : Text}, isPlainKey d = true →
      (lowerAfter casedBehind (c :: word) = d :: start ↔
        sameLetter d c = true ∧ lowerAfter b word = start) := by
  obtain ⟨small, b, hlower, hsmall⟩ := exists_lowerAfter_cons casedBehind c word
  refine ⟨b, fun {d start} hd => ?_⟩
  rw [hlower, sameLetter_iff hd]
  obtain ⟨hfinal, hinner, hcapital⟩ := sigmas_are_twins
  have hne {x : Char} (hx : isPlainKey x = false) : x ≠ d := by
    rintro rfl
    rw [hx] at hd
    cases hd
  obtain ⟨rfl, hsmall⟩ | ⟨_, rfl⟩ := hsmall
  · rw [hcapital]
    refine iff_of_false (fun h => ?_) fun h => hne hinner (List.singleton_inj.mp h.1)
    obtain rfl | rfl := hsmall
    · exact hne hfinal (List.cons.inj h).1
    · exact hne hinner (List.cons.inj h).1
  · rw [lowerChar]
    split
    · refine iff_of_false (fun h => ?_) fun h => ?_
      · exact hne (by decide +kernel) (List.cons.inj h).1
      · cases h.1
    · rw [List.singleton_append, List.cons.injEq, List.singleton_inj]

theorem lowerChar_ne_nil (c : Char) : lowerChar c ≠ [] := by
  rw [lowerChar]
  split <;> exact List.cons_ne_nil _ _

theorem lowerAfter_cons_ne_nil (casedBehind : Bool) (c : Char) (word : Text) :
    lowerAfter casedBehind (c :: word) ≠ [] := by
  obtain ⟨small, b, hlower, hsmall⟩ := exists_lowerAfter_cons casedBehind c word
  rw [hlower]
  refine List.append_ne_nil_of_left_ne_nil ?_ _
  obtain ⟨_, rfl | rfl⟩ | ⟨_, rfl⟩ := hsmall
  · exact List.cons_ne_nil _ _
  · exact List.cons_ne_nil _ _
  · exact lowerChar_ne_nil c

/-- Letters without twins are the small letters of a word if each is the same letter as its own. -/
theorem lowerAfter_eq_iff :
    ∀ {casedBehind : Bool} {start word : Text}, start.all isPlainKey = true →
      (lowerAfter casedBehind word = start ↔
        List.Forall₂ (fun d c => sameLetter d c = true) start word)
  | _, start, [], _ => by
    rw [List.forall₂_nil_right_iff, lowerAfter, eq_comm]
  | casedBehind, [], c :: word, _ =>
    iff_of_false (lowerAfter_cons_ne_nil casedBehind c word) nofun
  | casedBehind, d :: start, c :: word, hstart => by
    obtain ⟨hd, hstart⟩ := Bool.and_eq_true_iff.mp hstart
    obtain ⟨b, hcons⟩ := exists_lowerAfter_cons_eq_cons_iff casedBehind c word
    rw [hcons hd, List.forall₂_cons, lowerAfter_eq_iff hstart]

variable {start t rest : Text}

theorem afterIgnoringCase?_eq_some_iff_forall₂ :
    afterIgnoringCase? start t = some rest ↔
      ∃ word, t = word ++ rest ∧ List.Forall₂ (fun d c => sameLetter d c = true) start word := by
  induction start generalizing t with
  | nil =>
    simp only [afterIgnoringCase?, Option.some_inj, List.forall₂_nil_left_iff, exists_eq_right,
      List.nil_append]
  | cons d start ih =>
    simp only [List.forall₂_cons_left_iff]
    cases t with
    | nil =>
      refine iff_of_false nofun ?_
      rintro ⟨_, h, c, word, _, _, rfl⟩
      cases h
    | cons c t =>
      rw [afterIgnoringCase?]
      split
      · rename_i hc
        rw [ih]
        constructor
        · rintro ⟨word, rfl, hword⟩
          exact ⟨c :: word, rfl, c, word, hc, hword, rfl⟩
        · rintro ⟨_, h, e, word, _, hword, rfl⟩
          exact ⟨word, (List.cons.inj h).2, hword⟩
      · rename_i hc
        refine iff_of_false nofun ?_
        rintro ⟨_, h, e, word, he, _, rfl⟩
        exact hc ((List.cons.inj h).1 ▸ he)

/-- **A text starts with a word in any case exactly if its first letters, made small, are the word.** -/
theorem afterIgnoringCase?_eq_some_iff (hstart : start.all isPlainKey = true) :
    afterIgnoringCase? start t = some rest ↔ ∃ word, t = word ++ rest ∧ lower word = start := by
  rw [afterIgnoringCase?_eq_some_iff_forall₂]
  exact exists_congr fun word => and_congr_right fun _ => (lowerAfter_eq_iff hstart).symm

/-- What a text starts with in any case has its first letter. -/
theorem letterKey_head?_of_afterIgnoringCase? (hne : start ≠ [])
    (h : afterIgnoringCase? start t = some rest) :
    t.head?.map letterKey = start.head?.map letterKey := by
  obtain ⟨word, rfl, hword⟩ := afterIgnoringCase?_eq_some_iff_forall₂.mp h
  cases hword with
  | nil => exact absurd rfl hne
  | cons hc _ => exact congrArg some (beq_iff_eq.mp hc).symm

end TexSplice.Text
