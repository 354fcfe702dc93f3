import TexSplice.Proofs.Text.Case
import TexSplice.Proofs.Text.Words

/-! # Phrases behind their small letters

A phrase is looked for in a text that was written in small letters, but it is the text as it was given
that one reads. The plain small letters come from the plain letters, with one exception, the Kelvin
sign, and each comes from one character alone, with one exception, the dotted capital I. So where a
phrase without a k is found, it stands in the given text too, in letters of any case. -/
namespace TexSplice.Text

/-! ## Phrases in a text -/

def isPlainSmall (c : Char) : Bool := decide ('a' ≤ c) && decide (c ≤ 'z')

theorem exists_of_hasPhrase {t phrase : Text} (h : hasPhrase t phrase = true) :
    ∃ a b, t = a ++ phrase ++ b ∧ ∀ c ∈ a.getLast?, isPlainSmall c = false := by
  obtain ⟨a, c, b, rfl, hit⟩ := isSome_findOffset?_iff.mp h
  rw [Option.or_none] at hit
  obtain ⟨hbefore, hphrase⟩ := Bool.and_eq_true_iff.mp hit
  obtain ⟨rest, hrest⟩ := List.isPrefixOf_iff_prefix.mp hphrase
  refine ⟨a, rest, by rw [List.append_assoc, hrest], fun d hd => ?_⟩
  rw [Option.mem_def.mp hd] at hbefore
  exact (Bool.not_eq_true' _).mp hbefore

theorem isPlainSmall_of_isBlank {c : Char} (h : isBlank c = true) : isPlainSmall c = false := by
  rw [isPlainSmall, Bool.and_eq_false_iff, decide_eq_false_iff_not, decide_eq_false_iff_not]
  by_contra hsmall
  rw [not_or, not_not, not_not] at hsmall
  have hlow : 'a'.toNat ≤ c.toNat := UInt32.le_iff_toNat_le.mp hsmall.1
  have hhigh : c.toNat ≤ 'z'.toNat := UInt32.le_iff_toNat_le.mp hsmall.2
  obtain ⟨s, hs, hfirst, hlastc⟩ := isBlank_iff.mp h
  have hranges : ∀ s ∈ blankRanges, s.2 < 'a'.toNat ∨ 'z'.toNat < s.1 := by decide
  have := hranges s hs
  omega

/-- The blanks that are trimmed off do not hide a letter. -/
theorem exists_of_hasPhrase_trim {t phrase : Text} (h : hasPhrase (trim t) phrase = true) :
    ∃ a b, t = a ++ phrase ++ b ∧ ∀ c ∈ a.getLast?, isPlainSmall c = false := by
  obtain ⟨a, b, hab, ha⟩ := exists_of_hasPhrase h
  obtain ⟨start, rest, hstart, _, htrim⟩ := exists_trim t
  refine ⟨start ++ a, b ++ rest, by rw [htrim, hab]; simp, fun c hc => ?_⟩
  rw [List.getLast?_append] at hc
  cases hlast : a.getLast? with
  | some d =>
    rw [hlast, Option.some_or] at hc
    exact ha c (hlast.trans hc)
  | none =>
    rw [hlast, Option.none_or] at hc
    exact isPlainSmall_of_isBlank (List.all_eq_true.mp hstart c (List.mem_of_getLast? hc))

/-- Whether a phrase starts here in letters of any case, and no plain letter stands before it. -/
def freeHere (phrase : Text) (before : Option Char) (t : Text) : Bool :=
  !before.any Char.isAlpha && (t.take phrase.length).map Char.toLower == phrase

/-- Whether a phrase starts somewhere in letters of any case with no plain letter before it. -/
def standsFree (phrase t : Text) : Bool := (findOffset? (freeHere phrase) none t).isSome

theorem standsFree_of_append {a word b : Text} (hword : word ≠ [])
    (ha : ∀ c ∈ a.getLast?, c.isAlpha = false) :
    standsFree (word.map Char.toLower) (a ++ word ++ b) = true := by
  obtain ⟨c, word, rfl⟩ := List.exists_cons_of_ne_nil hword
  refine isSome_findOffset?_iff.mpr ⟨a, c, word ++ b, by simp, ?_⟩
  rw [Option.or_none, freeHere, Bool.and_eq_true]
  constructor
  · cases hlast : a.getLast? with
    | none => rfl
    | some d => simpa using ha d hlast
  · simp

/-! ## Where small letters come from -/

/-- Runs lead to no plain character, but for those of the plain capitals and of the Kelvin sign. -/
theorem smallRuns_avoid_ascii : (smallRuns.all fun r =>
    r.avoids 0 0x7F || Nat.blt r.last 0x80 || r == ⟨0x212A, 0x212A, 1, -8383⟩) = true := by
  decide +kernel

/-- A plain character that is not a k comes from a plain one. -/
theorem toLower_of_lowerChar {c d : Char} (h : lowerChar c = [d]) (hd : d.toNat < 128)
    (hk : d ≠ 'k') : c.toLower = d := by
  by_cases hc : c.toNat < 128
  · rw [lowerChar_of_ascii hc] at h
    exact List.singleton_inj.mp h
  · have hcode : caseShift smallRuns c.toNat = d.toNat := by
      rw [lowerChar] at h
      split at h
      · cases h
      · rw [← List.singleton_inj.mp h, toNat_ofNat_caseShift]
    rcases caseShift_cases c.toNat smallRuns with hstays | ⟨r, hr, hn, hm⟩
    · omega
    · obtain ⟨hfirst, hlast, _⟩ := CaseRun.covers_iff.mp hn
      have hcheck := List.all_eq_true.mp smallRuns_avoid_ascii r hr
      simp only [Bool.or_eq_true, Nat.blt_eq, beq_iff_eq] at hcheck
      rcases hcheck with (havoid | hplain) | rfl
      · exact absurd ⟨Nat.zero_le _, by omega⟩ (CaseRun.not_between_of_avoids havoid hn)
      · omega
      · -- the run of the Kelvin sign has no other character
        have hkelvin : c.toNat = 0x212A := Nat.le_antisymm hlast hfirst
        rw [hkelvin] at hcode hm
        have hd : d.toNat = 'k'.toNat := by rw [← hcode, hm]; rfl
        exact absurd (Char.toNat_inj.mp hd) hk

/-- Only the dotted capital I has two small characters, and the second is its dot. Plain characters
come from the table and become plain ones. -/
theorem exists_small (casedBehind : Bool) (c : Char) (t : Text) :
    ∃ small b, lowerAfter casedBehind (c :: t) = small ++ lowerAfter b t ∧
      (small = ['i', '\u0307'] ∨ ∃ e, small = [e] ∧ (e.toNat < 128 → lowerChar c = [e])) ∧
      (c.toNat < 128 → small = [c.toLower]) := by
  obtain ⟨small, b, hlower, hsmall⟩ := exists_lowerAfter_cons casedBehind c t
  refine ⟨small, b, hlower, ?_⟩
  obtain ⟨rfl, hsigma⟩ | ⟨_, rfl⟩ := hsmall
  · refine ⟨.inr ?_, fun h => absurd h (by decide)⟩
    obtain rfl | rfl := hsigma
    · exact ⟨_, rfl, fun h => absurd h (by decide)⟩
    · exact ⟨_, rfl, fun h => absurd h (by decide)⟩
  · refine ⟨?_, lowerChar_of_ascii⟩
    by_cases hdotted : c = 'İ'
    · exact .inl (if_pos hdotted)
    · exact .inr ⟨_, if_neg hdotted, fun _ => if_neg hdotted⟩

/-- A text in small letters that is cut before a character which is not the dot of a dotted capital I
is cut between two characters of the text. -/
theorem exists_of_lowerAfter_eq_append {d : Char} {y : Text} (hd : d ≠ '\u0307') :
    ∀ {casedBehind : Bool} {t x : Text}, lowerAfter casedBehind t = x ++ d :: y →
      ∃ t₁ t₂ b, t = t₁ ++ t₂ ∧ lowerAfter b t₂ = d :: y ∧
        (t₁ = [] ∧ x = [] ∨ ∃ t₀ c x₀ small, t₁ = t₀ ++ [c] ∧ x = x₀ ++ small ∧
          (c.toNat < 128 → small = [c.toLower]))
  | casedBehind, t, [], h => ⟨[], t, casedBehind, rfl, h, .inl ⟨rfl, rfl⟩⟩
  | _, [], e :: x, h => by cases h
  | casedBehind, c :: t, e :: x, h => by
    obtain ⟨small, b, hlower, hcases, hplain⟩ := exists_small casedBehind c t
    rw [hlower] at h
    have hcut : ∃ rest, e :: x = small ++ rest ∧ lowerAfter b t = rest ++ d :: y := by
      obtain rfl | ⟨f, rfl, _⟩ := hcases
      · cases x with
        | nil =>
          simp only [List.cons_append, List.nil_append, List.cons.injEq] at h
          exact absurd h.2.1.symm hd
        | cons f x =>
          simp only [List.cons_append, List.nil_append, List.cons.injEq] at h
          obtain ⟨rfl, rfl, h⟩ := h
          exact ⟨x, rfl, h⟩
      · simp only [List.cons_append, List.nil_append, List.cons.injEq] at h
        obtain ⟨rfl, h⟩ := h
        exact ⟨x, rfl, h⟩
    obtain ⟨rest, hx, hrest⟩ := hcut
    obtain ⟨t₁, t₂, b, rfl, ht₂, hlast⟩ := exists_of_lowerAfter_eq_append hd hrest
    refine ⟨c :: t₁, t₂, b, rfl, ht₂, .inr ?_⟩
    obtain ⟨rfl, rfl⟩ | ⟨t₀, f, x₀, last, rfl, rfl, hf⟩ := hlast
    · exact ⟨[], c, [], small, rfl, by simpa using hx, hplain⟩
    · exact ⟨c :: t₀, f, small ++ x₀, last, rfl, by simpa using hx, hf⟩

/-- A phrase that a text in small letters starts with is written there in letters of any case. It has
no k, which the Kelvin sign could stand for, and does not end in an i, which could be half of a dotted
one. -/
theorem exists_of_lowerAfter_eq_phrase {y : Text} :
    ∀ {casedBehind : Bool} {phrase t : Text}, (∀ d ∈ phrase, d.toNat < 128 ∧ d ≠ 'k') →
      phrase.getLast? ≠ some 'i' → lowerAfter casedBehind t = phrase ++ y →
        ∃ word rest, t = word ++ rest ∧ word.map Char.toLower = phrase
  | _, [], t, _, _, _ => ⟨[], t, rfl, rfl⟩
  | _, d :: phrase, [], _, _, h => by cases h
  | casedBehind, d :: phrase, c :: t, hplain, hlast, h => by
    obtain ⟨small, b, hlower, hcases, _⟩ := exists_small casedBehind c t
    rw [hlower] at h
    obtain ⟨hd, hphrase⟩ := List.forall_mem_cons.mp hplain
    obtain rfl | ⟨e, rfl, he⟩ := hcases
    · cases phrase with
      | nil =>
        simp only [List.cons_append, List.cons.injEq] at h
        exact absurd (congrArg some h.1.symm) hlast
      | cons e phrase =>
        -- a plain character would have to follow the i
        simp only [List.cons_append, List.cons.injEq] at h
        exact absurd (hphrase e List.mem_cons_self).1 (by rw [← h.2.1]; decide)
    · simp only [List.cons_append, List.nil_append, List.cons.injEq] at h
      obtain ⟨rfl, h⟩ := h
      have hrest : phrase.getLast? ≠ some 'i' := by
        intro hi
        exact hlast (by rw [List.getLast?_cons, hi, Option.getD_some])
      obtain ⟨word, rest, rfl, rfl⟩ := exists_of_lowerAfter_eq_phrase hphrase hrest h
      refine ⟨c :: word, rest, rfl, ?_⟩
      rw [List.map_cons, toLower_of_lowerChar (he hd.1) hd.1 hd.2]

theorem toNat_lt_of_isAlpha {c : Char} (h : c.isAlpha = true) : c.toNat < 128 :=
  toNat_lt_of_isPlainLetter (Bool.or_eq_true_iff.mpr (.inr h))

theorem isPlainSmall_toLower {c : Char} (h : c.isAlpha = true) :
    isPlainSmall c.toLower = true := by
  have hcheck : ∀ n < 128, (Char.ofNat n).isAlpha = true →
      isPlainSmall (Char.ofNat n).toLower = true := by
    decide
  have hc := hcheck c.toNat (toNat_lt_of_isAlpha h)
  rw [Char.ofNat_toNat] at hc
  exact hc h

/-- **A phrase that is found among the small letters of a text stands in the text**, in letters of any
case, and with no plain letter before it. -/
theorem standsFree_of_hasPhrase {phrase t : Text} (hplain : ∀ d ∈ phrase, d.toNat < 128 ∧ d ≠ 'k')
    (hlast : phrase.getLast? ≠ some 'i') (hne : phrase ≠ [])
    (h : hasPhrase (trim (lower t)) phrase = true) : standsFree phrase t = true := by
  obtain ⟨a, b, hab, ha⟩ := exists_of_hasPhrase_trim h
  obtain ⟨d, more, rfl⟩ := List.exists_cons_of_ne_nil hne
  have hd : d ≠ '\u0307' := by
    rintro rfl
    exact absurd (hplain _ List.mem_cons_self).1 (by decide)
  have hlower : lowerAfter false t = a ++ d :: (more ++ b) := by
    rw [List.append_assoc] at hab
    exact hab
  obtain ⟨t₁, t₂, casedBehind, rfl, ht₂, hbefore⟩ := exists_of_lowerAfter_eq_append hd hlower
  obtain ⟨word, after, rfl, hword⟩ := exists_of_lowerAfter_eq_phrase hplain hlast ht₂
  rw [← hword, ← List.append_assoc]
  refine standsFree_of_append (fun hnil => hne (by rw [← hword, hnil, List.map_nil])) fun c hc => ?_
  obtain ⟨rfl, _⟩ | ⟨t₀, f, x₀, small, rfl, rfl, hf⟩ := hbefore
  · cases hc
  · rw [List.getLast?_concat] at hc
    cases hc
    -- a plain letter would have become a small one
    by_contra halpha
    rw [Bool.not_eq_false] at halpha
    rw [hf (toNat_lt_of_isAlpha halpha), List.getLast?_concat] at ha
    exact absurd (ha _ rfl) (by rw [isPlainSmall_toLower halpha]; decide)

end TexSplice.Text
