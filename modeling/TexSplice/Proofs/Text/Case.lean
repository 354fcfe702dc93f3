import TexSplice.Proofs.Text.Trim
import TexSplice.Text.Case

/-! # Small letters stay small

A run of the table of small letters leads to code points that NO run covers, so a second pass over a
text in small letters finds nothing to do. Nor does a run lead to a blank or cover one, so a text in
small letters has its blanks where the text has them. Both are checked run by run, on the ends of
the runs alone. -/
namespace TexSplice.Text

/-! ## Runs -/

namespace CaseRun

/-- Where a run takes a code point. -/
def target (r : CaseRun) (n : Nat) : Nat := (n + r.shift).toNat

/-- Whether what a run leads to lies outside a range of code points. -/
def avoids (r : CaseRun) (first last : Nat) : Bool :=
  Nat.blt (r.target r.last) first || Nat.blt last (r.target r.first)

/-- Whether a run leads to nothing that another covers. The two may cross if the other skips every
second code point and these are the ones that the run leads to. -/
def misses (r q : CaseRun) : Bool :=
  r.avoids q.first q.last ||
    (q.step == 2 && (r.step == 2 || r.first == r.last) && (r.target r.first + q.first) % 2 == 1)

variable {r q : CaseRun} {n : Nat}

theorem covers_iff :
    r.covers n = true ↔ r.first ≤ n ∧ n ≤ r.last ∧ (n - r.first) % r.step = 0 := by
  simp [covers, and_assoc]

theorem not_between_of_avoids {first last : Nat} (h : r.avoids first last = true)
    (hn : r.covers n = true) : ¬(first ≤ r.target n ∧ r.target n ≤ last) := by
  obtain ⟨hfirst, hlast, _⟩ := covers_iff.mp hn
  simp only [avoids, target, Bool.or_eq_true, Nat.blt_eq] at h ⊢
  omega

theorem covers_target_of_misses (h : r.misses q = true) (hstart : 0 ≤ r.first + r.shift)
    (hn : r.covers n = true) : q.covers (r.target n) = false := by
  rw [Bool.eq_false_iff, ne_eq, covers_iff]
  rintro ⟨hfirst, hlast, hstep⟩
  rcases Bool.or_eq_true_iff.mp h with h | h
  · exact not_between_of_avoids h hn ⟨hfirst, hlast⟩
  · obtain ⟨hrfirst, hrlast, hrstep⟩ := covers_iff.mp hn
    simp only [Bool.and_eq_true, Bool.or_eq_true, beq_iff_eq, target] at h hfirst hstep
    obtain ⟨⟨hq, hr⟩, hodd⟩ := h
    rw [hq] at hstep
    -- what the run leads to lies an even distance behind the first, which the other run skips
    have heven : (n - r.first) % 2 = 0 := by
      rcases hr with hr | hr
      · rwa [hr] at hrstep
      · omega
    omega

end CaseRun

/-! ## The table -/

theorem caseShift_of_not_covered {n : Nat} :
    ∀ {rs : List CaseRun}, (∀ r ∈ rs, r.covers n = false) → caseShift rs n = n
  | [], _ => rfl
  | r :: rs, h => by
    rw [caseShift, h r List.mem_cons_self, if_neg Bool.false_ne_true]
    exact caseShift_of_not_covered fun q hq => h q (List.mem_cons_of_mem _ hq)

theorem caseShift_cases (n : Nat) :
    ∀ rs : List CaseRun, caseShift rs n = n ∨
      ∃ r ∈ rs, r.covers n = true ∧ caseShift rs n = r.target n
  | [] => .inl rfl
  | r :: rs => by
    rw [caseShift]
    split
    · rename_i hr
      exact .inr ⟨r, List.mem_cons_self, hr, rfl⟩
    · refine (caseShift_cases n rs).imp id fun ⟨q, hq, hn, hm⟩ => ?_
      exact ⟨q, List.mem_cons_of_mem _ hq, hn, hm⟩

theorem smallRuns_start : ∀ r ∈ smallRuns, 0 ≤ r.first + r.shift := by decide +kernel

theorem smallRuns_miss : (smallRuns.all fun r => smallRuns.all r.misses) = true := by
  decide +kernel

theorem caseShift_caseShift (n : Nat) :
    caseShift smallRuns (caseShift smallRuns n) = caseShift smallRuns n := by
  rcases caseShift_cases n smallRuns with h | ⟨r, hr, hn, hm⟩
  · rw [h, h]
  · refine caseShift_of_not_covered fun q hq => ?_
    have hmiss := List.all_eq_true.mp (List.all_eq_true.mp smallRuns_miss r hr) q hq
    rw [hm]
    exact CaseRun.covers_target_of_misses hmiss (smallRuns_start r hr) hn

/-- Every run leads to characters, and to no dotted capital I, which has a rule of its own. -/
theorem smallRuns_characters : (smallRuns.all fun r =>
    r.avoids 0xD800 0xDFFF && Nat.blt (r.target r.last) 0x110000 && r.avoids 0x130 0x130) = true := by
  decide +kernel

theorem toNat_ofNat_caseShift (c : Char) :
    (Char.ofNat (caseShift smallRuns c.toNat)).toNat = caseShift smallRuns c.toNat := by
  rcases caseShift_cases c.toNat smallRuns with h | ⟨r, hr, hn, hm⟩
  · rw [h, Char.ofNat_toNat]
  · have hcheck := List.all_eq_true.mp smallRuns_characters r hr
    simp only [Bool.and_eq_true, Nat.blt_eq] at hcheck
    have hlast := (CaseRun.covers_iff.mp hn).2.1
    have hvalid : (r.target c.toNat).isValidChar := by
      have := CaseRun.not_between_of_avoids hcheck.1.1 hn
      have hlt := hcheck.1.2
      simp only [CaseRun.target, Nat.isValidChar] at this hlt ⊢
      omega
    rw [hm, Char.ofNat, dif_pos hvalid]
    rfl

/-! ## Blanks -/

/-- The blanks, as ranges of code points. -/
def blankRanges : CharSet :=
  [ (0x09, 0x0D), (0x1C, 0x20), (0x85, 0x85), (0xA0, 0xA0), (0x1680, 0x1680), (0x2000, 0x200A),
    (0x2028, 0x2029), (0x202F, 0x202F), (0x205F, 0x205F), (0x3000, 0x3000) ]

theorem isBlank_iff {c : Char} :
    isBlank c = true ↔ ∃ s ∈ blankRanges, s.1 ≤ c.toNat ∧ c.toNat ≤ s.2 := by
  simp only [isBlank, Bool.or_eq_true, Bool.and_eq_true, decide_eq_true_eq, beq_iff_eq, blankRanges,
    List.mem_cons, List.not_mem_nil, or_false, exists_eq_or_imp, exists_eq_left]
  omega

/-- No run leads to a blank, and none covers one. -/
theorem smallRuns_avoid_blanks : (smallRuns.all fun r => blankRanges.all fun s =>
    r.avoids s.1 s.2 && (Nat.blt r.last s.1 || Nat.blt s.2 r.first)) = true := by
  decide +kernel

theorem isBlank_ofNat_caseShift (c : Char) :
    isBlank (Char.ofNat (caseShift smallRuns c.toNat)) = isBlank c := by
  rcases caseShift_cases c.toNat smallRuns with h | ⟨r, hr, hn, hm⟩
  · rw [h, Char.ofNat_toNat]
  · have hranges := List.all_eq_true.mp (List.all_eq_true.mp smallRuns_avoid_blanks r hr)
    obtain ⟨hfirst, hlast, _⟩ := CaseRun.covers_iff.mp hn
    have hbefore : isBlank c = false := by
      rw [Bool.eq_false_iff, ne_eq, isBlank_iff]
      rintro ⟨s, hs, hstart, hstop⟩
      have h := (Bool.and_eq_true_iff.mp (hranges s hs)).2
      simp only [Bool.or_eq_true, Nat.blt_eq] at h
      omega
    rw [hbefore, Bool.eq_false_iff, ne_eq, isBlank_iff, toNat_ofNat_caseShift, hm]
    rintro ⟨s, hs, hrange⟩
    exact CaseRun.not_between_of_avoids (Bool.and_eq_true_iff.mp (hranges s hs)).1 hn hrange

/-! ## Texts -/

/-- A character that is its own small form wherever it stands. -/
structure IsSmall (c : Char) : Prop where
  notDotted : c ≠ 'İ'
  stays : caseShift smallRuns c.toNat = c.toNat

namespace IsSmall

variable {c : Char}

/-- The capital sigma is in the table. -/
theorem ne_sigma (h : IsSmall c) : c ≠ 'Σ' := by
  rintro rfl
  exact absurd h.stays (by decide +kernel)

theorem lowerChar (h : IsSmall c) : lowerChar c = [c] := by
  rw [Text.lowerChar, if_neg h.notDotted, h.stays, Char.ofNat_toNat]

theorem ofNat_caseShift (h : c ≠ 'İ') : IsSmall (Char.ofNat (caseShift smallRuns c.toNat)) := by
  refine ⟨fun he => ?_, by rw [toNat_ofNat_caseShift, caseShift_caseShift]⟩
  have hcode := toNat_ofNat_caseShift c
  rw [he] at hcode
  rcases caseShift_cases c.toNat smallRuns with hstays | ⟨r, hr, hn, hm⟩
  · rw [hstays, Char.ofNat_toNat] at he
    exact h he
  · have hcheck := List.all_eq_true.mp smallRuns_characters r hr
    refine CaseRun.not_between_of_avoids (Bool.and_eq_true_iff.mp hcheck).2 hn ?_
    rw [← hm, ← hcode]
    decide

theorem of_mem_lowerChar {d : Char} (h : d ∈ Text.lowerChar c) : IsSmall d := by
  rw [Text.lowerChar] at h
  split at h
  · rcases List.mem_pair.mp h with rfl | rfl <;> exact ⟨by decide, by decide +kernel⟩
  · rename_i hdotted
    rw [List.mem_singleton.mp h]
    exact ofNat_caseShift hdotted

end IsSmall

/-- The small form of a character in its context: the capital sigma has two. -/
theorem exists_lowerAfter_cons (casedBehind : Bool) (c : Char) (t : Text) :
    ∃ small b, lowerAfter casedBehind (c :: t) = small ++ lowerAfter b t ∧
      (c = 'Σ' ∧ (small = ['ς'] ∨ small = ['σ']) ∨ c ≠ 'Σ' ∧ small = lowerChar c) := by
  refine ⟨_, _, rfl, ?_⟩
  by_cases hc : c = 'Σ'
  · rw [if_pos hc]
    refine .inl ⟨hc, ?_⟩
    split
    · exact .inl rfl
    · exact .inr rfl
  · exact .inr ⟨hc, if_neg hc⟩

theorem isSmall_of_mem_lowerAfter {d : Char} :
    ∀ {casedBehind : Bool} {t : Text}, d ∈ lowerAfter casedBehind t → IsSmall d
  | _, [], h => by cases h
  | casedBehind, c :: t, h => by
    obtain ⟨small, b, hlower, hsmall⟩ := exists_lowerAfter_cons casedBehind c t
    rw [hlower] at h
    rcases List.mem_append.mp h with h | h
    · obtain ⟨_, rfl | rfl⟩ | ⟨_, rfl⟩ := hsmall
      · rw [List.mem_singleton.mp h]
        exact ⟨by decide, by decide +kernel⟩
      · rw [List.mem_singleton.mp h]
        exact ⟨by decide, by decide +kernel⟩
      · exact .of_mem_lowerChar h
    · exact isSmall_of_mem_lowerAfter h

theorem lowerAfter_of_isSmall :
    ∀ {t : Text} (casedBehind : Bool), (∀ c ∈ t, IsSmall c) → lowerAfter casedBehind t = t
  | [], _, _ => rfl
  | c :: t, casedBehind, h => by
    have hc := h c List.mem_cons_self
    obtain ⟨small, b, hlower, hsmall⟩ := exists_lowerAfter_cons casedBehind c t
    rw [hlower, lowerAfter_of_isSmall b fun d hd => h d (List.mem_cons_of_mem _ hd)]
    obtain ⟨he, _⟩ | ⟨_, rfl⟩ := hsmall
    · exact absurd he hc.ne_sigma
    · rw [hc.lowerChar, List.singleton_append]

theorem lower_of_isSmall {t : Text} (h : ∀ c ∈ t, IsSmall c) : lower t = t :=
  lowerAfter_of_isSmall false h

theorem isSmall_of_mem_lower {t : Text} {c : Char} (h : c ∈ lower t) : IsSmall c :=
  isSmall_of_mem_lowerAfter h

theorem lowerChar_subset_lowerAfter {c : Char} (hc : c ≠ 'Σ') :
    ∀ {casedBehind : Bool} {t : Text}, c ∈ t → lowerChar c ⊆ lowerAfter casedBehind t
  | casedBehind, d :: t, h => by
    obtain ⟨small, b, hlower, hsmall⟩ := exists_lowerAfter_cons casedBehind d t
    rw [hlower]
    rcases List.mem_cons.mp h with rfl | h
    · obtain ⟨he, _⟩ | ⟨_, rfl⟩ := hsmall
      · exact absurd he hc
      · exact List.subset_append_left ..
    · exact List.subset_append_of_subset_right small (lowerChar_subset_lowerAfter hc h)

/-! ### Blanks of a text -/

theorem allBlank_lowerChar (c : Char) : allBlank (lowerChar c) = isBlank c := by
  rw [lowerChar]
  split
  · rename_i h
    rw [h]
    decide
  · rw [allBlank, List.all_cons, List.all_nil, Bool.and_true, isBlank_ofNat_caseShift]

theorem allBlank_lowerAfter :
    ∀ (casedBehind : Bool) (t : Text), allBlank (lowerAfter casedBehind t) = allBlank t
  | _, [] => rfl
  | casedBehind, c :: t => by
    obtain ⟨small, b, hlower, hsmall⟩ := exists_lowerAfter_cons casedBehind c t
    have ih : (lowerAfter b t).all isBlank = t.all isBlank := allBlank_lowerAfter b t
    have hhead : small.all isBlank = isBlank c := by
      obtain ⟨rfl, rfl | rfl⟩ | ⟨_, rfl⟩ := hsmall
      · decide
      · decide
      · exact allBlank_lowerChar c
    rw [hlower, allBlank, allBlank, List.all_append, List.all_cons, ih, hhead]

/-- A text in small letters is blank where the text is. -/
theorem allBlank_lower (t : Text) : allBlank (lower t) = allBlank t := allBlank_lowerAfter false t

/-! ### Blanks at the ends -/

/-- No blank has a case, and none is passed over in the search for a neighbour that has one. -/
theorem blanks_have_no_case : (blankRanges.all fun s => (List.range' s.1 (s.2 + 1 - s.1)).all fun n =>
    !caseIgnorableRanges.covers n && !casedRanges.covers n) = true := by
  decide +kernel

theorem caseless_of_isBlank {c : Char} (h : isBlank c = true) :
    caseIgnorableRanges.has c = false ∧ casedRanges.has c = false := by
  obtain ⟨s, hs, hfirst, hlast⟩ := isBlank_iff.mp h
  have hrange : c.toNat ∈ List.range' s.1 (s.2 + 1 - s.1) :=
    List.mem_range'_1.mpr ⟨hfirst, by omega⟩
  have hc := List.all_eq_true.mp (List.all_eq_true.mp blanks_have_no_case s hs) _ hrange
  simpa [CharSet.has] using hc

/-- Blanks behind a text are no letter that a word could go on with. -/
theorem casedAhead_append_blanks {b : Text} (hb : allBlank b = true) (t : Text) :
    casedAhead (t ++ b) = casedAhead t := by
  unfold casedAhead
  rw [List.dropWhile_append]
  cases ht : t.dropWhile caseIgnorableRanges.has with
  | cons c rest => rfl
  | nil =>
    rw [List.isEmpty_nil, if_pos rfl]
    cases b with
    | nil => rfl
    | cons c b =>
      obtain ⟨hignored, hcased⟩ := caseless_of_isBlank (Bool.and_eq_true_iff.mp hb).1
      rw [List.dropWhile_cons_of_neg (Bool.eq_false_iff.mp hignored)]
      exact hcased

/-- Blanks before a text are made small by themselves. -/
theorem lower_blanks_append {b : Text} (hb : allBlank b = true) (t : Text) :
    lower (b ++ t) = lower b ++ lower t := by
  unfold lower
  induction b with
  | nil => rfl
  | cons c b ih =>
    obtain ⟨hc, hb⟩ := Bool.and_eq_true_iff.mp hb
    obtain ⟨hignored, hcased⟩ := caseless_of_isBlank hc
    have hsigma : c ≠ 'Σ' := by
      rintro rfl
      exact absurd hc (by decide)
    simp only [List.cons_append, lowerAfter, if_neg hsigma, hignored, hcased, Bool.false_eq_true,
      if_false, ih hb, List.append_assoc]

/-- Blanks behind a text do not change its small letters, the final sigma included. -/
theorem exists_lowerAfter_append_blanks {b : Text} (hb : allBlank b = true) :
    ∀ (casedBehind : Bool) (t : Text), ∃ blanks, allBlank blanks = true ∧
      lowerAfter casedBehind (t ++ b) = lowerAfter casedBehind t ++ blanks
  | casedBehind, [] => ⟨_, (allBlank_lowerAfter casedBehind b).trans hb, rfl⟩
  | casedBehind, c :: t => by
    obtain ⟨blanks, hblanks, ht⟩ := exists_lowerAfter_append_blanks hb
      (if caseIgnorableRanges.has c then casedBehind else casedRanges.has c) t
    refine ⟨blanks, hblanks, ?_⟩
    rw [List.cons_append, lowerAfter, casedAhead_append_blanks hb, ht, lowerAfter, List.append_assoc]

/-- It does not matter whether a text is trimmed before it is made small. -/
theorem trim_lower_trim (t : Text) : trim (lower (trim t)) = trim (lower t) := by
  obtain ⟨a, b, ha, hb, ht⟩ := exists_trim t
  obtain ⟨blanks, hblanks, hlower⟩ := exists_lowerAfter_append_blanks hb false (trim t)
  have hsmall : lower t = lower a ++ (lower (trim t) ++ blanks) := calc
    lower t = lower (a ++ (trim t ++ b)) := by rw [← List.append_assoc, ← ht]
    _ = lower a ++ lower (trim t ++ b) := lower_blanks_append ha _
    _ = lower a ++ (lower (trim t) ++ blanks) := congrArg (lower a ++ ·) hlower
  rw [hsmall, trim_blanks_append ((allBlank_lower a).trans ha), trim_append_blanks hblanks]

/-! ### Plain letters -/

/-- The letters and the space in which the program writes its own names of sections. -/
def isPlainLetter (c : Char) : Bool := c == ' ' || c.isAlpha

theorem toNat_lt_of_isPlainLetter {c : Char} (h : isPlainLetter c = true) : c.toNat < 128 := by
  have hbound {last : Char} (hle : c.val ≤ last.val) (hlast : last.toNat < 128) : c.toNat < 128 :=
    Nat.lt_of_le_of_lt (UInt32.le_iff_toNat_le.mp hle) hlast
  obtain hspace | halpha := Bool.or_eq_true_iff.mp h
  · rw [eq_of_beq hspace]
    decide
  · obtain hupper | hlower := Bool.or_eq_true_iff.mp halpha
    · have hrange : 'A'.val ≤ c.val ∧ c.val ≤ 'Z'.val := of_decide_eq_true hupper
      exact hbound hrange.2 (by decide)
    · have hrange : ('a'.val ≤ c.val && c.val ≤ 'z'.val) = true := hlower
      exact hbound (of_decide_eq_true (Bool.and_eq_true_iff.mp hrange).2) (by decide)

theorem lowerChar_of_ascii {c : Char} (h : c.toNat < 128) : lowerChar c = [c.toLower] := by
  have hcheck : ∀ n < 128, lowerChar (Char.ofNat n) = [(Char.ofNat n).toLower] := by
    decide +kernel
  have hc := hcheck c.toNat h
  rwa [Char.ofNat_toNat] at hc

theorem lowerAfter_of_isPlainLetter :
    ∀ {t : Text} (casedBehind : Bool), t.all isPlainLetter = true →
      lowerAfter casedBehind t = t.map Char.toLower
  | [], _, _ => rfl
  | c :: t, casedBehind, h => by
    obtain ⟨hc, ht⟩ := Bool.and_eq_true_iff.mp h
    obtain ⟨small, b, hlower, hsmall⟩ := exists_lowerAfter_cons casedBehind c t
    rw [hlower, lowerAfter_of_isPlainLetter b ht]
    obtain ⟨rfl, _⟩ | ⟨_, rfl⟩ := hsmall
    · exact absurd hc (by decide)
    · rw [lowerChar_of_ascii (toNat_lt_of_isPlainLetter hc), List.singleton_append, List.map_cons]

/-- Plain letters are made small one by one. -/
theorem lower_of_isPlainLetter {t : Text} (h : t.all isPlainLetter = true) :
    lower t = t.map Char.toLower :=
  lowerAfter_of_isPlainLetter false h

end TexSplice.Text
