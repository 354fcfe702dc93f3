import TexSplice.Proofs.Text.Trim

/-! # Cutting a text at a mark

A text is cut at the first place where a mark occurs. That place is told by what it is first among:
no occurrence of the mark has less text before it. A mark of several characters may overlap itself, so
this says more than that the text before does not hold the mark. -/
namespace TexSplice.Text

/-- The first occurrence of a mark in a text has this before it and that behind it. -/
structure CutAtFirst (mark t before after : Text) : Prop where
  text : t = before ++ mark ++ after
  first : ∀ a b, t = a ++ mark ++ b → before.length ≤ a.length

namespace CutAtFirst

variable {mark t before after : Text} {c : Char}

theorem at_start (h : t = mark ++ after) : CutAtFirst mark t [] after :=
  ⟨h, fun _ _ _ => Nat.zero_le _⟩

/-- In a text that begins with the mark nothing stands before it. -/
theorem start_iff {rest : Text} :
    CutAtFirst mark (mark ++ rest) before after ↔ before = [] ∧ after = rest := by
  constructor
  · intro h
    have hbefore : before = [] := List.length_eq_zero_iff.mp (Nat.le_zero.mp (h.first [] rest rfl))
    subst hbefore
    exact ⟨rfl, (List.append_cancel_left h.text).symm⟩
  · rintro ⟨rfl, rfl⟩
    exact .at_start rfl

/-- A character before which the mark does not start only moves the place on. -/
theorem cons_iff (hstart : ¬ mark <+: c :: t) :
    CutAtFirst mark (c :: t) (c :: before) after ↔ CutAtFirst mark t before after := by
  constructor
  · rintro ⟨htext, hfirst⟩
    refine ⟨(List.cons.inj htext).2, fun a b hab => ?_⟩
    exact Nat.le_of_succ_le_succ (hfirst (c :: a) b (congrArg (c :: ·) hab))
  · rintro ⟨htext, hfirst⟩
    refine ⟨congrArg (c :: ·) htext, fun a b hab => ?_⟩
    cases a with
    | nil => exact absurd ⟨b, hab.symm⟩ hstart
    | cons d a => exact Nat.succ_le_succ (hfirst a b (List.cons.inj hab).2)

/-- Behind a beginning of the text before it the mark still occurs there first. -/
theorem of_append {a : Text} (h : CutAtFirst mark (a ++ t) (a ++ before) after) :
    CutAtFirst mark t before after := by
  refine ⟨List.append_cancel_left (h.text.trans (by simp)), fun x y hxy => ?_⟩
  have hle := h.first (a ++ x) y (by rw [hxy]; simp)
  rw [List.length_append, List.length_append] at hle
  exact Nat.le_of_add_le_add_left hle

/-- What follows an occurrence of the mark follows the first one too. -/
theorem suffix_of_append (h : CutAtFirst mark t before after) {a b : Text}
    (ht : t = a ++ mark ++ b) : b <:+ after := by
  have hle := h.first a b ht
  refine List.suffix_of_suffix_length_le ⟨_, ht.symm⟩ ⟨_, h.text.symm⟩ ?_
  have hlength := congrArg List.length (ht.symm.trans h.text)
  simp only [List.length_append] at hlength
  omega

/-- The text before the first occurrence does not hold the mark. -/
theorem not_infix (h : CutAtFirst mark t before after) (hmark : mark ≠ []) :
    ¬ mark <:+: before := by
  rintro ⟨a, b, rfl⟩
  have hle := h.first a (b ++ mark ++ after) (by rw [h.text]; simp)
  have hlength := List.length_pos_iff.mpr hmark
  simp only [List.length_append] at hle
  omega

end CutAtFirst

variable {mark t before after : Text} {c : Char}

theorem cut?_append_self (mark rest : Text) : cut? mark (mark ++ rest) = some ([], rest) := by
  cases ht : mark ++ rest with
  | nil =>
    obtain ⟨rfl, rfl⟩ := List.append_eq_nil_iff.mp ht
    rfl
  | cons c t =>
    rw [cut?, ← ht, if_pos (List.isPrefixOf_iff_prefix.mpr (List.prefix_append mark rest)),
      List.drop_left]

theorem cut?_cons_of_not_start (hstart : ¬ mark <+: c :: t) : cut? mark (c :: t) =
    (cut? mark t).map fun (before, after) => (c :: before, after) := by
  rw [cut?, if_neg (mt List.isPrefixOf_iff_prefix.mp hstart)]

theorem cut?_eq_some_iff :
    cut? mark t = some (before, after) ↔ CutAtFirst mark t before after := by
  have hstarts (rest before : Text) : cut? mark (mark ++ rest) = some (before, after) ↔
      CutAtFirst mark (mark ++ rest) before after := by
    rw [cut?_append_self, CutAtFirst.start_iff, Option.some_inj, Prod.mk.injEq, eq_comm,
      eq_comm (a := rest)]
  induction t generalizing before with
  | nil =>
    cases mark with
    | nil => exact hstarts [] before
    | cons d mark => exact iff_of_false nofun fun h => by simpa using h.text
  | cons c t ih =>
    by_cases hstart : mark <+: c :: t
    · obtain ⟨rest, hrest⟩ := hstart
      rw [← hrest]
      exact hstarts rest before
    rw [cut?_cons_of_not_start hstart, Option.map_eq_some_iff]
    constructor
    · rintro ⟨⟨b, a⟩, hcut, he⟩
      cases he
      exact (CutAtFirst.cons_iff hstart).mpr (ih.mp hcut)
    · intro h
      cases before with
      | nil => exact absurd ⟨after, h.text.symm⟩ hstart
      | cons d before =>
        obtain ⟨rfl, _⟩ := List.cons.inj h.text
        exact ⟨_, ih.mpr ((CutAtFirst.cons_iff hstart).mp h), rfl⟩

theorem cut?_eq_none_iff : cut? mark t = none ↔ ¬ mark <:+: t := by
  rw [← includes_iff, includes, Bool.not_eq_true, Option.isSome_eq_false_iff, Option.isNone_iff_eq_none]

theorem exists_cutAtFirst (h : mark <:+: t) : ∃ before after, CutAtFirst mark t before after := by
  obtain ⟨⟨before, after⟩, hcut⟩ := Option.isSome_iff_exists.mp (includes_iff.mpr h)
  exact ⟨before, after, cut?_eq_some_iff.mp hcut⟩

/-- A run of one character occurs first behind a text that does not end in it and holds no such run. -/
theorem cutAtFirst_of_run (hmark : ∀ d ∈ mark, d = c) (hinside : ¬ mark <:+: before)
    (hlast : before.getLast? ≠ some c) (after : Text) :
    CutAtFirst mark (before ++ mark ++ after) before after := by
  refine ⟨rfl, fun a b hab => ?_⟩
  by_contra hlt
  have hwhole : a ++ mark <+: before ++ mark ++ after := ⟨b, hab.symm⟩
  have hstart : before <+: before ++ mark ++ after := by
    rw [List.append_assoc]
    exact List.prefix_append ..
  rcases List.prefix_or_prefix_of_prefix hwhole hstart with hrun | hrun
  · exact hinside ((List.suffix_append a mark).isInfix.trans hrun.isInfix)
  · -- the text before would end within the run
    obtain ⟨part, rfl⟩ := List.prefix_of_prefix_length_le (List.prefix_append a mark) hrun (by omega)
    have hpart : part <+: mark := (List.prefix_append_right_inj a).mp hrun
    obtain ⟨start, d, rfl⟩ : ∃ start d, part = start ++ [d] := by
      rcases List.eq_nil_or_concat part with rfl | ⟨start, d, h⟩
      · simp at hlt
      · exact ⟨start, d, by rw [h, List.concat_eq_append]⟩
    refine hlast ?_
    rw [← List.append_assoc, List.getLast?_concat, hmark d (hpart.subset (by simp))]

/-- A single character occurs first where it does not stand before. -/
theorem cut?_singleton_eq_some_iff :
    cut? [c] t = some (before, after) ↔ t = before ++ c :: after ∧ c ∉ before := by
  rw [cut?_eq_some_iff]
  constructor
  · rintro ⟨htext, hfirst⟩
    refine ⟨htext.trans (List.append_assoc ..), fun hmem => ?_⟩
    obtain ⟨x, y, rfl⟩ := List.append_of_mem hmem
    have hlength := hfirst x (y ++ c :: after) (by rw [htext]; simp)
    rw [List.length_append, List.length_cons] at hlength
    omega
  · rintro ⟨rfl, hmem⟩
    refine ⟨List.append_cons .., fun a b hab => ?_⟩
    by_contra hlt
    have hbegins : a ++ [c] <+: before :=
      List.prefix_of_prefix_length_le ⟨b, hab.symm⟩ (List.prefix_append before _)
        (by simp; omega)
    exact hmem (hbegins.subset (List.mem_append_right a List.mem_cons_self))

/-- A text with a given start is that start and what follows it. -/
theorem after?_eq_some_iff {start t rest : Text} :
    after? start t = some rest ↔ t = start ++ rest := by
  unfold after?
  constructor
  · intro h
    split at h
    · rename_i hp
      obtain ⟨tail, rfl⟩ := List.isPrefixOf_iff_prefix.mp hp
      rw [List.drop_left] at h
      rw [Option.some_inj.mp h]
    · cases h
  · rintro rfl
    rw [if_pos (List.isPrefixOf_iff_prefix.mpr (List.prefix_append start rest)), List.drop_left]

/-! ## Where a mark is found -/

/-- A mark lies on one side of a character that it does not have. -/
theorem infix_append_cons_iff (hc : c ∉ mark) (a b : Text) :
    mark <:+: a ++ c :: b ↔ mark <:+: a ∨ mark <:+: b := by
  constructor
  · rintro ⟨x, y, hxy⟩
    rw [List.append_assoc] at hxy
    rcases List.append_eq_append_iff.mp hxy with ⟨u, rfl, hu⟩ | ⟨u, rfl, hu⟩
    · -- it starts before the character, and stops there
      rcases List.append_eq_append_iff.mp hu with ⟨v, rfl, _⟩ | ⟨v, rfl, hv⟩
      · exact .inl ⟨x, v, List.append_assoc ..⟩
      · cases v with
        | nil => exact .inl ⟨x, [], by simp⟩
        | cons d v =>
          obtain ⟨rfl, _⟩ := List.cons.inj hv
          exact absurd (List.mem_append_right u List.mem_cons_self) hc
    · cases u with
      | nil =>
        cases mark with
        | nil => exact .inr List.nil_infix
        | cons d mark =>
          obtain ⟨rfl, _⟩ := List.cons.inj hu
          exact absurd List.mem_cons_self hc
      | cons d u =>
        refine .inr ⟨u, y, ?_⟩
        rw [List.append_assoc]
        exact (List.cons.inj hu).2.symm
  · rintro (h | h)
    · exact h.trans (List.prefix_append a _).isInfix
    · exact h.trans ⟨a ++ [c], [], by simp⟩

theorem infix_cons_iff_of_not_mem (hc : c ∉ mark) (t : Text) : mark <:+: c :: t ↔ mark <:+: t := by
  refine (infix_append_cons_iff hc [] t).trans (or_iff_right_of_imp fun h => ?_)
  rw [List.infix_nil.mp h]
  exact List.nil_infix

theorem infix_concat_iff_of_not_mem (hc : c ∉ mark) (t : Text) :
    mark <:+: t ++ [c] ↔ mark <:+: t := by
  refine (infix_append_cons_iff hc t []).trans (or_iff_left_of_imp fun h => ?_)
  rw [List.infix_nil.mp h]
  exact List.nil_infix

theorem not_mem_of_isBlank (hmark : ∀ c ∈ mark, isBlank c = false) (hc : isBlank c = true) :
    c ∉ mark :=
  fun hm => Bool.false_ne_true ((hmark c hm).symm.trans hc)

theorem infix_blanks_append_iff (hmark : ∀ c ∈ mark, isBlank c = false) {b : Text}
    (hb : allBlank b = true) (t : Text) : mark <:+: b ++ t ↔ mark <:+: t := by
  induction b with
  | nil => rfl
  | cons c b ih =>
    obtain ⟨hc, hb⟩ := Bool.and_eq_true_iff.mp hb
    rw [List.cons_append, infix_cons_iff_of_not_mem (not_mem_of_isBlank hmark hc), ih hb]

theorem infix_append_blanks_iff (hmark : ∀ c ∈ mark, isBlank c = false) {b : Text}
    (hb : allBlank b = true) (t : Text) : mark <:+: t ++ b ↔ mark <:+: t := by
  induction b generalizing t with
  | nil => rw [List.append_nil]
  | cons c b ih =>
    obtain ⟨hc, hb⟩ := Bool.and_eq_true_iff.mp hb
    rw [List.append_cons, ih hb, infix_concat_iff_of_not_mem (not_mem_of_isBlank hmark hc)]

/-- Behind blanks a mark without blanks occurs first where it does without them. -/
theorem cut?_blanks_append (hmark : ∀ c ∈ mark, isBlank c = false) (hne : mark ≠ []) {b : Text}
    (hb : allBlank b = true) (t : Text) :
    cut? mark (b ++ t) = (cut? mark t).map fun (before, after) => (b ++ before, after) := by
  induction b with
  | nil => simp
  | cons c b ih =>
    obtain ⟨hc, hb⟩ := Bool.and_eq_true_iff.mp hb
    have hstart : ¬ mark <+: c :: (b ++ t) := by
      intro h
      obtain ⟨d, mark, rfl⟩ := List.exists_cons_of_ne_nil hne
      obtain ⟨rfl, _⟩ := List.cons_prefix_cons.mp h
      exact not_mem_of_isBlank hmark hc List.mem_cons_self
    rw [List.cons_append, cut?_cons_of_not_start hstart, ih hb, Option.map_map]
    rfl

theorem CutAtFirst.append_blanks (h : CutAtFirst mark t before after)
    (hmark : ∀ c ∈ mark, isBlank c = false) (hne : mark ≠ []) {b : Text} (hb : allBlank b = true) :
    CutAtFirst mark (t ++ b) before (after ++ b) := by
  refine ⟨by rw [h.text, List.append_assoc], fun x y hxy => ?_⟩
  rcases List.append_eq_append_iff.mp hxy with ⟨u, hu, hblanks⟩ | ⟨u, hu, _⟩
  · rcases List.eq_nil_or_concat u with rfl | ⟨u, c, rfl⟩
    · exact h.first x [] (by rw [List.append_nil] at hu ⊢; exact hu.symm)
    · -- the last character of the mark would be one of the blanks
      have hlast := congrArg List.getLast? hu
      rw [List.getLast?_append_of_ne_nil _ hne, List.concat_eq_append, ← List.append_assoc,
        List.getLast?_concat] at hlast
      have hc : isBlank c = true := List.all_eq_true.mp hb c (by rw [hblanks]; simp)
      exact absurd (List.mem_of_getLast? hlast) (not_mem_of_isBlank hmark hc)
  · exact h.first x u hu

/-- Before blanks too. -/
theorem cut?_append_blanks (hmark : ∀ c ∈ mark, isBlank c = false) (hne : mark ≠ []) {b : Text}
    (hb : allBlank b = true) (t : Text) :
    cut? mark (t ++ b) = (cut? mark t).map fun (before, after) => (before, after ++ b) := by
  cases hcut : cut? mark t with
  | none =>
    rw [cut?_eq_none_iff] at hcut
    rw [Option.map_none, cut?_eq_none_iff, infix_append_blanks_iff hmark hb]
    exact hcut
  | some place =>
    exact cut?_eq_some_iff.mpr ((cut?_eq_some_iff.mp hcut).append_blanks hmark hne hb)

/-- Trimming takes away no part of a mark without blanks. -/
theorem infix_trim_iff (hmark : ∀ c ∈ mark, isBlank c = false) (t : Text) :
    mark <:+: trim t ↔ mark <:+: t := by
  obtain ⟨a, b, ha, hb, ht⟩ := exists_trim t
  conv_rhs =>
    rw [ht, infix_append_blanks_iff hmark hb, infix_blanks_append_iff hmark ha]

theorem infix_of_trim (t : Text) : trim t <:+: t := by
  obtain ⟨a, b, _, _, ht⟩ := exists_trim t
  exact ⟨a, b, ht.symm⟩

end TexSplice.Text
