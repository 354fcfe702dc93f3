import Mathlib.Data.List.DropRight
import TexSplice.Text.Word

/-! # What trimming takes away

A text is its trimmed form with blanks around it. The characters that carry something are those
that are not blank, `solid`. -/
namespace TexSplice.Text

/-- The characters of a text that are not blank, in order. -/
def solid (t : Text) : Text := t.filter fun c => !isBlank c

@[simp] theorem solid_append (a b : Text) : solid (a ++ b) = solid a ++ solid b :=
  List.filter_append ..

@[simp] theorem solid_nil : solid [] = [] := rfl

@[simp] theorem solid_cons_newline (t : Text) : solid ('\n' :: t) = solid t := rfl

theorem solid_eq_nil_of_allBlank {b : Text} (h : allBlank b = true) : solid b = [] := by
  simpa [solid, allBlank] using h

/-! ## The blanks at the ends -/

theorem exists_trimStart (t : Text) : ∃ b, allBlank b = true ∧ t = b ++ trimStart t :=
  ⟨t.takeWhile isBlank, List.all_takeWhile, List.takeWhile_append_dropWhile.symm⟩

theorem exists_trimEnd (t : Text) : ∃ b, allBlank b = true ∧ t = trimEnd t ++ b := by
  obtain ⟨b, hb, ht⟩ := exists_trimStart t.reverse
  refine ⟨b.reverse, by simpa [allBlank] using hb, ?_⟩
  have := congrArg List.reverse ht
  simpa [trimStart, trimEnd] using this

theorem exists_trim (t : Text) :
    ∃ a b, allBlank a = true ∧ allBlank b = true ∧ t = a ++ trim t ++ b := by
  obtain ⟨a, ha, hs⟩ := exists_trimStart t
  obtain ⟨b, hb, he⟩ := exists_trimEnd (trimStart t)
  refine ⟨a, b, ha, hb, ?_⟩
  rw [List.append_assoc, trim, ← he, ← hs]

/-- The closing blanks are what trimming the end takes away. -/
theorem length_trimEnd (t : Text) :
    (trimEnd t).length + (t.rtakeWhile isBlank).length = t.length := by
  rw [← List.length_append]
  exact congrArg List.length List.rdropWhile_append_rtakeWhile

/-! ## Blanks that a reading does not see -/

section Blanks

variable {α : Type} {read : Text → α} {b : Text}

/-- Blanks before a text do not count if one does not. -/
theorem blanks_append_of_cons
    (hread : ∀ {c : Char}, isBlank c = true → ∀ t, read (c :: t) = read t)
    (h : allBlank b = true) (t : Text) : read (b ++ t) = read t := by
  induction b with
  | nil => rfl
  | cons c b ih =>
    obtain ⟨hc, hb⟩ := Bool.and_eq_true_iff.mp h
    rw [List.cons_append, hread hc, ih hb]

/-- Blanks behind a text do not count if one does not. -/
theorem append_blanks_of_concat
    (hread : ∀ {c : Char}, isBlank c = true → ∀ t, read (t ++ [c]) = read t)
    (h : allBlank b = true) (t : Text) : read (t ++ b) = read t := by
  induction b generalizing t with
  | nil => rw [List.append_nil]
  | cons c b ih =>
    obtain ⟨hc, hb⟩ := Bool.and_eq_true_iff.mp h
    rw [List.append_cons, ih hb, hread hc]

end Blanks

/-! ## Blanks that trimming does not see -/

@[simp] theorem trimEnd_nil : trimEnd [] = [] := rfl

theorem trimStart_cons_of_blank {c : Char} (h : isBlank c = true) (t : Text) :
    trimStart (c :: t) = trimStart t := List.dropWhile_cons_of_pos h

theorem trim_cons_of_blank {c : Char} (h : isBlank c = true) (t : Text) :
    trim (c :: t) = trim t := by
  rw [trim, trimStart_cons_of_blank h, trim]

theorem trimEnd_concat_of_blank {c : Char} (h : isBlank c = true) (t : Text) :
    trimEnd (t ++ [c]) = trimEnd t := List.rdropWhile_concat_pos isBlank t c h

theorem trimStart_eq_nil_iff {t : Text} : trimStart t = [] ↔ allBlank t = true := by
  simp [trimStart, allBlank]

theorem trim_concat_of_blank {c : Char} (h : isBlank c = true) (t : Text) :
    trim (t ++ [c]) = trim t := by
  have hs : trimStart (t ++ [c]) = if trimStart t = [] then [] else trimStart t ++ [c] := by
    simp [trimStart, List.dropWhile_append, h]
  rw [trim, trim, hs]
  split
  · rename_i hn; rw [hn]
  · exact trimEnd_concat_of_blank h _

theorem trim_blanks_append {b : Text} (h : allBlank b = true) (t : Text) :
    trim (b ++ t) = trim t :=
  blanks_append_of_cons trim_cons_of_blank h t

theorem trim_append_blanks {b : Text} (h : allBlank b = true) (t : Text) :
    trim (t ++ b) = trim t :=
  append_blanks_of_concat trim_concat_of_blank h t

theorem trim_eq_nil_iff {t : Text} : trim t = [] ↔ allBlank t = true := by
  constructor
  · intro h
    obtain ⟨a, b, ha, hb, ht⟩ := exists_trim t
    rw [ht, h, List.append_nil, allBlank, List.all_append]
    exact Bool.and_eq_true_iff.mpr ⟨ha, hb⟩
  · intro h
    rw [trim, trimStart_eq_nil_iff.mpr h, trimEnd_nil]

theorem trimEnd_eq_nil_iff {t : Text} : trimEnd t = [] ↔ allBlank t = true := by
  simp [trimEnd, allBlank]

/-- The blanks at the end of a text are trimmed off, and if nothing else is left of it then so are
those before it. -/
theorem trimEnd_append (a b : Text) :
    trimEnd (a ++ b) = if allBlank b then trimEnd a else a ++ trimEnd b := by
  have hempty : (b.reverse.dropWhile isBlank).isEmpty = allBlank b := by
    rw [Bool.eq_iff_iff, ← trimEnd_eq_nil_iff, List.isEmpty_iff, trimEnd, List.reverse_eq_nil_iff]
  unfold trimEnd
  rw [List.reverse_append, List.dropWhile_append, hempty]
  split
  · rfl
  · rw [List.reverse_append, List.reverse_reverse]

/-- Before a character that is not blank nothing is trimmed at the end. -/
theorem trimEnd_append_cons {c : Char} (h : isBlank c = false) (a b : Text) :
    trimEnd (a ++ c :: b) = a ++ c :: trimEnd b := by
  have hc : trimEnd [c] = [c] := List.rdropWhile_concat_neg isBlank [] c (by simp [h])
  have hcons : trimEnd ([c] ++ b) = [c] ++ trimEnd b := by
    rw [trimEnd_append, hc]
    split
    · rename_i hb
      rw [trimEnd_eq_nil_iff.mpr hb, List.append_nil]
    · rfl
  rw [trimEnd_append, if_neg (by simp [allBlank, h])]
  exact congrArg (a ++ ·) hcons

theorem mem_of_mem_trim {c : Char} {t : Text} (h : c ∈ trim t) : c ∈ t := by
  obtain ⟨a, b, _, _, ht⟩ := exists_trim t
  rw [ht]
  exact List.mem_append_left b (List.mem_append_right a h)

theorem trimStart_trim (t : Text) : trimStart (trim t) = trim t := by
  obtain ⟨b, _, hb⟩ := exists_trimEnd (trimStart t)
  have htrim : trimEnd (trimStart t) = trim t := rfl
  rw [htrim] at hb
  cases hs : trim t with
  | nil => rfl
  | cons c rest =>
    -- it starts where the trimming of the start of the text stopped
    have hstop : trimStart (trimStart t) = trimStart t := List.dropWhile_idempotent isBlank t
    rw [hb, hs, List.cons_append] at hstop
    have hc := List.dropWhile_eq_self_iff.mp hstop (Nat.zero_lt_succ _)
    exact List.dropWhile_cons_of_neg hc

theorem trim_trim (t : Text) : trim (trim t) = trim t := by
  have hend : trimEnd (trim t) = trim t := List.rdropWhile_idempotent isBlank (trimStart t)
  rw [trim, trimStart_trim, hend]

/-! ## Trimmed texts -/

theorem trimStart_eq_self_iff {t : Text} : trimStart t = t ↔ ∀ c ∈ t.head?, isBlank c = false := by
  rw [trimStart, List.dropWhile_eq_self_iff]
  cases t <;> simp

theorem trimEnd_eq_self_iff {t : Text} : trimEnd t = t ↔ ∀ c ∈ t.getLast?, isBlank c = false := by
  rw [← List.head?_reverse, ← trimStart_eq_self_iff]
  exact List.reverse_eq_iff

/-- A text is its trimmed form exactly if it has no blank at either end. -/
theorem trim_eq_self_iff {t : Text} : trim t = t ↔
    (∀ c ∈ t.head?, isBlank c = false) ∧ ∀ c ∈ t.getLast?, isBlank c = false := by
  rw [← trimStart_eq_self_iff, ← trimEnd_eq_self_iff]
  constructor
  · intro h
    have hstart : trimStart t = t := by rw [← h, trimStart_trim]
    rw [trim, hstart] at h
    exact ⟨hstart, h⟩
  · intro h
    obtain ⟨hstart, hend⟩ := h
    rw [trim, hstart, hend]

end TexSplice.Text
