import TexSplice.Proofs.Text.Trim

/-! # Groups that nest

The braces of a text nest if it is made of characters that are no braces and of groups around texts
whose braces nest. Reading from the left it is enough to count the groups that are open: none may be
closed that was not opened, and none may be left open. -/
namespace TexSplice.Text

/-- A text in which every brace belongs to a group. -/
inductive Nested : Text → Prop
  | nil : Nested []
  | plain {c : Char} {t : Text} : c ≠ '{' → c ≠ '}' → Nested t → Nested (c :: t)
  | group {a b : Text} : Nested a → Nested b → Nested ('{' :: a ++ '}' :: b)

/-- How many groups are open behind a character, if so many are open before it. -/
def openBehind? (n : Nat) (c : Char) : Option Nat :=
  if c = '{' then some (n + 1)
  else if c = '}' then (if n = 0 then none else some (n - 1))
  else some n

/-- How many groups are open behind a text; nothing if one is closed that was not opened. -/
def openAfter? (n : Nat) (t : Text) : Option Nat := t.foldlM openBehind? n

variable {t : Text} {n : Nat} {c : Char}

theorem openBehind?_plain (hopen : c ≠ '{') (hclose : c ≠ '}') : openBehind? n c = some n := by
  rw [openBehind?, if_neg hopen, if_neg hclose]

theorem openAfter?_cons (n : Nat) (c : Char) (t : Text) :
    openAfter? n (c :: t) = (openBehind? n c).bind fun m => openAfter? m t :=
  List.foldlM_cons

theorem openAfter?_append (n : Nat) (a b : Text) :
    openAfter? n (a ++ b) = (openAfter? n a).bind fun m => openAfter? m b :=
  List.foldlM_append

theorem openAfter?_open (n : Nat) (t : Text) : openAfter? n ('{' :: t) = openAfter? (n + 1) t := rfl

theorem openAfter?_close (n : Nat) (t : Text) : openAfter? (n + 1) ('}' :: t) = openAfter? n t := rfl

/-- Where no group is closed all that are opened stay open. -/
theorem openAfter?_of_not_mem (h : '}' ∉ t) : openAfter? n t = some (n + t.count '{') := by
  induction t generalizing n with
  | nil => rfl
  | cons c t ih =>
    obtain ⟨hc, ht⟩ := not_or.mp (mt List.mem_cons.mpr h)
    by_cases hopen : c = '{'
    · rw [hopen, openAfter?_open, ih ht, List.count_cons_self, Nat.add_assoc, Nat.add_comm 1]
    · rw [openAfter?_cons, openBehind?_plain hopen (Ne.symm hc), Option.bind_some, ih ht,
        List.count_cons_of_ne hopen]

/-! ## Counting finds the groups -/

/-- A text in which every brace belongs to a group opens and closes what it likes and leaves the
groups around it as they are. -/
theorem Nested.openAfter? (h : Nested t) : ∀ n, openAfter? n t = some n := by
  induction h with
  | nil => exact fun _ => rfl
  | plain hopen hclose _ ih =>
    intro n
    rw [openAfter?_cons, openBehind?_plain hopen hclose, Option.bind_some, ih]
  | group _ _ iha ihb =>
    intro n
    rw [List.cons_append, openAfter?_open, openAfter?_append, iha, Option.bind_some, openAfter?_close,
      ihb]

/-- A text that closes so many groups which were opened before it, with groups between. -/
def Closes : Nat → Text → Prop
  | 0, t => Nested t
  | n + 1, t => ∃ a b, t = a ++ '}' :: b ∧ Nested a ∧ Closes n b

theorem Closes.plain (hopen : c ≠ '{') (hclose : c ≠ '}') (h : Closes n t) : Closes n (c :: t) := by
  cases n with
  | zero => exact Nested.plain hopen hclose h
  | succ n =>
    obtain ⟨a, b, rfl, ha, hb⟩ := h
    exact ⟨c :: a, b, rfl, ha.plain hopen hclose, hb⟩

/-- An opening brace takes the first closing one. -/
theorem Closes.group (h : Closes (n + 1) t) : Closes n ('{' :: t) := by
  obtain ⟨a, b, rfl, ha, hb⟩ := h
  cases n with
  | zero => exact Nested.group ha hb
  | succ n =>
    obtain ⟨d, e, rfl, hd, he⟩ := hb
    exact ⟨'{' :: a ++ '}' :: d, e, by simp, ha.group hd, he⟩

theorem closes_of_openAfter? (h : openAfter? n t = some 0) : Closes n t := by
  induction t generalizing n with
  | nil =>
    cases h
    exact Nested.nil
  | cons c t ih =>
    by_cases hopen : c = '{'
    · subst hopen
      exact (ih h).group
    · by_cases hclose : c = '}'
      · subst hclose
        cases n with
        | zero => cases h
        | succ n => exact ⟨[], t, rfl, .nil, ih h⟩
      · rw [openAfter?_cons, openBehind?_plain hopen hclose] at h
        exact (ih h).plain hopen hclose

/-- **Braces nest exactly if counting ends where it began**, at no open group. -/
theorem nested_iff : Nested t ↔ openAfter? 0 t = some 0 :=
  ⟨fun h => h.openAfter? 0, closes_of_openAfter?⟩

instance : DecidablePred Nested := fun _ => decidable_of_iff _ nested_iff.symm

theorem openAfter?_of_allBlank (h : allBlank t = true) : openAfter? n t = some n := by
  have hbrace {c : Char} (hc : isBlank c = false) : c ∉ t := fun hm =>
    Bool.false_ne_true (hc.symm.trans (List.all_eq_true.mp h c hm))
  rw [openAfter?_of_not_mem (hbrace rfl), List.count_eq_zero.mpr (hbrace rfl), Nat.add_zero]

theorem nested_trim_iff : Nested (trim t) ↔ Nested t := by
  obtain ⟨a, b, ha, hb, ht⟩ := exists_trim t
  have hopen : openAfter? 0 t = openAfter? 0 (trim t) := by
    conv_lhs => rw [ht, openAfter?_append, openAfter?_append, openAfter?_of_allBlank ha, Option.bind_some]
    cases openAfter? 0 (trim t) with
    | none => rfl
    | some n => exact openAfter?_of_allBlank hb
  rw [nested_iff, nested_iff, hopen]

end TexSplice.Text
