import Mathlib.Algebra.Group.Nat.Defs
import Mathlib.Tactic.SplitIfs
import TexSplice.Json.Printer

/-! # What is written can be read

No escape begins another one, and a text in writing ends at the first quotation mark that is none. So
what was written gives back the text and the place where it ends, whatever stands behind it. -/
namespace TexSplice

/-! ## Digits -/

namespace Text

theorem exists_hexDigit_of_mem_hex {c : Char} :
    ∀ {width n : Nat}, c ∈ hex width n → ∃ d < 16, c = hexDigit d
  | 0, _, h => nomatch h
  | width + 1, n, h => by
    rcases List.mem_append.mp h with h | h
    · exact exists_hexDigit_of_mem_hex h
    · exact ⟨n % 16, Nat.mod_lt n (by decide), List.mem_singleton.mp h⟩

theorem hexDigit_injective : ∀ a < 16, ∀ b < 16, hexDigit a = hexDigit b → a = b := by decide

theorem hex_injective : ∀ {width a b : Nat}, a < 16 ^ width → b < 16 ^ width →
    hex width a = hex width b → a = b
  | 0, a, b, ha, hb, _ => by omega
  | width + 1, a, b, ha, hb, h => by
    obtain ⟨hhigh, hlow⟩ := List.append_inj' h rfl
    have hhigh : a / 16 = b / 16 :=
      hex_injective (Nat.div_lt_of_lt_mul (by omega)) (Nat.div_lt_of_lt_mul (by omega)) hhigh
    have hlow : a % 16 = b % 16 := hexDigit_injective _ (Nat.mod_lt _ (by decide)) _
      (Nat.mod_lt _ (by decide)) (List.singleton_inj.mp hlow)
    omega

/-- Four digits give back a unit of sixteen bits. -/
theorem hex_append_inj {m n : Nat} {x y : Text} (hm : m < 0x10000) (hn : n < 0x10000)
    (h : hex 4 m ++ x = hex 4 n ++ y) : m = n ∧ x = y := by
  obtain ⟨hdigits, hrest⟩ := List.append_inj h (by rw [length_hex, length_hex])
  exact ⟨hex_injective hm hn hdigits, hrest⟩

end Text

namespace Json

/-! ## Escapes -/

/-- The numbers from which the units of later characters are taken belong to no character. -/
theorem toNat_lt_or_gt (c : Char) :
    c.toNat < 0xD800 ∨ 0xDFFF < c.toNat ∧ c.toNat < 0x110000 := c.valid

/-- A character of one unit and one of two have different first units. -/
theorem unit_ne_of_lt {c d : Char} (hc : c.toNat < 0x10000) (hd : ¬ d.toNat < 0x10000) (x y : Text) :
    escapeUnits c ++ x ≠ escapeUnits d ++ y := by
  intro h
  have hc' := toNat_lt_or_gt c
  have hd' := toNat_lt_or_gt d
  rw [escapeUnits, escapeUnits, if_pos hc, if_neg hd] at h
  simp only [List.cons_append, List.append_assoc, List.cons.injEq, true_and] at h
  have := (Text.hex_append_inj hc (by omega) h).1
  omega

theorem escapeUnits_append_inj {c d : Char} {x y : Text}
    (h : escapeUnits c ++ x = escapeUnits d ++ y) : c = d ∧ x = y := by
  by_cases hc : c.toNat < 0x10000 <;> by_cases hd : d.toNat < 0x10000
  · rw [escapeUnits, escapeUnits, if_pos hc, if_pos hd] at h
    simp only [List.cons_append, List.cons.injEq, true_and] at h
    obtain ⟨hn, hrest⟩ := Text.hex_append_inj hc hd h
    exact ⟨Char.toNat_inj.mp hn, hrest⟩
  · exact absurd h (unit_ne_of_lt hc hd x y)
  · exact absurd h.symm (unit_ne_of_lt hd hc y x)
  · have hc' := toNat_lt_or_gt c
    have hd' := toNat_lt_or_gt d
    rw [escapeUnits, escapeUnits, if_neg hc, if_neg hd] at h
    simp only [List.cons_append, List.append_assoc, List.cons.injEq, true_and] at h
    obtain ⟨hfirst, h⟩ := Text.hex_append_inj (by omega) (by omega) h
    simp only [List.cons.injEq, true_and] at h
    obtain ⟨hsecond, hrest⟩ := Text.hex_append_inj (by omega) (by omega) h
    exact ⟨Char.toNat_inj.mp (by omega), hrest⟩

/-- What the second character of a short escape stands for. -/
def unescape : Char → Char
  | 'n' => '\n'
  | 'r' => '\r'
  | 't' => '\t'
  | 'b' => '\x08'
  | 'f' => '\x0c'
  | x => x

/-- A character is written by a short escape, by its units, or as it is. -/
inductive Form (c : Char) : Text → Prop where
  | short (x : Char) : x ≠ 'u' → unescape x = c → Form c ['\\', x]
  | units : Form c (escapeUnits c)
  | plain : c ≠ '"' → c ≠ '\\' → Form c [c]

theorem form_of_escapeControl? {c : Char} {escape : Text} (h : escapeControl? c = some escape) :
    Form c escape := by
  unfold escapeControl? at h
  split_ifs at h
  any_goals
    subst ‹c = _›
    cases h
    exact .short _ (by decide) rfl
  -- what is left is a control character that has no letter
  have hunits : escapeUnits c = '\\' :: 'u' :: Text.hex 4 c.toNat := if_pos (by omega)
  rw [← Option.some_inj.mp h, ← hunits]
  exact .units

theorem form_writeChar (c : Char) : Form c (writeChar true c) := by
  unfold writeChar
  cases h : escapeControl? c with
  | some escape => exact form_of_escapeControl? h
  | none =>
    dsimp only
    split
    · exact .units
    · refine .plain ?_ ?_
      all_goals
        rintro rfl
        cases h

theorem exists_escapeUnits (c : Char) : ∃ digits, escapeUnits c = '\\' :: 'u' :: digits := by
  unfold escapeUnits
  dsimp only
  split <;> exact ⟨_, rfl⟩

/-- What a character is written as gives back the character and the place where it ends. -/
theorem Form.append_inj {c d : Char} {a b x y : Text} (hc : Form c a) (hd : Form d b)
    (h : a ++ x = b ++ y) : c = d ∧ x = y := by
  obtain ⟨cs, hcs⟩ := exists_escapeUnits c
  obtain ⟨ds, hds⟩ := exists_escapeUnits d
  cases hc with
  | short v hv hvc =>
    cases hd with
    | short w _ hwd =>
      obtain ⟨hvw, hrest⟩ : v = w ∧ x = y := by simpa using h
      exact ⟨by rw [← hvc, ← hwd, hvw], hrest⟩
    | units => simp [hds, hv] at h
    | plain _ hslash => simp [hslash.symm] at h
  | units =>
    cases hd with
    | short w hw _ => simp [hcs, hw.symm] at h
    | units => exact escapeUnits_append_inj h
    | plain _ hslash => simp [hcs, hslash.symm] at h
  | plain _ hslash =>
    cases hd with
    | short _ _ _ => simp [hslash] at h
    | units => simp [hds, hslash] at h
    | plain _ _ => simpa using h

/-! ## Texts -/

theorem Form.exists_cons {c : Char} {a : Text} (h : Form c a) :
    ∃ f rest, a = f :: rest ∧ f ≠ '"' := by
  cases h with
  | short v => exact ⟨_, _, rfl, by decide⟩
  | units =>
    obtain ⟨digits, h⟩ := exists_escapeUnits c
    exact ⟨_, _, h, by decide⟩
  | plain hquote => exact ⟨_, _, rfl, hquote⟩

/-- The quotation mark that closes a text is none of its characters. -/
theorem quote_ne_writeChar (c : Char) (x y : Text) : '"' :: x ≠ writeChar true c ++ y := by
  obtain ⟨f, rest, hc, hf⟩ := (form_writeChar c).exists_cons
  rw [hc, List.cons_append]
  exact fun h => hf (List.cons.inj h).1.symm

theorem flatMap_writeChar_append_inj : ∀ {a b x y : Text},
    a.flatMap (writeChar true) ++ '"' :: x = b.flatMap (writeChar true) ++ '"' :: y → a = b ∧ x = y
  | [], [], _, _, h => ⟨rfl, (List.cons.inj h).2⟩
  | [], d :: _, _, _, h => by
    rw [List.flatMap_cons, List.append_assoc] at h
    exact absurd h (quote_ne_writeChar d _ _)
  | c :: _, [], _, _, h => by
    rw [List.flatMap_cons, List.append_assoc] at h
    exact absurd h.symm (quote_ne_writeChar c _ _)
  | c :: a, d :: b, _, _, h => by
    rw [List.flatMap_cons, List.flatMap_cons, List.append_assoc, List.append_assoc] at h
    obtain ⟨rfl, htail⟩ := (form_writeChar c).append_inj (form_writeChar d) h
    obtain ⟨rfl, hrest⟩ := flatMap_writeChar_append_inj htail
    exact ⟨rfl, hrest⟩

/-- A text in writing gives back the text and the place where it ends. -/
theorem writeText_append_inj {a b x y : Text} (h : writeText true a ++ x = writeText true b ++ y) :
    a = b ∧ x = y := by
  simp only [writeText, List.cons_append, List.append_assoc, List.cons.injEq, true_and] at h
  exact flatMap_writeChar_append_inj h

/-! ## Fields in order -/

theorem nameLE_cons {a b : Char} {s t : Text} :
    nameLE (a :: s) (b :: t) = true ↔ a.toNat < b.toNat ∨ a = b ∧ nameLE s t = true := by
  rw [nameLE]
  by_cases hab : a.toNat < b.toNat
  · simp [hab]
  by_cases hba : b.toNat < a.toNat
  · have hne : a ≠ b := fun h => absurd (h ▸ hba) (Nat.lt_irrefl _)
    simp [hab, hba, hne]
  · have heq : a = b := Char.toNat_inj.mp (by omega)
    simp [heq]

theorem nameLE_antisymm : ∀ {s t : Text}, nameLE s t = true → nameLE t s = true → s = t
  | [], [], _, _ => rfl
  | a :: s, b :: t, hst, hts => by
    rw [nameLE_cons] at hst hts
    rcases hst with hab | ⟨rfl, hst⟩ <;> rcases hts with hba | ⟨heq, hts⟩
    · exact absurd hba (Nat.lt_asymm hab)
    · exact absurd (heq ▸ hab) (Nat.lt_irrefl _)
    · exact absurd hba (Nat.lt_irrefl _)
    · rw [nameLE_antisymm hst hts]

theorem nameLE_trans : ∀ (s t u : Text), nameLE s t = true → nameLE t u = true → nameLE s u = true
  | [], _, _, _, _ => by rw [nameLE]
  | a :: s, b :: t, c :: u, hst, htu => by
    rw [nameLE_cons] at hst htu ⊢
    rcases hst with hab | ⟨rfl, hst⟩ <;> rcases htu with hbc | ⟨rfl, htu⟩
    · exact .inl (Nat.lt_trans hab hbc)
    · exact .inl hab
    · exact .inl hbc
    · exact .inr ⟨rfl, nameLE_trans s t u hst htu⟩

theorem nameLE_total : ∀ s t : Text, (nameLE s t || nameLE t s) = true
  | [], _ => by simp [nameLE]
  | _ :: _, [] => by simp [nameLE]
  | a :: s, b :: t => by
    have ih := nameLE_total s t
    rw [Bool.or_eq_true] at ih ⊢
    rw [nameLE_cons, nameLE_cons]
    rcases Nat.lt_trichotomy a.toNat b.toNat with hlt | heq | hlt
    · exact .inl (.inl hlt)
    · have heq := Char.toNat_inj.mp heq
      exact ih.imp (.inr ⟨heq, ·⟩) (.inr ⟨heq.symm, ·⟩)
    · exact .inr (.inl hlt)

end Json

end TexSplice
