import Mathlib.Data.Nat.Find
import TexSplice.Proofs.Text.Cut
import TexSplice.Text.Word

/-! # Where words stand

A search goes through a text from its beginning and stops at the first place that hits, so what it
finds is told by two facts: the place hits, and none before it does. A word that begins and ends with
word characters stands by itself at a place if a word begins there and one ends behind it, and such a
place is what the search for it hits. -/
namespace TexSplice.Text

/-! ## Places -/

/-- Something hits at this offset: it holds of the character before (`before` at the beginning) and
the text from there on, which is not empty. -/
def HitAt (hit : Option Char → Text → Bool) (before : Option Char) (t : Text) (n : Nat) : Prop :=
  ∃ a c b, t = a ++ c :: b ∧ a.length = n ∧ hit (a.getLast?.or before) (c :: b) = true

section Places

variable {hit : Option Char → Text → Bool} {before : Option Char} {c : Char} {t : Text} {n : Nat}

theorem getLast?_or_cons (c : Char) (a : Text) (before : Option Char) :
    (c :: a).getLast?.or before = a.getLast?.or (some c) := by
  rw [List.getLast?_cons]
  cases a.getLast? <;> rfl

theorem not_hitAt_nil : ¬ HitAt hit before [] n := by
  intro h
  obtain ⟨a, c, b, ht, _⟩ := h
  simp at ht

theorem hitAt_cons_zero : HitAt hit before (c :: t) 0 ↔ hit before (c :: t) = true := by
  constructor
  · intro h
    obtain ⟨a, d, b, ht, ha, hd⟩ := h
    rw [List.length_eq_zero_iff] at ha
    subst ha
    rw [ht]
    simpa using hd
  · intro h
    exact ⟨[], c, t, rfl, rfl, by simpa using h⟩

theorem hitAt_cons_succ : HitAt hit before (c :: t) (n + 1) ↔ HitAt hit (some c) t n := by
  constructor
  · intro h
    obtain ⟨a, d, b, ht, ha, hd⟩ := h
    obtain ⟨e, a, rfl⟩ := List.exists_cons_of_length_eq_add_one ha
    obtain ⟨rfl, rfl⟩ := List.cons.inj ht
    exact ⟨a, d, b, rfl, Nat.succ.inj ha, by rwa [getLast?_or_cons] at hd⟩
  · intro h
    obtain ⟨a, d, b, rfl, rfl, hd⟩ := h
    exact ⟨c :: a, d, b, rfl, rfl, by rwa [getLast?_or_cons]⟩

/-- A search finds the first place that hits. -/
theorem findOffset?_eq_some_iff : findOffset? hit before t = some n ↔
    HitAt hit before t n ∧ ∀ m, HitAt hit before t m → n ≤ m := by
  induction t generalizing before n with
  | nil => simp [findOffset?, not_hitAt_nil]
  | cons c t ih =>
    rw [findOffset?]
    by_cases hc : hit before (c :: t) = true
    · have hzero : HitAt hit before (c :: t) 0 := hitAt_cons_zero.mpr hc
      rw [if_pos hc, Option.some_inj]
      constructor
      · intro h
        subst h
        exact ⟨hzero, fun m _ => Nat.zero_le m⟩
      · intro h
        exact (Nat.le_zero.mp (h.2 0 hzero)).symm
    · have hzero : ¬ HitAt hit before (c :: t) 0 := by rwa [hitAt_cons_zero]
      rw [if_neg hc, Option.map_eq_some_iff]
      constructor
      · intro h
        obtain ⟨k, hk, rfl⟩ := h
        obtain ⟨hhit, hfirst⟩ := ih.mp hk
        refine ⟨hitAt_cons_succ.mpr hhit, fun m hm => ?_⟩
        cases m with
        | zero => exact absurd hm hzero
        | succ m => exact Nat.succ_le_succ (hfirst m (hitAt_cons_succ.mp hm))
      · intro h
        obtain ⟨hhit, hfirst⟩ := h
        cases n with
        | zero => exact absurd hhit hzero
        | succ n =>
          refine ⟨n, ih.mpr ⟨hitAt_cons_succ.mp hhit, fun m hm => ?_⟩, rfl⟩
          exact Nat.le_of_succ_le_succ (hfirst (m + 1) (hitAt_cons_succ.mpr hm))

theorem findOffset?_eq_none_iff : findOffset? hit before t = none ↔ ∀ n, ¬ HitAt hit before t n := by
  constructor
  · intro h n hn
    -- of the places that hit, the first one would be found
    classical
    have hex : ∃ n, HitAt hit before t n := ⟨n, hn⟩
    have hfirst : findOffset? hit before t = some (Nat.find hex) :=
      findOffset?_eq_some_iff.mpr ⟨Nat.find_spec hex, fun m hm => Nat.find_min' hex hm⟩
    rw [h] at hfirst
    cases hfirst
  · intro h
    cases hf : findOffset? hit before t with
    | none => rfl
    | some n => exact absurd (findOffset?_eq_some_iff.mp hf).1 (h n)

/-- A place that is found has something before it and something behind it. -/
theorem isSome_findOffset?_iff : (findOffset? hit before t).isSome = true ↔
    ∃ a c b, t = a ++ c :: b ∧ hit (a.getLast?.or before) (c :: b) = true := by
  rw [← not_iff_not, Bool.not_eq_true, Option.isSome_eq_false_iff, Option.isNone_iff_eq_none,
    findOffset?_eq_none_iff]
  constructor
  · intro h hplace
    obtain ⟨a, c, b, ht, hhit⟩ := hplace
    exact h a.length ⟨a, c, b, ht, rfl, hhit⟩
  · intro h n hn
    obtain ⟨a, c, b, ht, _, hhit⟩ := hn
    exact h ⟨a, c, b, ht, hhit⟩

end Places

/-! ## Words that stand by themselves -/

/-- Whether a word begins or ends between two texts: a word character stands on one side only. -/
def IsWordEdge (a b : Text) : Prop := a.getLast?.any isWordChar ≠ b.head?.any isWordChar

/-- A word stands at this offset by itself. -/
def StandsAt (word t : Text) (n : Nat) : Prop :=
  ∃ a b, t = a ++ word ++ b ∧ a.length = n ∧ IsWordEdge a (word ++ b) ∧ IsWordEdge (a ++ word) b

/-- The first place at which a word stands by itself. -/
def StandsFirstAt (word t : Text) (n : Nat) : Prop :=
  StandsAt word t n ∧ ∀ m, StandsAt word t m → n ≤ m

/-- A word that begins and ends with word characters. Others may stand between them. -/
def IsFramed (word : Text) : Prop :=
  word.head?.any isWordChar = true ∧ word.getLast?.any isWordChar = true

instance (word : Text) : Decidable (IsFramed word) := inferInstanceAs (Decidable (_ ∧ _))

section Words

variable {word t a b : Text} {n : Nat}

theorem IsFramed.ne_nil (h : IsFramed word) : word ≠ [] := by
  intro hnil
  subst hnil
  exact Bool.false_ne_true h.1

theorem isWordEdge_append_left_iff (h : IsFramed word) :
    IsWordEdge a (word ++ b) ↔ atEdge a.getLast? = true := by
  obtain ⟨c, word, rfl⟩ := List.exists_cons_of_ne_nil h.ne_nil
  have hc : isWordChar c = true := by simpa using h.1
  simp [IsWordEdge, atEdge, hc]

theorem isWordEdge_append_right_iff (h : IsFramed word) :
    IsWordEdge (a ++ word) b ↔ atEdge b.head? = true := by
  have hlast : (a ++ word).getLast?.any isWordChar = true := by
    rw [List.getLast?_append_of_ne_nil a h.ne_nil]
    exact h.2
  rw [IsWordEdge, hlast, atEdge]
  simp

theorem wordHere_iff {before : Option Char} : wordHere word before t = true ↔
    atEdge before = true ∧ ∃ b, t = word ++ b ∧ atEdge b.head? = true := by
  rw [wordHere, Bool.and_eq_true]
  refine and_congr_right fun _ => ?_
  cases h : after? word t with
  | none =>
    have hnone (b : Text) : t ≠ word ++ b := by
      intro hb
      rw [after?_eq_some_iff.mpr hb] at h
      cases h
    simp [hnone]
  | some rest =>
    have ht : t = word ++ rest := after?_eq_some_iff.mp h
    simp [ht]

theorem hitAt_wordHere_iff (h : IsFramed word) :
    HitAt (wordHere word) none t n ↔ StandsAt word t n := by
  constructor
  · intro hhit
    obtain ⟨a, c, b, rfl, ha, hword⟩ := hhit
    rw [Option.or_none, wordHere_iff] at hword
    obtain ⟨hbefore, rest, hrest, hbehind⟩ := hword
    refine ⟨a, rest, by rw [hrest, List.append_assoc], ha, ?_, ?_⟩
    · exact (isWordEdge_append_left_iff h).mpr hbefore
    · exact (isWordEdge_append_right_iff h).mpr hbehind
  · intro hstands
    obtain ⟨a, b, rfl, ha, hbefore, hbehind⟩ := hstands
    obtain ⟨c, rest, hword⟩ := List.exists_cons_of_ne_nil h.ne_nil
    refine ⟨a, c, rest ++ b, by rw [hword]; simp, ha, ?_⟩
    rw [Option.or_none, wordHere_iff]
    refine ⟨(isWordEdge_append_left_iff h).mp hbefore, b, by rw [hword]; rfl, ?_⟩
    exact (isWordEdge_append_right_iff h).mp hbehind

/-- **A word is found where it first stands by itself.** -/
theorem offsetOfWord?_eq_some_iff (h : IsFramed word) :
    offsetOfWord? word t = some n ↔ StandsFirstAt word t n := by
  rw [offsetOfWord?, findOffset?_eq_some_iff]
  simp only [hitAt_wordHere_iff h, StandsFirstAt]

theorem offsetOfWord?_eq_none_iff (h : IsFramed word) :
    offsetOfWord? word t = none ↔ ∀ n, ¬ StandsAt word t n := by
  rw [offsetOfWord?, findOffset?_eq_none_iff]
  simp only [hitAt_wordHere_iff h]

theorem StandsFirstAt.unique {m : Nat} (hm : StandsFirstAt word t m) (hn : StandsFirstAt word t n) :
    m = n :=
  Nat.le_antisymm (hm.2 n hn.1) (hn.2 m hm.1)

theorem exists_of_offsetOfWord? (h : offsetOfWord? word t = some n) :
    ∃ a b, t = a ++ (word ++ b) ∧ a.length = n := by
  obtain ⟨⟨a, c, b, rfl, ha, hword⟩, _⟩ := findOffset?_eq_some_iff.mp h
  obtain ⟨_, rest, hrest, _⟩ := wordHere_iff.mp hword
  exact ⟨a, rest, by rw [hrest], ha⟩

/-- Of the words of one length one only is found at an offset. -/
theorem eq_of_offsetOfWord? {other : Text} (h : offsetOfWord? word t = some n)
    (hother : offsetOfWord? other t = some n) (hlength : word.length = other.length) :
    word = other := by
  obtain ⟨a, b, ht, ha⟩ := exists_of_offsetOfWord? h
  obtain ⟨a', b', ht', ha'⟩ := exists_of_offsetOfWord? hother
  obtain ⟨_, hrest⟩ := List.append_inj (ht.symm.trans ht') (ha.trans ha'.symm)
  exact (List.append_inj hrest hlength).1

end Words

end TexSplice.Text
