import Mathlib.Algebra.Order.Field.Power
import Mathlib.Data.Nat.Cast.Order.Field
import Mathlib.Data.Rat.Cast.Order
import Mathlib.Tactic.FieldSimp
import Mathlib.Tactic.Linarith
import Mathlib.Tactic.NormNum
import Mathlib.Tactic.Positivity
import Mathlib.Tactic.Ring
import TexSplice.Numeral.Shortest

/-! # The shortest decimal rounds to its double

The numbers that round to a double lie between the middles to its neighbours, and the middles
themselves round to an even mantissa. So no number rounds to two doubles. Seventeen digits are enough
to meet every interval, so the search for the shortest decimal ends with one that does. -/
namespace TexSplice.Numeral

/-! ## Powers -/

theorem tenTo_pos (n : Nat) : 0 < tenTo n := Nat.pow_pos (by decide)

theorem cast_tenTo (n : Nat) : (tenTo n : ℚ) = 10 ^ n := by
  have h : tenTo n = 10 ^ n := rfl
  rw [h]
  push_cast
  rfl

theorem cast_twoTo (n : Nat) : (twoTo n : ℚ) = 2 ^ n := by
  have h : twoTo n = 2 ^ n := rfl
  rw [h]
  push_cast
  rfl

theorem tenTo_div_tenTo (k : Int) : (tenTo k.toNat : ℚ) / tenTo (-k).toNat = 10 ^ k := by
  rw [cast_tenTo, cast_tenTo, ← zpow_natCast, ← zpow_natCast, ← zpow_sub₀ (by norm_num)]
  congr 1
  omega

theorem scaled_one_pos (x : Int) : 0 < (scaled 1 1 x).2 := by
  unfold scaled
  split
  · exact Nat.one_pos
  · exact Nat.mul_pos Nat.one_pos (Nat.pow_pos (by decide))

theorem scaled_one_div (x : Int) : ((scaled 1 1 x).1 : ℚ) / (scaled 1 1 x).2 = 2 ^ (-x) := by
  unfold scaled
  split
  · rw [Nat.one_mul, Nat.cast_one, div_one, cast_twoTo, ← zpow_natCast]
    congr 1
    omega
  · rw [Nat.one_mul, Nat.cast_one, cast_twoTo, ← zpow_natCast, one_div, ← zpow_neg]
    congr 1
    omega

/-! ## Decimals -/

namespace Decimal

def value (d : Decimal) : ℚ := d.digits * 10 ^ d.exponent

theorem value_trimmed : ∀ (fuel digits : Nat) (exponent : Int),
    (trimmed digits exponent fuel).value = value ⟨digits, exponent⟩
  | 0, _, _ => rfl
  | fuel + 1, digits, exponent => by
    unfold trimmed
    split
    · rename_i h
      have hdigits : digits = digits / 10 * 10 := by
        simp only [Bool.and_eq_true, decide_eq_true_eq] at h
        omega
      rw [value_trimmed fuel, value, value, hdigits, Nat.mul_div_cancel _ (by decide),
        zpow_add_one₀ (by norm_num)]
      push_cast
      ring
    · rfl

end Decimal

/-! ## Numbers that round to a double -/

/-- Whether a number lies between two others, which themselves count or not. -/
def Between (closed : Bool) (low q high : ℚ) : Prop :=
  if closed then low ≤ q ∧ q ≤ high else low < q ∧ q < high

theorem Between.of_lt {low q high : ℚ} (hlow : low < q) (hhigh : q < high) (closed : Bool) :
    Between closed low q high := by
  cases closed with
  | true => exact ⟨hlow.le, hhigh.le⟩
  | false => exact ⟨hlow, hhigh⟩

theorem Between.le {closed : Bool} {low q high : ℚ} (h : Between closed low q high) :
    low ≤ q ∧ q ≤ high := by
  cases closed with
  | true => exact h
  | false => exact ⟨h.1.le, h.2.le⟩

/-- Numbers on both sides of a common bound are that bound, and then it counts for both. -/
theorem Between.closed_of_le {closed closed' : Bool} {low q high low' high' : ℚ}
    (h : Between closed low q high) (h' : Between closed' low' q high') (hle : high ≤ low') :
    closed = true ∧ closed' = true ∧ high = low' := by
  cases closed with
  | false =>
    have := h.2
    have := h'.le.1
    linarith
  | true =>
    cases closed' with
    | false =>
      have := h.le.2
      have := h'.1
      linarith
    | true => exact ⟨rfl, rfl, by linarith [h.le.2, h'.le.1]⟩

namespace Interval

def Contains (i : Interval) (q : ℚ) : Prop :=
  Between i.closed (i.low / i.den) q (i.high / i.den)

variable {i : Interval}

theorem holds_iff {count : Nat} {k : Int} (hden : 0 < i.den) :
    i.holds count (tenTo k.toNat) (tenTo (-k).toNat) = true ↔
      i.Contains (Decimal.value ⟨count, k⟩) := by
  have hones : (0 : ℚ) < tenTo (-k).toNat := by exact_mod_cast tenTo_pos _
  have hden : (0 : ℚ) < i.den := by exact_mod_cast hden
  rw [Contains, Decimal.value, ← tenTo_div_tenTo, ← mul_div_assoc, Between, holds]
  dsimp only
  split
  · rw [Bool.and_eq_true, decide_eq_true_eq, decide_eq_true_eq, div_le_div_iff₀ hden hones,
      div_le_div_iff₀ hones hden]
    norm_cast
  · rw [Bool.and_eq_true, decide_eq_true_eq, decide_eq_true_eq, div_lt_div_iff₀ hden hones,
      div_lt_div_iff₀ hones hden]
    norm_cast

/-! ## The search -/

theorem contains_of_onGrid? {k : Int} {d : Decimal} (hden : 0 < i.den)
    (h : i.onGrid? k = some d) : i.Contains d.value := by
  unfold onGrid? at h
  extract_lets tens ones below above fromBelow toAbove pickAbove at h
  split at h
  · cases h
  · rename_i hbelow _
    cases h
    exact (holds_iff hden).mp (Bool.and_eq_true_iff.mp hbelow).1
  · rename_i habove
    cases h
    exact (holds_iff hden).mp habove
  · rename_i hbelow habove
    cases h
    cases pickAbove with
    | true => exact (holds_iff hden).mp habove
    | false => exact (holds_iff hden).mp (Bool.and_eq_true_iff.mp hbelow).1

/-- How often a step of a grid goes into the value. -/
def countBelow (i : Interval) (k : Int) : Nat :=
  i.mid * tenTo (-k).toNat / (tenTo k.toNat * i.den)

/-- The neighbour below the value is on the grid if it is in the interval. -/
theorem isSome_onGrid? {k : Int} (hden : 0 < i.den) (hne : i.countBelow k ≠ 0)
    (h : i.Contains (Decimal.value ⟨i.countBelow k, k⟩)) : (i.onGrid? k).isSome = true := by
  unfold onGrid?
  extract_lets tens ones below above fromBelow toAbove pickAbove
  have hbelow : (i.holds below tens ones && decide (below ≠ 0)) = true :=
    Bool.and_eq_true_iff.mpr ⟨(holds_iff hden).mpr h, decide_eq_true hne⟩
  rw [hbelow]
  cases i.holds above tens ones <;> rfl

/-- The neighbour is less than a step below the value. -/
theorem countBelow_spec (hden : 0 < i.den) (k : Int) :
    (i.countBelow k : ℚ) * 10 ^ k ≤ i.mid / i.den ∧
      (i.mid : ℚ) / i.den < (i.countBelow k + 1) * 10 ^ k := by
  have hdencast : (0 : ℚ) < i.den := by exact_mod_cast hden
  have hones : (0 : ℚ) < tenTo (-k).toNat := by exact_mod_cast tenTo_pos _
  rw [← tenTo_div_tenTo]
  constructor
  · have : i.countBelow k * (tenTo k.toNat * i.den) ≤ i.mid * tenTo (-k).toNat :=
      Nat.div_mul_le_self ..
    rw [← mul_div_assoc, div_le_div_iff₀ hones hdencast, mul_assoc]
    exact_mod_cast this
  · have hpositive : 0 < tenTo k.toNat * i.den := Nat.mul_pos (tenTo_pos _) hden
    have : i.mid * tenTo (-k).toNat < (i.countBelow k + 1) * (tenTo k.toNat * i.den) :=
      Nat.lt_mul_of_div_lt (Nat.lt_succ_self _) hpositive
    rw [← mul_div_assoc, div_lt_div_iff₀ hdencast hones, mul_assoc]
    exact_mod_cast this

theorem contains_firstGrid (hden : 0 < i.den) : ∀ {fuel j : Nat} {k : Int}, j < fuel →
    (i.onGrid? (k - j)).isSome = true → i.Contains (i.firstGrid k fuel).value
  | 0, _, _, hj, _ => absurd hj (Nat.not_lt_zero _)
  | fuel + 1, j, k, hj, hgrid => by
    rw [firstGrid]
    cases hk : i.onGrid? k with
    | some d => exact contains_of_onGrid? hden hk
    | none =>
      cases j with
      | zero =>
        rw [Nat.cast_zero, sub_zero, hk] at hgrid
        cases hgrid
      | succ j =>
        rw [Nat.cast_succ, add_comm, ← sub_sub] at hgrid
        exact contains_firstGrid hden (Nat.lt_of_succ_lt_succ hj) hgrid

end Interval

theorem pow_le_of_length {n : Nat} (h : 0 < n) :
    10 ^ ((Nat.toDigits 10 n).length - 1) ≤ n ∧ n < 10 ^ (Nat.toDigits 10 n).length := by
  have hlength : 0 < (Nat.toDigits 10 n).length :=
    List.length_pos_iff.mpr Nat.toDigits_ne_nil
  constructor
  · by_contra hlt
    have hlt := Nat.lt_of_not_le hlt
    have hpos : 0 < (Nat.toDigits 10 n).length - 1 := by
      by_contra hzero
      rw [Nat.eq_zero_of_not_pos hzero] at hlt
      omega
    have := (Nat.length_toDigits_le_iff (by decide) hpos).mpr hlt
    omega
  · exact (Nat.length_toDigits_le_iff (by decide) hlength).mp (Nat.le_refl _)

namespace Interval

/-- The twentieth grid that is tried: the value has more than eighteen digits on it. -/
def lastGrid (i : Interval) : Int :=
  (Nat.toDigits 10 i.mid).length - (Nat.toDigits 10 i.den).length - (19 : Nat)

theorem lastGrid_lt {i : Interval} (hmid : 0 < i.mid) (hden : 0 < i.den) :
    (10 : ℚ) ^ i.lastGrid * 10 ^ 18 < i.mid / i.den := by
  have hdencast : (0 : ℚ) < i.den := by exact_mod_cast hden
  unfold lastGrid
  set a := (Nat.toDigits 10 i.mid).length
  set b := (Nat.toDigits 10 i.den).length
  set k : Int := a - b - (19 : Nat) with hk
  have ha : 0 < a := List.length_pos_iff.mpr Nat.toDigits_ne_nil
  have hlow : (10 : ℚ) ^ (a - 1) ≤ i.mid := by exact_mod_cast (pow_le_of_length hmid).1
  have hhigh : (i.den : ℚ) < 10 ^ b := by exact_mod_cast (pow_le_of_length hden).2
  have hpower : (10 : ℚ) ^ k * 10 ^ 18 * 10 ^ b = 10 ^ (a - 1) := by
    rw [← zpow_natCast, ← zpow_natCast, ← zpow_natCast, ← zpow_add₀ (by norm_num),
      ← zpow_add₀ (by norm_num)]
    congr 1
    omega
  rw [lt_div_iff₀ hdencast]
  calc (10 : ℚ) ^ k * 10 ^ 18 * i.den
    _ < 10 ^ k * 10 ^ 18 * 10 ^ b := by gcongr
    _ = 10 ^ (a - 1) := hpower
    _ ≤ i.mid := hlow

variable {m : Nat} {e : Int}

/-- How far down the interval of a mantissa reaches, in quarters of its last place. -/
def reach (m : Nat) (e : Int) : Nat := if m = twoTo 52 && e ≠ -1074 then 1 else 2

theorem reach_pos (m : Nat) (e : Int) : 1 ≤ reach m e ∧ reach m e ≤ 2 := by
  unfold reach
  split <;> decide

theorem den_around_pos (m : Nat) (e : Int) : 0 < (around m e).den := scaled_one_pos _

theorem mid_around (m : Nat) (e : Int) :
    ((around m e).mid : ℚ) / (around m e).den = 4 * m * 2 ^ (e - 2) := by
  have hunit := scaled_one_div (-(e - 2))
  rw [neg_neg] at hunit
  rw [← hunit, ← mul_div_assoc]
  simp only [around]
  push_cast
  rfl

theorem mid_around_pos (hm : 0 < m) : 0 < (around m e).mid := by
  have hm : (0 : ℚ) < m := by exact_mod_cast hm
  have hvalue : (0 : ℚ) < (around m e).mid / (around m e).den := by
    rw [mid_around]
    positivity
  by_contra hzero
  rw [Nat.eq_zero_of_not_pos hzero, Nat.cast_zero, zero_div] at hvalue
  exact lt_irrefl _ hvalue

theorem low_around (hm : 0 < m) :
    ((around m e).low : ℚ) / (around m e).den = (4 * m - reach m e) * 2 ^ (e - 2) := by
  have hunit := scaled_one_div (-(e - 2))
  have hreach : reach m e ≤ 4 * m := by
    have := reach_pos m e
    omega
  rw [neg_neg] at hunit
  rw [← hunit, ← mul_div_assoc]
  have hlow : (around m e).low = (4 * m - reach m e) * (scaled 1 1 (-(e - 2))).1 := rfl
  have hden : (around m e).den = (scaled 1 1 (-(e - 2))).2 := rfl
  rw [hlow, hden]
  push_cast [hreach]
  rfl

theorem high_around (m : Nat) (e : Int) :
    ((around m e).high : ℚ) / (around m e).den = (4 * m + 2) * 2 ^ (e - 2) := by
  have hunit := scaled_one_div (-(e - 2))
  rw [neg_neg] at hunit
  rw [← hunit, ← mul_div_assoc]
  simp only [around]
  push_cast
  rfl

/-- What lies between the two ends rounds to the double. -/
theorem contains_around_iff (hm : 0 < m) {q : ℚ} : (around m e).Contains q ↔
    Between (m % 2 == 0) ((4 * m - reach m e) * 2 ^ (e - 2)) q ((4 * m + 2) * 2 ^ (e - 2)) := by
  rw [Contains, low_around hm, high_around]
  rfl

/-- A step of the last grid is finer than a quarter of the last place. -/
theorem lastGrid_fine (hm : 0 < m) (hlt : m < twoTo 53) :
    (10 : ℚ) ^ (around m e).lastGrid < 2 ^ (e - 2) := by
  have hmid := mid_around m e
  have hunit : (0 : ℚ) < 2 ^ (e - 2) := by positivity
  have hmcast : (m : ℚ) < 2 ^ 53 := by
    rw [← cast_twoTo]
    exact_mod_cast hlt
  have hvalue : ((around m e).mid : ℚ) / (around m e).den < 2 ^ 55 * 2 ^ (e - 2) := by
    rw [hmid]
    gcongr
    linarith
  have := lastGrid_lt (mid_around_pos hm) (den_around_pos m e)
  have : (10 : ℚ) ^ (around m e).lastGrid * 10 ^ 18 < 2 ^ (e - 2) * 10 ^ 18 := by linarith
  linarith

/-- Twenty grids are enough: on the last one the neighbour below the value is in the interval. -/
theorem exists_onGrid? (hm : 0 < m) (hlt : m < twoTo 53) :
    ((around m e).onGrid? (around m e).lastGrid).isSome = true := by
  have hden := den_around_pos m e
  have hmid := mid_around m e
  have hfine : (10 : ℚ) ^ (around m e).lastGrid < 2 ^ (e - 2) := lastGrid_fine hm hlt
  generalize (around m e).lastGrid = k at hfine
  obtain ⟨hle, hgt⟩ := countBelow_spec hden k
  have hunit : (0 : ℚ) < 2 ^ (e - 2) := by positivity
  have hmcast : (1 : ℚ) ≤ m := by exact_mod_cast hm
  have hlarge : 4 * 2 ^ (e - 2) ≤ 4 * (m : ℚ) * 2 ^ (e - 2) := by gcongr; linarith
  rw [hmid] at hle hgt
  refine isSome_onGrid? hden ?_ ((contains_around_iff hm).mpr (Between.of_lt ?_ ?_ _))
  · intro hzero
    rw [hzero, Nat.cast_zero, zero_add, one_mul] at hgt
    linarith
  · have hreach : (1 : ℚ) ≤ reach m e := by exact_mod_cast (reach_pos m e).1
    have hreach : 2 ^ (e - 2) ≤ (reach m e : ℚ) * 2 ^ (e - 2) :=
      le_mul_of_one_le_left hunit.le hreach
    rw [Decimal.value]
    linarith
  · rw [Decimal.value]
    linarith

theorem contains_shortest (hm : 0 < m) (hlt : m < twoTo 53) :
    (around m e).Contains (shortest m e).value := by
  rw [shortest, Decimal.value_trimmed]
  exact contains_firstGrid (den_around_pos m e) (by decide) (exists_onGrid? hm hlt)

end Interval

/-! ## Two doubles -/

/-- A mantissa that has all its places, or the least exponent. -/
structure Normal (m : Nat) (e : Int) : Prop where
  lt : m < twoTo 53
  least : -1074 ≤ e
  full : e ≠ -1074 → twoTo 52 ≤ m

theorem normal_of_ofBits {bits m : Nat} {e : Int} {negative : Bool}
    (h : Parts.ofBits bits = .finite negative m e) : Normal m e := by
  have htwo : twoTo 53 = twoTo 52 + twoTo 52 := rfl
  have hpos : 0 < twoTo 52 := by decide
  unfold Parts.ofBits at h
  extract_lets sign body at h
  split_ifs at h with hnan hinf hsmall
  · obtain ⟨_, rfl, rfl⟩ := Parts.finite.inj h
    exact ⟨by omega, Int.le_refl _, fun h => absurd rfl h⟩
  · obtain ⟨_, rfl, rfl⟩ := Parts.finite.inj h
    have hmod := Nat.mod_lt body hpos
    have hexp : 0 < body / twoTo 52 := Nat.div_pos (by omega) hpos
    exact ⟨by omega, by omega, fun _ => by omega⟩

namespace Interval

variable {m m' : Nat} {e e' : Int} {q : ℚ}

/-- Of two doubles with one exponent the smaller one ends where the greater one begins, and one of the
two mantissas is odd. -/
theorem not_contains_of_lt (hm : 0 < m) (hmm : m < m') (hn : Normal m e)
    (h : (around m e).Contains q) : ¬ (around m' e).Contains q := by
  intro h'
  rw [contains_around_iff hm] at h
  rw [contains_around_iff (Nat.lt_of_le_of_lt (Nat.zero_le _) hmm)] at h'
  have hreach : reach m' e = 2 := by
    unfold reach
    rw [if_neg]
    intro hnarrow
    simp only [Bool.and_eq_true, decide_eq_true_eq] at hnarrow
    have := hn.full hnarrow.2
    omega
  have hunit : (0 : ℚ) < 2 ^ (e - 2) := by positivity
  have hcast : (m : ℚ) + 1 ≤ m' := by exact_mod_cast hmm
  rw [hreach, Nat.cast_ofNat] at h'
  have hle : 4 * (m : ℚ) + 2 ≤ 4 * m' - 2 := by linarith
  obtain ⟨heven, heven', heq⟩ := h.closed_of_le h' (mul_le_mul_of_nonneg_right hle hunit.le)
  have heq := mul_right_cancel₀ hunit.ne' heq
  have hnext : m' = m + 1 := by
    have : (m' : ℚ) = m + 1 := by linarith
    exact_mod_cast this
  rw [beq_iff_eq] at heven heven'
  omega

/-- A mantissa that has all its places begins at a power of two or behind it. -/
theorem le_of_full (hfull : twoTo 52 ≤ m) (he : e ≠ -1074) :
    (2 : ℚ) ^ 54 - 1 ≤ 4 * m - reach m e := by
  have hnat : 4 * twoTo 52 + reach m e ≤ 4 * m + 1 := by
    unfold reach
    split
    · omega
    · rename_i hwide
      simp only [Bool.and_eq_true, decide_eq_true_eq, not_and] at hwide
      have : m ≠ twoTo 52 := fun h => hwide h he
      omega
  have hcast : 4 * (twoTo 52 : ℚ) + reach m e ≤ 4 * m + 1 := by exact_mod_cast hnat
  rw [cast_twoTo] at hcast
  linarith

/-- Of two doubles with different exponents the smaller one ends before the greater one begins, or
there if its mantissa is the greatest, which is odd. -/
theorem not_contains_of_exponent_lt (hm : 0 < m) (hlt : e < e') (hn : Normal m e)
    (hn' : Normal m' e') (h : (around m e).Contains q) : ¬ (around m' e').Contains q := by
  intro h'
  have hleast := hn.least
  have hfull : twoTo 52 ≤ m' := hn'.full (by omega)
  have hpos : 0 < twoTo 52 := by decide
  rw [contains_around_iff hm] at h
  rw [contains_around_iff (by omega)] at h'
  have hunit : (0 : ℚ) < 2 ^ (e - 2) := by positivity
  have hdouble : 2 * (2 : ℚ) ^ (e - 2) ≤ 2 ^ (e' - 2) := by
    rw [← zpow_one_add₀ (by norm_num)]
    exact zpow_le_zpow_right₀ (by norm_num) (by omega)
  have hbegin : ((2 : ℚ) ^ 55 - 2) * 2 ^ (e - 2) ≤ (4 * m' - reach m' e') * 2 ^ (e' - 2) := by
    calc ((2 : ℚ) ^ 55 - 2) * 2 ^ (e - 2)
      _ = (2 ^ 54 - 1) * (2 * 2 ^ (e - 2)) := by ring
      _ ≤ (4 * m' - reach m' e') * 2 ^ (e' - 2) :=
        mul_le_mul (le_of_full hfull (by omega)) hdouble (by positivity)
          (le_trans (by norm_num) (le_of_full hfull (by omega)))
  have hcast : (m : ℚ) + 1 ≤ 2 ^ 53 := by
    rw [← cast_twoTo]
    exact_mod_cast hn.lt
  have hend : (4 * (m : ℚ) + 2) * 2 ^ (e - 2) ≤ (2 ^ 55 - 2) * 2 ^ (e - 2) :=
    mul_le_mul_of_nonneg_right (by linarith) hunit.le
  obtain ⟨heven, _, heq⟩ := h.closed_of_le h' (hend.trans hbegin)
  have hgreatest : m + 1 = twoTo 53 := by
    have : 4 * (m : ℚ) + 2 = 2 ^ 55 - 2 :=
      mul_right_cancel₀ hunit.ne' (le_antisymm hend (hbegin.trans_eq heq.symm))
    have : (m : ℚ) + 1 = (twoTo 53 : Nat) := by
      rw [cast_twoTo]
      linarith
    exact_mod_cast this
  have htwo : twoTo 53 % 2 = 0 := by decide
  rw [beq_iff_eq] at heven
  omega

/-- **No number rounds to two doubles.** -/
theorem eq_of_contains (hm : 0 < m) (hm' : 0 < m') (hn : Normal m e) (hn' : Normal m' e')
    (h : (around m e).Contains q) (h' : (around m' e').Contains q) : m = m' ∧ e = e' := by
  obtain rfl : e = e' := by
    rcases lt_trichotomy e e' with hlt | heq | hlt
    · exact absurd h' (not_contains_of_exponent_lt hm hlt hn hn' h)
    · exact heq
    · exact absurd h (not_contains_of_exponent_lt hm' hlt hn' hn h')
  refine ⟨?_, rfl⟩
  rcases Nat.lt_trichotomy m m' with hlt | heq | hlt
  · exact absurd h' (not_contains_of_lt hm hlt hn h)
  · exact heq
  · exact absurd h (not_contains_of_lt hm' hlt hn' h')

end Interval

end TexSplice.Numeral
