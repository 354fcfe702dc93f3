import TexSplice.Numeral.Reading
import TexSplice.Proofs.Numeral.Interval

/-! # Doubles that are written alike

A decimal in writing is read back with its value, whether it is written with an exponent or without.
The shortest decimal of a double rounds to no other one, so doubles that are written alike are one. -/
namespace TexSplice

/-! ## Plain digits -/

namespace Text

theorem digitValue?_of_isDigit {c : Char} (h : c.isDigit = true) :
    digitValue? c = some (c.toNat - '0'.toNat) := by
  have hcheck : ∀ n < 10, digitValue? (Char.ofNat (48 + n)) = some n := by decide
  have hlow : 48 ≤ c.toNat := (Char.isDigit_iff_toNat.mp h).1
  have hhigh : c.toNat ≤ 57 := (Char.isDigit_iff_toNat.mp h).2
  have hc := hcheck (c.toNat - 48) (by omega)
  rw [show 48 + (c.toNat - 48) = c.toNat by omega, Char.ofNat_toNat] at hc
  exact hc

/-- A run of plain digits goes up to a character that is neither a digit nor an underscore. -/
theorem digitRun_append : ∀ {ds rest : Text}, (∀ c ∈ ds, c.isDigit = true) →
    (∀ c ∈ rest.head?, digitValue? c = none ∧ c ≠ '_') →
      digitRun (ds ++ rest) = (ds.map fun c => c.toNat - '0'.toNat, rest)
  | [], [], _, _ => by rw [List.append_nil, digitRun, List.map_nil]
  | [], c :: rest, _, hrest => by
    obtain ⟨hc, _⟩ := hrest c rfl
    rw [List.nil_append, List.map_nil]
    unfold digitRun
    split
    · rename_i h
      cases h
    · rename_i h
      cases h
      rw [hc]
    · rename_i h
      cases h
      rw [hc]
  | d :: ds, rest, hds, hrest => by
    obtain ⟨hd, hds⟩ := List.forall_mem_cons.mp hds
    have hunderscore : ∀ more, ds ++ rest = '_' :: more → False := by
      intro more h
      cases ds with
      | nil => exact (hrest '_' (by rw [← List.nil_append rest, h]; rfl)).2 rfl
      | cons e ds =>
        obtain ⟨rfl, _⟩ := List.cons.inj h
        exact absurd (hds '_' List.mem_cons_self) (by decide)
    rw [List.cons_append, digitRun.eq_3 _ _ hunderscore, digitValue?_of_isDigit hd,
      digitRun_append hds hrest]
    rfl

theorem digitsValue_map (ds : Text) :
    digitsValue (ds.map fun c => c.toNat - '0'.toNat) = Nat.ofDigitChars 10 ds 0 := by
  rw [digitsValue, List.foldl_map]
  rfl

end Text

namespace Numeral
open Text

theorem isDigit_of_mem_toDigits {c : Char} {n : Nat} (h : c ∈ Nat.toDigits 10 n) :
    c.isDigit = true :=
  Nat.isDigit_of_mem_toDigits (by decide) (by decide) h

theorem ofDigitChars_toDigits (n : Nat) : Nat.ofDigitChars 10 (Nat.toDigits 10 n) 0 = n :=
  Nat.ofDigitChars_toDigits (by decide) (by decide)

/-! ## Decimals that are read back -/

theorem digitRun_of_isDigit {ds : Text} (h : ∀ c ∈ ds, c.isDigit = true) :
    digitRun ds = (ds.map fun c => c.toNat - '0'.toNat, []) := by
  have hrun : digitRun (ds ++ []) = (ds.map fun c => c.toNat - '0'.toNat, []) :=
    digitRun_append h fun c hc => by cases hc
  rwa [List.append_nil] at hrun

theorem digitRun_before_point {ds : Text} (h : ∀ c ∈ ds, c.isDigit = true) (t : Text) :
    digitRun (ds ++ '.' :: t) = (ds.map fun c => c.toNat - '0'.toNat, '.' :: t) := by
  refine digitRun_append h fun c hc => ?_
  cases hc
  decide

theorem digitRun_before_exponent {ds : Text} (h : ∀ c ∈ ds, c.isDigit = true) (t : Text) :
    digitRun (ds ++ 'e' :: t) = (ds.map fun c => c.toNat - '0'.toNat, 'e' :: t) := by
  refine digitRun_append h fun c hc => ?_
  cases hc
  decide

/-- A text without a sign is read as a number of this value. -/
def Reads (t : Text) (q : ℚ) : Prop :=
  ∃ digits exponent, fraction? false t = some (.finite false digits exponent) ∧
    Decimal.value ⟨digits, exponent⟩ = q

theorem Reads.unique {t : Text} {q q' : ℚ} (h : Reads t q) (h' : Reads t q') : q = q' := by
  obtain ⟨_, _, hread, rfl⟩ := h
  obtain ⟨_, _, hread', rfl⟩ := h'
  rw [hread] at hread'
  cases hread'
  rfl

section
variable (whole part : Text) {exponent : Text} {e : Int}

/-- Digits with a point in them. -/
theorem reads_point (hne : whole ≠ []) (hwhole : ∀ c ∈ whole, c.isDigit = true)
    (hpart : ∀ c ∈ part, c.isDigit = true) : Reads (whole ++ '.' :: part)
      (Decimal.value ⟨Nat.ofDigitChars 10 (whole ++ part) 0, -part.length⟩) := by
  have hempty : (whole.map fun c => c.toNat - '0'.toNat).isEmpty = false := by simpa using hne
  refine ⟨_, _, ?_, rfl⟩
  simp only [fraction?, digitRun_before_point hwhole, digitRun_of_isDigit hpart, hempty,
    Bool.false_and, Bool.false_eq_true, if_false, ← List.map_append, digitsValue_map,
    List.length_map]

/-- Digits with an exponent, and a point in them or none. -/
theorem reads_exponent (hne : whole ≠ []) (hwhole : ∀ c ∈ whole, c.isDigit = true)
    (hpart : ∀ c ∈ part, c.isDigit = true) (he : exponent? exponent = some e) :
    Reads (whole ++ (if part.isEmpty then [] else '.' :: part) ++ 'e' :: exponent)
      (Decimal.value ⟨Nat.ofDigitChars 10 (whole ++ part) 0, e - part.length⟩) := by
  have hempty : (whole.map fun c => c.toNat - '0'.toNat).isEmpty = false := by simpa using hne
  refine ⟨_, _, ?_, rfl⟩
  cases part with
  | nil =>
    rw [List.isEmpty_nil, if_pos rfl, List.append_nil]
    simp only [fraction?, digitRun_before_exponent hwhole, hempty]
    simpa [he] using digitsValue_map whole
  | cons d part =>
    rw [List.isEmpty_cons, if_neg Bool.false_ne_true, List.append_assoc, List.cons_append]
    simp only [fraction?, digitRun_before_point hwhole, digitRun_before_exponent hpart, hempty,
      Bool.false_and, Bool.false_eq_true, if_false, he, ← List.map_append, digitsValue_map,
      List.length_map]
    rfl

end

theorem exponentDigits_plain (n : Nat) : (∀ c ∈ exponentDigits n, c.isDigit = true) ∧
    exponentDigits n ≠ [] ∧ Nat.ofDigitChars 10 (exponentDigits n) 0 = n := by
  unfold exponentDigits
  split
  · refine ⟨List.forall_mem_cons.mpr ⟨rfl, fun _ => isDigit_of_mem_toDigits⟩, by simp, ?_⟩
    exact ofDigitChars_toDigits n
  · exact ⟨fun _ => isDigit_of_mem_toDigits, Nat.toDigits_ne_nil, ofDigitChars_toDigits n⟩

theorem exponent?_exponentDigits (e : Int) :
    exponent? ((if e < 0 then '-' else '+') :: exponentDigits e.natAbs) = some e := by
  obtain ⟨hdigits, hne, hvalue⟩ := exponentDigits_plain e.natAbs
  have hrun := digitRun_of_isDigit hdigits
  generalize exponentDigits e.natAbs = ds at hrun hvalue hne
  obtain ⟨d, ds, rfl⟩ := List.exists_cons_of_ne_nil hne
  rw [← digitsValue_map, List.map_cons] at hvalue
  rw [List.map_cons] at hrun
  split
  · simp only [exponent?, signed, hrun, hvalue, if_true]
    exact congrArg some (by omega)
  · simp only [exponent?, signed, hrun, hvalue, Bool.false_eq_true, if_false]
    exact congrArg some (by omega)

/-! ## The three ways to write a decimal -/

section
variable {ds : Text}

theorem isDigit_of_mem_replicate {c : Char} {n : Nat} (h : c ∈ List.replicate n '0') :
    c.isDigit = true := by
  rw [List.eq_of_mem_replicate h]
  rfl

theorem reads_scientific (hds : ∀ c ∈ ds, c.isDigit = true) (hne : ds ≠ []) (lead : Int) :
    Reads (ds.take 1 ++ (if (ds.drop 1).isEmpty then [] else '.' :: ds.drop 1) ++
        ['e', if lead < 0 then '-' else '+'] ++ exponentDigits lead.natAbs)
      (Decimal.value ⟨Nat.ofDigitChars 10 ds 0, lead + 1 - ds.length⟩) := by
  have hread := reads_exponent (ds.take 1) (ds.drop 1)
    (by simpa using hne) (fun c hc => hds c (List.mem_of_mem_take hc))
    (fun c hc => hds c (List.mem_of_mem_drop hc)) (exponent?_exponentDigits lead)
  have hpositive : 0 < ds.length := List.length_pos_iff.mpr hne
  have hexponent : lead - (ds.drop 1).length = lead + 1 - ds.length := by
    rw [List.length_drop]
    omega
  rw [List.take_append_drop, hexponent] at hread
  simpa only [List.append_assoc, List.cons_append, List.nil_append] using hread

theorem reads_behind_zeros (hds : ∀ c ∈ ds, c.isDigit = true) (n : Nat) :
    Reads (['0', '.'] ++ List.replicate n '0' ++ ds)
      (Decimal.value ⟨Nat.ofDigitChars 10 ds 0, -(n + ds.length : Nat)⟩) := by
  have hpart : ∀ c ∈ List.replicate n '0' ++ ds, c.isDigit = true :=
    fun c hc => (List.mem_append.mp hc).elim isDigit_of_mem_replicate (hds c)
  have hread := reads_point ['0'] _ (by simp) (by simp) hpart
  have hzero : Nat.ofDigitChars 10 ['0'] 0 = 0 := rfl
  rw [Nat.ofDigitChars_append, Nat.ofDigitChars_append, Nat.ofDigitChars_replicate_zero, hzero,
    Nat.mul_zero, List.length_append, List.length_replicate] at hread
  exact hread

/-- With a point between the digits, or as a whole number with zeros behind them. -/
theorem reads_positional (hds : ∀ c ∈ ds, c.isDigit = true) (hne : ds ≠ []) (whole : Nat)
    (hwhole : 0 < whole) :
    let padded := ds ++ List.replicate (whole - ds.length) '0'
    Reads (padded.take whole ++ ['.'] ++
        if (padded.drop whole).isEmpty then ['0'] else padded.drop whole)
      (Decimal.value ⟨Nat.ofDigitChars 10 ds 0, whole - ds.length⟩) := by
  intro padded
  have hpadded : ∀ c ∈ padded, c.isDigit = true :=
    fun c hc => (List.mem_append.mp hc).elim (hds c) isDigit_of_mem_replicate
  have hfirst : padded.take whole ≠ [] := by
    rw [ne_eq, List.take_eq_nil_iff, not_or]
    exact ⟨hwhole.ne', fun h => hne (List.append_eq_nil_iff.mp h).1⟩
  have hnumber : Nat.ofDigitChars 10 padded 0 =
      10 ^ (whole - ds.length) * Nat.ofDigitChars 10 ds 0 := by
    rw [Nat.ofDigitChars_append, Nat.ofDigitChars_replicate_zero]
  have hlength : padded.length = max ds.length whole := by
    rw [List.length_append, List.length_replicate]
    omega
  split
  · rename_i hempty
    have hlong : padded.length ≤ whole := List.drop_eq_nil_iff.mp (List.isEmpty_iff.mp hempty)
    have hread := reads_point _ ['0'] hfirst
      (fun c hc => hpadded c (List.mem_of_mem_take hc)) (by simp)
    have hzero (n : Nat) : Nat.ofDigitChars 10 ['0'] n = 10 * n := rfl
    have hexponent : (whole : Int) - ds.length = (whole - ds.length : Nat) := by omega
    rw [List.take_of_length_le hlong, Nat.ofDigitChars_append, hnumber, hzero] at hread
    -- the zero behind the point makes up for its place
    have hvalue : Decimal.value ⟨10 * (10 ^ (whole - ds.length) * Nat.ofDigitChars 10 ds 0), -1⟩ =
        Decimal.value ⟨Nat.ofDigitChars 10 ds 0, whole - ds.length⟩ := by
      rw [Decimal.value, Decimal.value, hexponent, zpow_natCast, zpow_neg_one]
      push_cast
      ring
    rw [← hvalue, List.take_of_length_le hlong]
    simpa only [List.append_assoc, List.singleton_append, List.length_singleton, Nat.cast_one]
      using hread
  · rename_i hrest
    have hshort : whole < padded.length := by
      rw [List.isEmpty_iff, List.drop_eq_nil_iff] at hrest
      omega
    have hread := reads_point _ (padded.drop whole) hfirst
      (fun c hc => hpadded c (List.mem_of_mem_take hc))
      (fun c hc => hpadded c (List.mem_of_mem_drop hc))
    have hexponent : -((padded.drop whole).length : Int) = whole - ds.length := by
      rw [List.length_drop]
      omega
    rw [List.take_append_drop, hnumber, Nat.sub_eq_zero_of_le (by omega), Nat.pow_zero,
      Nat.one_mul, hexponent] at hread
    simpa only [List.append_assoc, List.singleton_append] using hread

end

/-- **A decimal in writing is read back with its value.** -/
theorem reads_writeDecimal (f : FloatFormat) (d : Decimal) : Reads (f.writeDecimal d) d.value := by
  have hdigits : ∀ c ∈ Nat.toDigits 10 d.digits, c.isDigit = true :=
    fun _ => isDigit_of_mem_toDigits
  have hne : Nat.toDigits 10 d.digits ≠ [] := Nat.toDigits_ne_nil
  have hvalue := ofDigitChars_toDigits d.digits
  obtain ⟨digits, exponent⟩ := d
  dsimp only at hdigits hne hvalue
  unfold FloatFormat.writeDecimal
  dsimp only
  generalize Nat.toDigits 10 digits = ds at hdigits hne hvalue
  rw [← hvalue]
  split
  · have hread := reads_scientific hdigits hne (ds.length + exponent - 1)
    rwa [show (ds.length + exponent - 1 + 1 - ds.length : Int) = exponent by omega] at hread
  · split
    · have hread := reads_behind_zeros hdigits (-(ds.length + exponent - 1) - 1).toNat
      rwa [show (-((-(ds.length + exponent - 1) - 1).toNat + ds.length : Nat) : Int) = exponent by
        omega] at hread
    · have hread := reads_positional hdigits hne (ds.length + exponent - 1 + 1).toNat
        (by omega)
      rwa [show ((ds.length + exponent - 1 + 1).toNat - ds.length : Int) = exponent by
        omega] at hread

/-- A character that a number may have: a digit, a sign, a point, or an e before an exponent. -/
def isNumberChar (c : Char) : Bool := c.isDigit || c == '.' || c == 'e' || c == '+' || c == '-'

theorem isNumberChar_of_isDigit {c : Char} (h : c.isDigit = true) : isNumberChar c = true := by
  simp [isNumberChar, h]

/-- A decimal has characters of numbers, and it has a point or an exponent. -/
theorem mem_writeDecimal (f : FloatFormat) (d : Decimal) :
    (∀ c ∈ f.writeDecimal d, isNumberChar c = true) ∧
      ('.' ∈ f.writeDecimal d ∨ 'e' ∈ f.writeDecimal d) := by
  have hdigits : ∀ c ∈ Nat.toDigits 10 d.digits, isNumberChar c = true :=
    fun _ h => isNumberChar_of_isDigit (isDigit_of_mem_toDigits h)
  have hzeros (n : Nat) : ∀ c ∈ List.replicate n '0', isNumberChar c = true :=
    fun _ h => isNumberChar_of_isDigit (isDigit_of_mem_replicate h)
  unfold FloatFormat.writeDecimal
  dsimp only
  generalize Nat.toDigits 10 d.digits = ds at hdigits
  generalize (ds.length + d.exponent - 1 : Int) = lead
  split
  · refine ⟨?_, .inr (by simp)⟩
    simp only [List.forall_mem_append]
    refine ⟨⟨⟨fun c hc => hdigits c (List.mem_of_mem_take hc), ?_⟩, ?_⟩, fun c hc =>
      isNumberChar_of_isDigit ((exponentDigits_plain _).1 c hc)⟩
    · split
      · exact fun _ h => nomatch h
      · exact List.forall_mem_cons.mpr ⟨rfl, fun c hc => hdigits c (List.mem_of_mem_drop hc)⟩
    · split <;> exact List.all_eq_true.mp rfl
  · split
    · refine ⟨?_, .inl (by simp)⟩
      simp only [List.forall_mem_append]
      exact ⟨⟨List.all_eq_true.mp rfl, hzeros _⟩, hdigits⟩
    · refine ⟨?_, .inl (by simp)⟩
      have hpadded (n : Nat) : ∀ c ∈ ds ++ List.replicate n '0', isNumberChar c = true :=
        List.forall_mem_append.mpr ⟨hdigits, hzeros n⟩
      rw [List.forall_mem_append, List.forall_mem_append]
      refine ⟨⟨fun c hc => hpadded _ c (List.mem_of_mem_take hc), List.all_eq_true.mp rfl⟩, ?_⟩
      split
      · exact List.all_eq_true.mp rfl
      · exact fun c hc => hpadded _ c (List.mem_of_mem_drop hc)

/-! ## Doubles -/

namespace Parts

def isNegative : Parts → Bool
  | nan => false
  | infinite negative => negative
  | finite negative _ _ => negative

def written (f : FloatFormat) : Parts → Text
  | nan => f.nan
  | infinite _ => f.infinity
  | finite _ 0 _ => ['0', '.', '0']
  | finite _ mantissa exponent => f.writeDecimal (shortest mantissa exponent)

end Parts

theorem FloatFormat.write_eq (f : FloatFormat) (bits : Nat) : f.write bits =
    (if (Parts.ofBits bits).isNegative then ['-'] else []) ++ (Parts.ofBits bits).written f := by
  unfold FloatFormat.write
  generalize Parts.ofBits bits = p
  cases p with
  | nan | infinite => rfl
  | finite negative mantissa exponent => cases mantissa <;> rfl

/-- Whether a number rounds to a double, which may be zero. -/
def RoundsTo (m : Nat) (e : Int) (q : ℚ) : Prop :=
  if m = 0 then q = 0 else (Interval.around m e).Contains q

section
variable {m m' : Nat} {e e' : Int} {q : ℚ}

theorem exists_reads_written (f : FloatFormat) (negative : Bool) (h : Normal m e) :
    ∃ q, Reads ((Parts.finite negative m e).written f) q ∧ RoundsTo m e q := by
  cases m with
  | zero => exact ⟨_, reads_point ['0'] ['0'] (by simp) (by simp) (by simp),
      (zero_mul _ : ((0 : Nat) : ℚ) * _ = 0)⟩
  | succ m => exact ⟨_, reads_writeDecimal f _,
      (if_neg (Nat.succ_ne_zero m)).mpr (Interval.contains_shortest (Nat.succ_pos m) h.lt)⟩

theorem pos_of_contains (hm : 0 < m) (h : (Interval.around m e).Contains q) : 0 < q := by
  have hunit : (0 : ℚ) < 2 ^ (e - 2) := by positivity
  have hreach : (Interval.reach m e : ℚ) + 1 ≤ 4 * m := by
    have := Interval.reach_pos m e
    exact_mod_cast (by omega : Interval.reach m e + 1 ≤ 4 * m)
  have hlow := ((Interval.contains_around_iff hm).mp h).le.1
  exact lt_of_lt_of_le (mul_pos (by linarith) hunit) hlow

theorem eq_of_roundsTo (hn : Normal m e) (hn' : Normal m' e') (h : RoundsTo m e q)
    (h' : RoundsTo m' e' q) : m = m' ∧ e = e' := by
  have hzero {m : Nat} {e : Int} (hn : Normal m e) (hm : m = 0) : e = -1074 := by
    by_contra he
    exact absurd (hm ▸ hn.full he) (by decide)
  unfold RoundsTo at h h'
  split_ifs at h h' with hm hm' hm'
  · exact ⟨hm.trans hm'.symm, (hzero hn hm).trans (hzero hn' hm').symm⟩
  · exact absurd h (pos_of_contains (Nat.pos_of_ne_zero hm') h').ne'
  · exact absurd h' (pos_of_contains (Nat.pos_of_ne_zero hm) h).ne'
  · exact Interval.eq_of_contains (Nat.pos_of_ne_zero hm) (Nat.pos_of_ne_zero hm') hn hn' h h'

end

/-- The names of what is no number are not read as numbers, have no sign, and are two. -/
structure FloatFormat.Named (f : FloatFormat) : Prop where
  nan : fraction? false f.nan = none
  infinity : fraction? false f.infinity = none
  nan_sign : f.nan.head? ≠ some '-'
  infinity_sign : f.infinity.head? ≠ some '-'
  ne : f.nan ≠ f.infinity

variable {f : FloatFormat}

theorem Reads.head?_ne {t : Text} {q : ℚ} (h : Reads t q) : t.head? ≠ some '-' := by
  intro hsign
  obtain ⟨t, rfl⟩ := List.head?_eq_some_iff.mp hsign
  obtain ⟨_, _, hread, _⟩ := h
  have hrun : digitRun ('-' :: t) = ([], '-' :: t) := by
    have hnone : ∀ c ∈ ([] : Text), c.isDigit = true := fun _ h => nomatch h
    refine digitRun_append hnone fun c hc => ?_
    cases hc
    decide
  simp [fraction?, hrun] at hread

/-- What is written behind the sign has no sign. -/
theorem head?_written_ne (hf : f.Named) (bits : Nat) :
    ((Parts.ofBits bits).written f).head? ≠ some '-' := by
  cases h : Parts.ofBits bits with
  | nan => exact hf.nan_sign
  | infinite => exact hf.infinity_sign
  | finite negative m e =>
    obtain ⟨_, hread, _⟩ := exists_reads_written f negative (normal_of_ofBits h)
    exact hread.head?_ne

theorem not_reads {t : Text} (h : fraction? false t = none) (q : ℚ) : ¬ Reads t q := by
  rintro ⟨_, _, hread, _⟩
  rw [h] at hread
  cases hread

/-- What is written behind the sign tells all but the sign. -/
theorem ofBits_eq_of_written (hf : f.Named) {a b : Nat}
    (hsign : (Parts.ofBits a).isNegative = (Parts.ofBits b).isNegative)
    (h : (Parts.ofBits a).written f = (Parts.ofBits b).written f) :
    Parts.ofBits a = Parts.ofBits b := by
  have hreads (bits : Nat) {negative : Bool} {m : Nat} {e : Int}
      (hbits : Parts.ofBits bits = .finite negative m e) :
      ∃ q, Reads ((Parts.ofBits bits).written f) q ∧ RoundsTo m e q := by
    rw [hbits]
    exact exists_reads_written f negative (normal_of_ofBits hbits)
  cases ha : Parts.ofBits a with
  | nan =>
    cases hb : Parts.ofBits b with
    | nan => rfl
    | infinite =>
      rw [ha, hb] at h
      exact absurd h hf.ne
    | finite =>
      obtain ⟨q, hread, _⟩ := hreads b hb
      rw [← h, ha] at hread
      exact absurd hread (not_reads hf.nan q)
  | infinite =>
    cases hb : Parts.ofBits b with
    | nan =>
      rw [ha, hb] at h
      exact absurd h.symm hf.ne
    | infinite =>
      rw [ha, hb] at hsign
      exact congrArg Parts.infinite hsign
    | finite =>
      obtain ⟨q, hread, _⟩ := hreads b hb
      rw [← h, ha] at hread
      exact absurd hread (not_reads hf.infinity q)
  | finite =>
    obtain ⟨q, hread, hq⟩ := hreads a ha
    rw [h] at hread
    cases hb : Parts.ofBits b with
    | nan =>
      rw [hb] at hread
      exact absurd hread (not_reads hf.nan q)
    | infinite =>
      rw [hb] at hread
      exact absurd hread (not_reads hf.infinity q)
    | finite =>
      obtain ⟨q', hread', hq'⟩ := hreads b hb
      obtain rfl := hread.unique hread'
      obtain ⟨rfl, rfl⟩ := eq_of_roundsTo (normal_of_ofBits ha) (normal_of_ofBits hb) hq hq'
      rw [ha, hb] at hsign
      exact congrArg (Parts.finite · _ _) hsign

/-- A sign in front of a text is seen if the text has none itself. -/
theorem sign_append_inj {s t : Text} (hs : s.head? ≠ some '-') (ht : t.head? ≠ some '-') :
    ∀ {a b : Bool}, (if a then ['-'] else []) ++ s = (if b then ['-'] else []) ++ t → a = b ∧ s = t
  | true, true, h => ⟨rfl, (List.cons.inj h).2⟩
  | false, false, h => ⟨rfl, h⟩
  | true, false, h => absurd (congrArg List.head? h).symm ht
  | false, true, h => absurd (congrArg List.head? h) hs

/-- **Doubles are written alike only if they stand for the same.** -/
theorem FloatFormat.write_eq_iff (hf : f.Named) {a b : Nat} :
    f.write a = f.write b ↔ Parts.ofBits a = Parts.ofBits b := by
  constructor
  · intro h
    rw [write_eq, write_eq] at h
    obtain ⟨hsign, hwritten⟩ :=
      sign_append_inj (head?_written_ne hf a) (head?_written_ne hf b) h
    exact ofBits_eq_of_written hf hsign hwritten
  · intro h
    rw [write_eq, write_eq, h]

end Numeral

end TexSplice
