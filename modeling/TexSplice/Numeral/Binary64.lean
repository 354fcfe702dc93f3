/-! # Double precision numbers as exact values

A finite double is `mantissa · 2 ^ exponent`. Going from a decimal fraction to the nearest
double is one rounding of an exact quotient, with ties to the even mantissa, so no digit of a
long numeral is lost on the way. -/
namespace TexSplice.Numeral

def twoTo (n : Nat) : Nat := Nat.pow 2 n

def tenTo (n : Nat) : Nat := Nat.pow 10 n

def infinityBits : Nat := 0x7FF0000000000000

def signBit : Nat := 0x8000000000000000

/-- The quotient rounded to the nearest whole number, a tie to the even one. -/
def roundedQuotient (num den : Nat) : Nat :=
  let q := num / den
  let r := num % den
  if 2 * r < den then q else if den < 2 * r then q + 1 else q + q % 2

def scaled (num den : Nat) (exponent : Int) : Nat × Nat :=
  if exponent < 0 then (num * twoTo (-exponent).toNat, den) else (num, den * twoTo exponent.toNat)

/-- The bits of the double nearest to the positive fraction `num / den`; infinity if that is
beyond the largest one. A mantissa that rounds up to the next power of two carries into the
exponent by itself. -/
def nearestToFraction (num den : Nat) : Nat :=
  let guess : Int := (num.log2 : Int) - den.log2 - 53
  let (n, d) := scaled num den guess
  let exponent := max (if n / d < twoTo 53 then guess else guess + 1) (-1074)
  let (n, d) := scaled num den exponent
  let bits := roundedQuotient n d + (exponent + 1074).toNat * twoTo 52
  if infinityBits ≤ bits then infinityBits else bits

/-- The bits of the double nearest to `digits · 10 ^ exponent`. Magnitudes far outside the
range are settled before any power of ten is formed. -/
def nearestToDecimal (digits : Nat) (exponent : Int) : Nat :=
  let magnitude : Int := ((Nat.toDigits 10 digits).length : Int) + exponent
  if digits = 0 || magnitude < -330 then 0
  else if 320 < magnitude then infinityBits
  else if exponent < 0 then nearestToFraction digits (tenTo (-exponent).toNat)
  else nearestToFraction (digits * tenTo exponent.toNat) 1

inductive Parts where
  | nan
  | infinite (negative : Bool)
  /-- The value `mantissa · 2 ^ exponent`. -/
  | finite (negative : Bool) (mantissa : Nat) (exponent : Int)
deriving Repr, DecidableEq

/-- What the bits of a double stand for. -/
def Parts.ofBits (bits : Nat) : Parts :=
  let negative := signBit ≤ bits
  let body := bits % signBit
  if infinityBits < body then .nan
  else if body = infinityBits then .infinite negative
  else if body < twoTo 52 then .finite negative body (-1074)
  else .finite negative (twoTo 52 + body % twoTo 52) ((body / twoTo 52 : Nat) - 1075)

end TexSplice.Numeral
