import TexSplice.Text.Basic
import TexSplice.Numeral.Binary64

/-! # The shortest decimal that reads back

Among the decimals that lie closer to a double than to any other, the ones with the fewest
digits are found grid by grid: on the grid of the multiples of `10 ^ k` only the two neighbours
of the value can be nearest to it. -/
namespace TexSplice.Numeral

/-- The value `digits · 10 ^ exponent`. -/
structure Decimal where
  digits : Nat
  exponent : Int
deriving Repr, DecidableEq

def Decimal.trimmed (digits : Nat) (exponent : Int) : Nat → Decimal
  | 0 => ⟨digits, exponent⟩
  | fuel + 1 =>
    if digits ≠ 0 && digits % 10 = 0 then trimmed (digits / 10) (exponent + 1) fuel
    else ⟨digits, exponent⟩

/-- The numbers that round to one double: `low` to `high`, both over `den`, around `mid`. -/
structure Interval where
  low : Nat
  mid : Nat
  high : Nat
  den : Nat
  /-- Whether the ends themselves round to the double; they do if its mantissa is even. -/
  closed : Bool
deriving Repr

/-- The interval of `mantissa · 2 ^ exponent`. Below a power of two doubles are twice as
dense, so there the lower half is shorter. -/
def Interval.around (mantissa : Nat) (exponent : Int) : Interval :=
  let narrow := mantissa = twoTo 52 && exponent ≠ -1074
  let (unit, den) := scaled 1 1 (-(exponent - 2))
  ⟨(4 * mantissa - if narrow then 1 else 2) * unit, 4 * mantissa * unit,
    (4 * mantissa + 2) * unit, den, mantissa % 2 == 0⟩

/-- Whether `count · 10 ^ k` rounds to the double; `tens` and `ones` are the parts of
`10 ^ k`. -/
def Interval.holds (i : Interval) (count tens ones : Nat) : Bool :=
  let x := count * tens * i.den
  if i.closed then i.low * ones ≤ x && x ≤ i.high * ones
  else i.low * ones < x && x < i.high * ones

/-- The neighbour of the value on the grid of `10 ^ k` that reads back, the nearer one if both
do. -/
def Interval.onGrid? (i : Interval) (k : Int) : Option Decimal :=
  let tens := tenTo k.toNat
  let ones := tenTo (-k).toNat
  let below := i.mid * ones / (tens * i.den)
  let above := below + 1
  let fromBelow := i.mid * ones - below * tens * i.den
  let toAbove := above * tens * i.den - i.mid * ones
  match i.holds below tens ones && below ≠ 0, i.holds above tens ones with
  | false, false => none
  | true, false => some ⟨below, k⟩
  | false, true => some ⟨above, k⟩
  | true, true =>
    let pickAbove := toAbove < fromBelow || (toAbove = fromBelow && below % 2 = 1)
    some ⟨if pickAbove then above else below, k⟩

/-- The first grid with a hit, from `10 ^ k` on to finer ones. Seventeen digits always
suffice. -/
def Interval.firstGrid (i : Interval) (k : Int) : Nat → Decimal
  | 0 => ⟨0, 0⟩
  | fuel + 1 => (i.onGrid? k).getD (i.firstGrid (k - 1) fuel)

def shortest (mantissa : Nat) (exponent : Int) : Decimal :=
  let i := Interval.around mantissa exponent
  let size (n : Nat) : Int := (Nat.toDigits 10 n).length
  let d := (i.firstGrid (size i.mid - size i.den) 20)
  Decimal.trimmed d.digits d.exponent 20

/-! ## Writing -/

/-- How the value of a double is written: between the two exponents of ten positionally and
with a point, outside them with an exponent of at least two digits. -/
structure FloatFormat where
  fixedFrom : Int
  fixedUpTo : Int
  nan : Text
  infinity : Text
deriving Repr

def exponentDigits (n : Nat) : Text :=
  if n < 10 then '0' :: Nat.toDigits 10 n else Nat.toDigits 10 n

def FloatFormat.writeDecimal (f : FloatFormat) (d : Decimal) : Text :=
  let ds := Nat.toDigits 10 d.digits
  let lead : Int := ds.length + d.exponent - 1
  if lead < f.fixedFrom || f.fixedUpTo ≤ lead then
    let (first, rest) := (ds.take 1, ds.drop 1)
    first ++ (if rest.isEmpty then [] else '.' :: rest) ++ ['e', if lead < 0 then '-' else '+'] ++
      exponentDigits lead.natAbs
  else if lead < 0 then
    ['0', '.'] ++ List.replicate (-lead - 1).toNat '0' ++ ds
  else
    let whole := (lead + 1).toNat
    let padded := ds ++ List.replicate (whole - ds.length) '0'
    let fraction := padded.drop whole
    padded.take whole ++ ['.'] ++ (if fraction.isEmpty then ['0'] else fraction)

/-- A double written as the shortest decimal that reads back. -/
def FloatFormat.write (f : FloatFormat) (bits : Nat) : Text :=
  let minus (negative : Bool) : Text := if negative then ['-'] else []
  match Parts.ofBits bits with
  | .nan => f.nan
  | .infinite negative => minus negative ++ f.infinity
  | .finite negative 0 _ => minus negative ++ ['0', '.', '0']
  | .finite negative mantissa exponent =>
    minus negative ++ f.writeDecimal (shortest mantissa exponent)

end TexSplice.Numeral
