import TexSplice.Numeral.Integer
import TexSplice.Numeral.Binary64

/-! # Decimal fractions, read from text

Blanks, a sign, digits with an optional point and an optional exponent, or one of the names
`inf`, `infinity` and `nan` in any case. -/
namespace TexSplice.Numeral
open Text

inductive Reading where
  | nan (negative : Bool)
  | infinite (negative : Bool)
  /-- The value `digits · 10 ^ exponent`. -/
  | finite (negative : Bool) (digits : Nat) (exponent : Int)
deriving Repr, DecidableEq

def Reading.toBits : Reading → Nat
  | .nan negative => (if negative then signBit else 0) + infinityBits + twoTo 51
  | .infinite negative => (if negative then signBit else 0) + infinityBits
  | .finite negative digits exponent =>
    (if negative then signBit else 0) + nearestToDecimal digits exponent

def Reading.toFloat (r : Reading) : Float := Float.ofBits r.toBits.toUInt64

/-- An exponent after its `e`, with everything read. -/
def exponent? (t : Text) : Option Int :=
  let (negative, body) := signed t
  match digitRun body with
  | (d :: ds, []) =>
    let n : Int := digitsValue (d :: ds)
    some (if negative then -n else n)
  | _ => none

def fraction? (negative : Bool) (t : Text) : Option Reading :=
  let (whole, rest) := digitRun t
  let (part, rest) :=
    match rest with
    | '.' :: more => digitRun more
    | _ => ([], rest)
  let digits := digitsValue (whole ++ part)
  if whole.isEmpty && part.isEmpty then none
  else
    match rest with
    | [] => some (.finite negative digits (-part.length))
    | c :: more =>
      if c = 'e' || c = 'E' then
        (exponent? more).map fun e => .finite negative digits (e - part.length)
      else none

/-- Reads a decimal fraction, an infinity or a nan. -/
def reading? (t : Text) : Option Reading :=
  let (negative, body) := signed (trimNumber t)
  let name := body.map Char.toLower
  if name = "nan".toList then some (.nan negative)
  else if name = "inf".toList || name = "infinity".toList then some (.infinite negative)
  else fraction? negative body

end TexSplice.Numeral
