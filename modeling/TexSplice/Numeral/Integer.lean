import TexSplice.Text.Basic
import TexSplice.Text.Class

/-! # Whole numbers

Numbers may be written with the decimal digits of any script, and a single underscore may
stand between two digits. They are written in the plain digits. -/
namespace TexSplice

namespace Text

def digitValue? (c : Char) : Option Nat :=
  (zeroDigits.find? fun z => z ≤ c.toNat && c.toNat ≤ z + 9).map (c.toNat - ·)

/-- The digits at the start of a text, and what follows them. An underscore is passed over
only between two digits. -/
def digitRun : Text → List Nat × Text
  | [] => ([], [])
  | c :: '_' :: more =>
    match digitValue? c with
    | none => ([], c :: '_' :: more)
    | some d =>
      if (more.head?.bind digitValue?).isSome then
        let (ds, left) := digitRun more
        (d :: ds, left)
      else ([d], '_' :: more)
  | c :: rest =>
    match digitValue? c with
    | none => ([], c :: rest)
    | some d =>
      let (ds, left) := digitRun rest
      (d :: ds, left)

def digitsValue (ds : List Nat) : Nat := ds.foldl (fun n d => 10 * n + d) 0

/-- Blanks that may stand around a number. The separator controls may not. -/
def isNumberBlank (c : Char) : Bool :=
  isBlank c && !(0x1C ≤ c.toNat && c.toNat ≤ 0x1F)

def trimNumber (t : Text) : Text :=
  ((t.dropWhile isNumberBlank).reverse.dropWhile isNumberBlank).reverse

/-- A sign in front of a number, and the rest; true for a minus. -/
def signed : Text → Bool × Text
  | '-' :: rest => (true, rest)
  | '+' :: rest => (false, rest)
  | t => (false, t)

end Text

namespace Numeral

open Text

/-- Longer runs of digits are refused, since reading them takes time quadratic in their
length. -/
def maxDigits : Nat := 4300

/-- Reads a whole number: blanks around it, a sign, digits. -/
def integer? (t : Text) : Option Int :=
  let (negative, body) := signed (trimNumber t)
  match digitRun body with
  | (ds, []) =>
    if ds.isEmpty || maxDigits < ds.length then none
    else some (if negative then -(digitsValue ds : Int) else digitsValue ds)
  | _ => none

def ofNat (n : Nat) : Text := Nat.toDigits 10 n

def ofInt (n : Int) : Text :=
  if n < 0 then '-' :: ofNat n.natAbs else ofNat n.natAbs

end Numeral

end TexSplice
