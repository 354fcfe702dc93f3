import TexSplice.Text.Basic

/-! # Patterns with wildcards

A star stands for any run of characters, a question mark for one, and brackets for one of the
characters in them, or with an exclamation mark for one that is not in them. A range that runs
backwards holds nothing. -/
namespace TexSplice.Text

inductive Wild where
  | char (c : Char)
  | any
  | run
  /-- One character inside, or outside, one of some ranges of code points. -/
  | among (inside : Bool) (ranges : List (Nat × Nat))
deriving Repr, DecidableEq

namespace Wild

def accepts : Wild → Char → Bool
  | char a, c => a == c
  | any, _ => true
  | run, _ => false
  | among inside ranges, c =>
    inside == ranges.any fun (first, last) => first ≤ c.toNat && c.toNat ≤ last

/-- The ranges that are written between brackets; a hyphen between two characters makes a
range of them. -/
def ranges : Text → List (Nat × Nat)
  | a :: '-' :: b :: rest => (a.toNat, b.toNat) :: ranges rest
  | a :: rest => (a.toNat, a.toNat) :: ranges rest
  | [] => []

/-- What is left of the text between brackets when the ranges it starts with and that run
backwards are dropped. -/
def dropBackwards : Text → Text
  | a :: '-' :: b :: rest => if b.toNat < a.toNat then dropBackwards rest else a :: '-' :: b :: rest
  | t => t

/-- The characters that the text between brackets stands for. An exclamation mark counts also
where only ranges that run backwards stand before it. -/
def ofGroup (inner : Text) : Wild :=
  match dropBackwards inner with
  | '!' :: rest => among false (ranges rest)
  | rest => among true (ranges rest)

/-- What stands between brackets, and what follows them. The closing bracket may be the first of
the characters meant. -/
def bracketed? : Text → Option (Text × Text)
  | [] => none
  | c :: rest => (cut? [']'] rest).map fun (inner, after) => (c :: inner, after)

def group? (t : Text) : Option (Wild × Text) :=
  match t with
  | '!' :: rest => (bracketed? rest).map fun (inner, after) => (among false (ranges inner), after)
  | _ => (bracketed? t).map fun (inner, after) => (ofGroup inner, after)

/-- A pattern as it is written. The number counts characters that belong to a group already
read; a bracket that is never closed stands for itself. -/
def parse : Nat → Text → List Wild
  | _, [] => []
  | inside + 1, _ :: rest => parse inside rest
  | 0, '*' :: rest => run :: parse 0 rest
  | 0, '?' :: rest => any :: parse 0 rest
  | 0, '[' :: rest =>
    match group? rest with
    | some (w, after) => w :: parse (rest.length - after.length) rest
    | none => char '[' :: parse 0 rest
  | 0, c :: rest => char c :: parse 0 rest

def suffixes : Text → List Text
  | [] => [[]]
  | c :: rest => (c :: rest) :: suffixes rest

def fits : List Wild → Text → Bool
  | [], t => t.isEmpty
  | run :: ps, t => (suffixes t).any (fits ps)
  | _ :: _, [] => false
  | p :: ps, c :: rest => p.accepts c && fits ps rest

end Wild

def fitsPattern (pattern t : Text) : Bool := Wild.fits (Wild.parse 0 pattern) t

end TexSplice.Text
