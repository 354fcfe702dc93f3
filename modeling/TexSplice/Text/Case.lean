import TexSplice.Text.Basic
import TexSplice.Text.CaseTable

/-! # Small and capital letters

`lower` writes a text in small letters, letter by letter with two exceptions: the dotted
capital I becomes two characters, and a capital sigma at the end of a word becomes the final
sigma. `letterKey` is coarser than `lower`: two characters are the same letter when case is
ignored exactly if their keys agree. -/
namespace TexSplice.Text

/-! ## Small letters -/

def lowerChar (c : Char) : Text :=
  if c = 'İ' then ['i', '\u0307'] else [Char.ofNat (caseShift smallRuns c.toNat)]

/-- Whether a capital sigma here would be inside a word that goes on to the right. -/
def casedAhead (rest : Text) : Bool :=
  match rest.dropWhile caseIgnorableRanges.has with
  | [] => false
  | c :: _ => casedRanges.has c

/-- Small letters of a text; `casedBehind` tells whether the last letter before it, marks
aside, has a case. -/
def lowerAfter : Bool → Text → Text
  | _, [] => []
  | casedBehind, c :: rest =>
    (if c = 'Σ' then [if casedBehind && !casedAhead rest then 'ς' else 'σ'] else lowerChar c) ++
      lowerAfter (if caseIgnorableRanges.has c then casedBehind else casedRanges.has c) rest

def lower (t : Text) : Text := lowerAfter false t

/-! ## Capital letters -/

/-- The capital form of a character; the sharp s and the ligatures become several letters. -/
def upperChar (c : Char) : Text :=
  match capitalSpellings.lookup c.toNat with
  | some spelling => spelling.map Char.ofNat
  | none => [Char.ofNat (caseShift capitalRuns c.toNat)]

def capitalize : Text → Text
  | [] => []
  | c :: rest => upperChar c ++ rest

/-! ## Letters without their case -/

/-- What stands for a letter when case is ignored. The dotted capital I counts as an i. -/
def letterKey (c : Char) : Nat :=
  let small := if c = 'İ' then 'i'.toNat else caseShift smallRuns c.toNat
  match twinLetters.find? fun group => group.2.contains small with
  | some group => group.1
  | none => small

def sameLetter (a b : Char) : Bool := letterKey a == letterKey b

def afterIgnoringCase? : Text → Text → Option Text
  | [], t => some t
  | _ :: _, [] => none
  | a :: start, c :: t => if sameLetter a c then afterIgnoringCase? start t else none

end TexSplice.Text
