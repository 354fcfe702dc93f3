import TexSplice.Intent.Basic
import TexSplice.Outline.Reading
import TexSplice.Target.Boundary

/-! # Checks after an edit

How much of a document changed, whether its braces and environments still balance, and whether
its sections are about as many as before. Findings are reported and never stop an edit. -/
namespace TexSplice.Check
open Text

/-! ## Balance -/

/-- How often a brace stands with no backslash right before it. -/
def braceCount (brace : Char) : Option Char → Text → Nat
  | _, [] => 0
  | before, c :: rest =>
    (if c = brace && before != some '\\' then 1 else 0) + braceCount brace (some c) rest

/-- How many groups with a name follow a command; the search goes on behind each group. The
first number counts the characters still inside one. -/
def groupCount (command : Text) : Nat → Text → Nat
  | _, [] => 0
  | inside + 1, _ :: rest => groupCount command inside rest
  | 0, c :: rest =>
    match argument? command (c :: rest) with
    | some (_ :: _, after) => 1 + groupCount command (rest.length - after.length) rest
    | _ => groupCount command 0 rest

inductive Imbalance where
  | braces
  | environments
deriving Repr, DecidableEq

def Imbalance.message : Imbalance → Text
  | .braces => "Unbalanced braces".toList
  | .environments => "Unbalanced environments".toList

def imbalances (t : Text) : List Imbalance :=
  (if braceCount '{' none t = braceCount '}' none t then [] else [.braces]) ++
    (if groupCount "\\begin".toList 0 t = groupCount "\\end".toList 0 t then []
      else [.environments])

/-! ## Sections -/

inductive CountFinding where
  /-- One new section was to be written. -/
  | expectedOne (got : Int)
  | manyChanged (before after : Nat)
deriving Repr, DecidableEq

def CountFinding.message : CountFinding → Text
  | .expectedOne got => "Expected 1 new section, got ".toList ++ Numeral.ofInt got
  | .manyChanged before after =>
    "Major section structure changes detected (".toList ++ Numeral.ofNat before ++
      " -> ".toList ++ Numeral.ofNat after ++ " sections)".toList

/-- An edit may change the number of sections by this much. -/
def maxCountShift : Nat := 3

def countBetween (before after : Outline) (creating : Bool) : Option CountFinding :=
  let had := before.sections.length
  let has := after.sections.length
  let shift : Int := (has : Int) - had
  if creating then (if shift = 1 then none else some (.expectedOne shift))
  else if maxCountShift < shift.natAbs then some (.manyChanged had has)
  else none

def countFinding? (before after : Text) (creating : Bool) : Option CountFinding :=
  countBetween (Outline.ofText before) (Outline.ofText after) creating

/-! ## Size -/

structure Share where
  part : Nat
  whole : Nat
deriving Repr, DecidableEq

namespace Share

def percentage (s : Share) : Float := s.part.toFloat / s.whole.toFloat * 100

def exceeds (s : Share) (percent : Nat) : Bool := percent * s.whole < 100 * s.part

end Share

def growth (before after : Text) : Int := (after.length : Int) - before.length

/-- The change in length as a share of the text. Beside an empty text anything is all of it. -/
def changedShare (before after : Text) : Share :=
  if before.isEmpty then ⟨if after.isEmpty then 0 else 1, 1⟩
  else ⟨(growth before after).natAbs, before.length⟩

/-- The most that an edit of one part may change, in percent. -/
def maxChange : Nat := 50

/-- The most that a new section may change, in percent. -/
def maxCreationChange : Nat := 200

/-! ## Reports -/

structure Report where
  growth : Int
  share : Share
  creating : Bool
  imbalances : List Imbalance
  count : Option CountFinding
deriving Repr, DecidableEq

namespace Report

def surgical (r : Report) : Bool :=
  !r.share.exceeds (if r.creating then maxCreationChange else maxChange)

def balanced (r : Report) : Bool := r.imbalances.isEmpty

def structured (r : Report) : Bool := r.count.isNone

def valid (r : Report) : Bool := r.surgical && r.balanced && r.structured

def issues (r : Report) : List Text :=
  (if r.surgical then []
    else if r.creating then ["Changes are extremely large for section creation".toList]
    else ["Changes affect more than ".toList ++ Numeral.ofNat maxChange ++
      "% of document".toList]) ++
  (if r.balanced then []
    else ["LaTeX syntax errors: ".toList ++
      join ", ".toList (r.imbalances.map Imbalance.message)]) ++
  (match r.count with
    | none => []
    | some finding => ["Structure issues: ".toList ++ finding.message])

end Report

/-- Whether an intent adds a section that a document does not have. -/
def addsSection (t : Text) (intent : Option Intent) : Bool :=
  match intent with
  | none => false
  | some i =>
    i.action == .add &&
      match Intent.named? i.target with
      | none => false
      | some name => ((Outline.ofText t).boundary? t name).isNone

def reportWith (before after : Text) (creating : Bool) (count : Option CountFinding) : Report :=
  { growth := growth before after
    share := changedShare before after
    creating
    imbalances := imbalances after
    count }

def report (before after : Text) (creating : Bool) : Report :=
  reportWith before after creating (countFinding? before after creating)

/-! ## Outlines that could be refused

The outlines are read off the texts afresh, so nothing is refused, and what is found is what
`addsSection` and `report` say. -/

def addsSectionGuarded (t : Text) (intent : Option Intent) : Except Fault Bool :=
  match intent with
  | none => .ok false
  | some i =>
    if i.action != .add then .ok false
    else
      match Intent.named? i.target with
      | none => .ok false
      | some name => do
        let o ← Outline.read t
        let found ← o.locate t name
        .ok found.isNone

def reportGuarded (before after : Text) (creating : Bool) : Except Fault Report := do
  let had ← Outline.read before
  let has ← Outline.read after
  .ok (reportWith before after creating (countBetween had has creating))

theorem addsSectionGuarded_eq (t : Text) (intent : Option Intent) :
    addsSectionGuarded t intent = .ok (addsSection t intent) := by
  cases intent with
  | none => rfl
  | some i =>
    cases hadd : i.action == .add with
    | false => simp [addsSectionGuarded, addsSection, bne, hadd]
    | true =>
      simp only [addsSectionGuarded, addsSection, bne, hadd, Bool.not_true, Bool.true_and]
      cases Intent.named? i.target with
      | none => rfl
      | some name =>
        have hfound := Outline.locate_ofText t name
        simp only [Outline.read_eq, bind, Except.bind, hfound]
        rfl

theorem reportGuarded_eq (before after : Text) (creating : Bool) :
    reportGuarded before after creating = .ok (report before after creating) := by
  rw [reportGuarded, Outline.read_eq, Outline.read_eq]
  rfl

end TexSplice.Check
