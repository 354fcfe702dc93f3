import TexSplice.Intent.Basic
import TexSplice.Text.Word

/-! # From an instruction to an intent

Keyword rules in strict order of priority: the first that hits decides. A phrase hits wherever
it begins a word, so "add" also finds "added"; a section term and a placement word have to stand
by themselves. -/
namespace TexSplice.Intent
open Text

/-! ## Vocabulary -/

/-- Words that make an instruction a request to write something new if it starts with them. -/
def creationOpeners : List Text := ["write".toList, "create".toList]

/-- Phrases that do so anywhere. -/
def creationPhrases : List Text :=
  ["write a".toList, "write an".toList, "create a".toList, "create an".toList]

def deletePhrases : List Text :=
  ["delete".toList, "remove".toList, "clear".toList, "get rid of".toList]

def replacePhrases : List Text :=
  ["replace".toList, "rewrite".toList, "change to".toList, "should be".toList]

def expandPhrases : List Text :=
  ["expand".toList, "elaborate".toList, "add more".toList, "extend".toList]

def addPhrases : List Text := ["add".toList, "insert".toList, "include".toList]

def fixPhrases : List Text := ["fix".toList, "correct".toList, "repair".toList]

def beginningWords : List Text := ["beginning".toList, "start".toList, "top".toList]

/-- Terms by which an instruction names a section. "future work" is not one of them, since it is
as often a subject to write about. -/
def sectionTerms : List Text :=
  [ "introduction".toList, "intro".toList, "literature review".toList, "literature".toList,
    "review".toList, "related work".toList, "background".toList, "methodology".toList,
    "methods".toList, "approach".toList, "results".toList, "findings".toList,
    "analysis".toList, "experiments".toList, "discussion".toList, "evaluation".toList,
    "interpretation".toList, "conclusion".toList, "conclusions".toList, "summary".toList,
    "abstract".toList, "references".toList, "bibliography".toList, "acknowledgments".toList,
    "acknowledgements".toList, "appendix".toList ]

/-! ## Rules -/

def searched (instruction : Text) : Text := trim (lower instruction)

def hasAny (t : Text) (phrases : List Text) : Bool := phrases.any (hasPhrase t)

def asksForCreation (instruction : Text) : Bool :=
  let t := searched instruction
  startsWithAny t creationOpeners || hasAny t creationPhrases

/-- "make … just …" and "make … only …" ask for a replacement. -/
def narrows (t : Text) : Bool :=
  hasPhrase t "make".toList && (hasPhrase t "just".toList || hasPhrase t "only".toList)

def actionOf (instruction : Text) : Action :=
  let t := searched instruction
  if asksForCreation t then .add
  else if hasAny t deletePhrases then .delete
  else if hasAny t replacePhrases then .replace
  else if narrows t then .replace
  else if hasAny t expandPhrases then .expand
  else if hasAny t addPhrases then .add
  else if hasAny t fixPhrases then .fix
  else .improve

/-- Where an instruction wants new text: at the end unless it says otherwise. -/
def placementOf (instruction : Text) : Placement :=
  if beginningWords.any (hasWord (searched instruction)) then .beginning else .ending

/-- Whether a term found at `offset` is to be preferred to another: the earlier one is, and of
two that start together the longer one. -/
def preferred (new old : Nat × Text) : Bool :=
  new.1 < old.1 || (new.1 == old.1 && old.2.length < new.2.length)

def bestTerm? (t : Text) (terms : List Text) : Option (Nat × Text) :=
  terms.foldl (fun best term =>
    match offsetOfWord? term t, best with
    | none, _ => best
    | some offset, none => some (offset, term)
    | some offset, some old => if preferred (offset, term) old then some (offset, term) else best)
    none

/-- The section an instruction names: the first of the terms in it. -/
def targetOf (instruction : Text) : Option Text :=
  (bestTerm? (lower instruction) sectionTerms).map Prod.snd

/-- Whether an instruction asks for a section that is not there: it speaks of writing, and names
no section or one the outline does not have. -/
def createsSection (instruction : Text) (target : Option Text) (o : Outline) : Bool :=
  asksForCreation instruction &&
    match named? target with
    | none => true
    | some name => (o.find? name).isNone

def complexityOf (instruction : Text) (hasSelection : Bool) : Complexity :=
  let count := (words instruction).length
  if 15 < count || includes instruction " and ".toList || instruction.contains ',' then .complex
  else if 8 < count || hasSelection then .medium
  else .simple

def ofInstruction (instruction : Text) (o : Outline) (selection : Option Span) : Intent :=
  let target := targetOf instruction
  let hasSelection := selection.any fun s => !s.isEmpty
  { action := actionOf instruction
    placement := placementOf instruction
    target
    creates := createsSection instruction target o
    hasSelection
    complexity := complexityOf instruction hasSelection }

end TexSplice.Intent
