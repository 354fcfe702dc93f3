import TexSplice.Intent.Classify
import TexSplice.Prompt.Wording
import TexSplice.Reply.Basic
import TexSplice.Target.Boundary

/-! # Prompts

A prompt shows as little of a document as the request needs: the selection if there is one, else
the section that is named, else the end of the document. The rules that keep an edit to its place
close every prompt. -/
namespace TexSplice.Prompt

/-! ## Excerpts -/

def contextWindow : Nat := 500

def tailLength : Nat := 1000

/-- How many characters of a section are shown for its deletion. -/
def excerptLength : Nat := 200

/-- The offset that a number means in a text; a negative number counts from the end. -/
def offsetIn (t : Text) (n : Int) : Nat := if n < 0 then (n + t.length).toNat else n.toNat

/-- The text around a selection; all of it if nothing is selected. -/
def context (t : Text) (selection : Option Span) (window : Int := contextWindow) : Text :=
  match selection with
  | none => t
  | some s =>
    if s.isEmpty then t
    else
      Text.slice t (max 0 (s.start - window)).toNat
        (offsetIn t (min (t.length : Int) (s.stop + window)))

def tail (t : Text) : Text := t.drop (t.length - tailLength)

/-- The characters of a text in a selection that is not empty and lies within it. -/
def selected (t : Text) (selection : Option Span) : Text :=
  match selection with
  | none => []
  | some s => if !s.isEmpty && s.fits t then s.cut t else []

/-! ## Rules -/

def rulesFor (action : Action) (target : Option Text) : List Text :=
  if action == .add then (if target.isSome then addSectionRules else addContentRules)
  else (actionRules.lookup action).getD []

def rules (action : Action) (target : Option Text) (hasSelection : Bool) : Text :=
  let target := Intent.named? target
  Text.unlines <|
    rulesOpening ++
      (match target with
        | none => []
        | some name => ["Target: ".toList ++ name ++ " section only".toList]) ++
      (if hasSelection then ["Modify only the selected text portion".toList] else []) ++
      rulesFor action target ++ [rulesClosing]

/-! ## Bodies -/

structure Ask where
  message : Text
  document : Text
  selection : Option Span
  target : Option Text
  action : Action
  placement : Placement
deriving DecidableEq

def aboutSelection (message selectedText : Text) (action : Action) : Text :=
  let instruction := (selectionInstructions.lookup action).getD selectionDefault
  let template := if action == .delete then selectionDelete else selectionEdit
  template.fill fun
    | .selectedText => selectedText
    | .userMessage => message
    | .actionInstruction => instruction
    | _ => []

def forNewSection (message name : Text) : Text :=
  sectionCreate.fill fun
    | .targetSection => name
    | .userMessage => message
    | .sectionTitle => Reply.titleFor name
    | _ => []

def sectionInstruction (name : Text) (action : Action) (placement : Placement) : Text :=
  let template :=
    match action with
    | .replace => sectionReplaceInstruction
    | .add | .expand => sectionAddInstruction
    | .delete | .fix | .improve => sectionImproveInstruction
  template.fill fun
    | .targetSection => name
    | .insertionPoint => placement.name
    | _ => []

def aboutSection (message name content : Text) (action : Action) (placement : Placement) :
    Text :=
  let template := if action == .delete then sectionDelete else sectionEdit
  template.fill fun
    | .targetSection => name
    | .userMessage => message
    | .sectionExcerpt => content.take excerptLength
    | .sectionContent => content
    | .actionInstruction => sectionInstruction name action placement
    | .outputInstruction => if action.inserts then sectionAddOutput else sectionFullOutput
    | _ => []

def aboutDocument (message document : Text) (selection : Option Span) : Text :=
  wholeDocument.fill fun
    | .userMessage => message
    | .documentTail => tail (context document selection)
    | _ => []

inductive Subject where
  | selection (selectedText : Text)
  /-- A section that is not there yet. -/
  | newSection (name : Text)
  | sectionText (name content : Text)
  | document
deriving Repr, DecidableEq

namespace Ask

/-- The selected text, empty if nothing usable is selected. -/
def selectedText (a : Ask) : Text := selected a.document a.selection

/-- What to ask about a name that a section was looked for by. A section that is not there is
asked for if the action adds, or if the message speaks of writing. -/
def namedSubject (a : Ask) (o : Outline) (name : Text) : Option Boundary → Subject
  | some b => .sectionText name b.frame.middle
  | none =>
    if a.action == .add || Intent.createsSection a.message (some name) o then .newSection name
    else .document

/-- What to ask about, with an outline that should be the document's: the selection, else the
section that is named, else the document. -/
def subject (a : Ask) (o : Outline) : Except Fault Subject :=
  if a.selectedText.isEmpty then
    match Intent.named? a.target with
    | none => .ok .document
    | some name => (o.locate a.document name).map (a.namedSubject o name)
  else .ok (.selection a.selectedText)

def body (a : Ask) : Subject → Text
  | .selection selectedText => aboutSelection a.message selectedText a.action
  | .newSection name => forNewSection a.message name
  | .sectionText name content => aboutSection a.message name content a.action a.placement
  | .document => aboutDocument a.message a.document a.selection

/-- The prompt, with an outline that should be the document's. -/
def prompt (a : Ask) (o : Outline) : Except Fault Text :=
  (a.subject o).map fun subject =>
    a.body subject ++ ['\n', '\n'] ++ rules a.action a.target (!a.selectedText.isEmpty)

end Ask

end TexSplice.Prompt
