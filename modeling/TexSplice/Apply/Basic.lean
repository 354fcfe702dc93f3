import TexSplice.Apply.Event
import TexSplice.Reply.Basic
import TexSplice.Splice
import TexSplice.Intent.Classify

/-! # From a reply to a new document

The first strategy that can act decides what becomes of a reply. The last one always can, so a
reply is never thrown away because no section was found for it. -/
namespace TexSplice

structure Request where
  document : Text
  /-- The reply as it came. -/
  reply : Text
  intent : Intent
  selection : Option Span
  /-- The last known cursor; it may lie outside the document. -/
  cursor : Option Int
deriving DecidableEq

/-- A new document and the part of it that was written. -/
structure Patch where
  document : Text
  range : Span
deriving DecidableEq

structure Applied where
  patch : Patch
  intent : Intent
  strategy : Strategy
  trace : List Event
deriving DecidableEq

namespace Patch

def ofEdit (e : Edit) : Patch := ⟨e.document, e.range⟩

def ofSpan (t : Text) (s : Span) (content : Text) : Patch :=
  ⟨s.replace t content, Span.sized s.start content.length⟩

def clear : Patch := ⟨[], Span.empty 0⟩

end Patch

namespace Request

def content (r : Request) : Text := Reply.content r.reply

def outline (r : Request) : Outline := Outline.ofText r.document

/-! ## The named section -/

/-- Adds to a section that was found. A heading that repeats the section's own is left out, and
nothing is added if no more is there. -/
def addTo (r : Request) (target : Text) (b : Boundary) : List Event × Option Patch :=
  let content := Reply.stripHeading r.content (some b.found.heading)
  if content.isEmpty then ([.emptyContent target], none)
  else ([], some (.ofEdit (b.frame.add content r.intent.placement)))

def create (r : Request) (target : Text) : List Event × Option Patch :=
  if r.intent.creates && !r.content.isEmpty then
    let content := Reply.withHeading r.content target
    ([.creating target], some (.ofEdit (r.outline.create r.document content target)))
  else ([], none)

def replaceWhole (r : Request) (b : Boundary) : List Event × Option Patch :=
  ([], some (.ofEdit (b.frame.replace r.content)))

def editFound (r : Request) (target : Text) (b : Boundary) : List Event × Option Patch :=
  match r.intent.action with
  | .delete => ([], some (.ofEdit b.frame.delete))
  | .add | .expand => r.addTo target b
  | .replace | .fix | .improve => r.replaceWhole b

def editMissing (r : Request) (target : Text) : List Event × Option Patch :=
  if r.intent.action.inserts then r.create target else ([], none)

/-- Why an action does not look for its section. A section is deleted only if the reply confirms
it, and mended only if the reply is a whole section. -/
def obstacle? (r : Request) (target : Text) : Option Event :=
  match r.intent.action with
  | .delete =>
    if Reply.confirmsDeletion r.reply then none else some (.deletionNotConfirmed target)
  | .fix | .improve =>
    if Reply.startsWithHeading r.content then none else some (.noHeading target)
  | .add | .expand | .replace => none

def editSection (r : Request) : List Event × Option Patch :=
  match Intent.named? r.intent.target with
  | none => ([], none)
  | some target =>
    match r.obstacle? target with
    | some event => ([event], none)
    | none =>
      let found := r.outline.boundary? r.document target
      let (events, patch) :=
        match found with
        | some b => r.editFound target b
        | none => r.editMissing target
      (Event.search r.outline target found :: events, patch)

/-! ## Selection and cursor -/

/-- The selection, if it is not empty and lies within the document. -/
def usableSelection (r : Request) : List Event × Option Span :=
  match r.selection with
  | none => ([], none)
  | some s =>
    if s.isEmpty then ([], none)
    else if s.fits r.document then ([], some s)
    else ([.selectionOutOfBounds s], none)

/-- Deletes without a named section: the selection, or everything if there is none. A reply that
says something else than that it was done stops it. -/
def deleteUnnamed (r : Request) : List Event × Option Patch :=
  if r.intent.action != .delete || (Intent.named? r.intent.target).isSome then ([], none)
  else if !Text.allBlank r.reply && !Reply.confirmsDeletion r.reply then ([], none)
  else
    let (events, selection) := r.usableSelection
    match selection with
    | some s => (events, some (.ofSpan r.document s []))
    | none => (events, some .clear)

def replaceSelection (r : Request) : List Event × Option Patch :=
  let (events, selection) := r.usableSelection
  (events, selection.map fun s => .ofSpan r.document s r.content)

def insertAt (r : Request) (offset : Nat) : Patch :=
  .ofSpan r.document (Span.empty offset) r.content

def clampedCursor (r : Request) (cursor : Int) : Nat := min cursor.toNat r.document.length

/-! ## Strategies -/

def attempt (r : Request) : Strategy → List Event × Option Patch
  | .namedSection => r.editSection
  | .deletion => r.deleteUnnamed
  | .selection => r.replaceSelection
  | .cursor => ([], r.cursor.map fun c => r.insertAt (r.clampedCursor c))
  | .documentStart => ([], some (r.insertAt 0))

/-- The first of some strategies that can act; the start of the document if none of them can. -/
def firstOf (r : Request) : List Strategy → List Event × Strategy × Patch
  | [] => ([], .documentStart, r.insertAt 0)
  | s :: rest =>
    match r.attempt s with
    | (events, some patch) => (events, s, patch)
    | (events, none) =>
      let (more, outcome) := r.firstOf rest
      (events ++ .skipped s :: more, outcome)

def apply (r : Request) : Applied :=
  let (events, strategy, patch) := r.firstOf [.namedSection, .deletion, .selection, .cursor]
  { patch
    intent := r.intent
    strategy
    trace := .classified r.intent :: (events ++ [.applied strategy patch.range]) }

/-- The request an instruction makes; its intent is derived unless one is given. -/
def ofInstruction (instruction document reply : Text) (selection : Option Span)
    (cursor : Option Int) (intent : Option Intent := none) : Request :=
  { document
    reply
    intent := intent.getD
      (Intent.ofInstruction instruction (Outline.ofText document) selection)
    selection
    cursor }

end Request

end TexSplice
