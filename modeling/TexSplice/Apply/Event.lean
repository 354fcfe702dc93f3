import TexSplice.Intent.Basic
import TexSplice.Target.Boundary
import TexSplice.Json.Basic

/-! # The trace of an edit

One event for every decision. Outside an event shows as a stage, a decision and some details. -/
namespace TexSplice

/-- The ways to get a reply into a document, in the order in which they are tried. -/
inductive Strategy where
  | namedSection
  /-- Delete the selection, or everything. -/
  | deletion
  | selection
  | cursor
  | documentStart
deriving Repr, DecidableEq

namespace Strategy

def name : Strategy → Text
  | namedSection => "section".toList
  | deletion => "deletion".toList
  | selection => "selection".toList
  | cursor => "cursor".toList
  | documentStart => "document_start".toList

def all : List Strategy := [namedSection, deletion, selection, cursor, documentStart]

end Strategy

/-- A decision taken on the way from an instruction to a new document. -/
inductive Event where
  | classified (intent : Intent)
  | notLocated (target : Text) (available : List Text)
  | located (target : Text) (boundary : Boundary)
  | deletionNotConfirmed (target : Text)
  | emptyContent (target : Text)
  | creating (target : Text)
  | noHeading (target : Text)
  | selectionOutOfBounds (selection : Span)
  | skipped (strategy : Strategy)
  | applied (strategy : Strategy) (range : Span)
  | sessionStarted (id : Text) (sections : Nat)
  | sessionFailed (error : Text)
deriving DecidableEq

namespace Event

def stage : Event → Text
  | classified _ => "classify".toList
  | notLocated .. | located .. => "locate".toList
  | deletionNotConfirmed _ | emptyContent _ | creating _ | noHeading _ => "section".toList
  | selectionOutOfBounds _ => "selection".toList
  | skipped _ | applied .. => "apply".toList
  | sessionStarted .. | sessionFailed _ => "session".toList

def decision : Event → Text
  | classified intent => intent.action.name
  | notLocated .. => "not_found".toList
  | located _ boundary => boundary.tier.name
  | deletionNotConfirmed _ => "deletion_not_confirmed".toList
  | emptyContent _ => "empty_content".toList
  | creating _ => "create".toList
  | noHeading _ => "no_section_header".toList
  | selectionOutOfBounds _ => "out_of_bounds".toList
  | skipped _ => "skipped".toList
  | applied strategy _ => strategy.name
  | sessionStarted .. => "started".toList
  | sessionFailed _ => "failed".toList

/-- The details of an event, in the order in which a log shows them. -/
def details : Event → List (String × Json)
  | classified intent =>
    [ ("insertion_point", .text intent.placement.name),
      ("target_section", Json.opt .text intent.target),
      ("creation", .bool intent.creates) ]
  | notLocated target available =>
    [("target", .text target), ("available_sections", .list (available.map .text))]
  | located target boundary =>
    [ ("target", .text target),
      ("section", .text boundary.frame.name),
      ("start_pos", .nat boundary.frame.start),
      ("end_pos", .nat boundary.frame.stop) ]
  | deletionNotConfirmed target | emptyContent target | creating target | noHeading target =>
    [("target", .text target)]
  | selectionOutOfBounds s => [("start", .nat s.start), ("end", .nat s.stop)]
  | skipped strategy => [("strategy", .text strategy.name)]
  | applied _ s => [("start", .nat s.start), ("end", .nat s.stop)]
  | sessionStarted id sections => [("session_id", .text id), ("sections", .nat sections)]
  | sessionFailed error => [("error", .text error)]

def search (o : Outline) (target : Text) : Option Boundary → Event
  | none => notLocated target o.titles
  | some b => located target b

end Event

end TexSplice
