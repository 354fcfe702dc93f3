import TexSplice.Client
import TexSplice.Command.Basic
import TexSplice.Command.Flags
import TexSplice.Session.Basic

/-! # One edit from the command line

With a reply at hand the edit needs no generator; otherwise a whole session is run. A summary is
printed, the events can be logged, and the new document is written to a file or shown in part. -/
namespace TexSplice.Command

structure EditArguments where
  instruction : Text
  selection : Option Text := none
  cursor : Option Text := none
  /-- Whether the new document goes to a file. -/
  toFile : Bool := false
  logged : Bool := false
deriving Repr, DecidableEq

structure EditJob where
  instruction : Text
  selection : Option Span
  cursor : Option Int
  toFile : Bool
  logged : Bool
deriving DecidableEq

def editFlags : List Text :=
  [ "-h".toList, "--help".toList, "--document".toList, "--instruction".toList,
    "--selection".toList, "--cursor".toList, "--completion".toList, "--completion-file".toList,
    "--output".toList, "--log-file".toList, "--no-cache".toList, "--verbose".toList ]

/-- Reads an instruction, which stands by itself after its flag. -/
def readInstruction (given : Text) : Except UsageError Text :=
  match Flags.standing editFlags given with
  | .value => .ok given
  | .flag => .error (.noValue "--instruction".toList)
  | .ambiguous flags => .error (.ambiguous given flags)

def readCursor : Option Text → Except UsageError (Option Int)
  | none => .ok none
  | some given =>
    match Numeral.integer? given with
    | some n => .ok (some n)
    | none => .error (.badCursor given)

/-- Reads a selection; an empty one is none. -/
def readSelection : Option Text → Except UsageError (Option Span)
  | none | some [] => .ok none
  | some given =>
    let ends := do
      let (start, stop) ← Text.cut? [':'] given
      some (← Numeral.integer? start, ← Numeral.integer? stop)
    match ends with
    | none => .error (.badSelection given)
    | some (start, stop) =>
      match Span.ofBounds? start stop with
      | some s => .ok (some s)
      | none => .error (.badRange (Fault.badRange start stop).message)

/-- Reads the arguments; of two that are wrong the first in this order is complained about. -/
def EditArguments.read (a : EditArguments) : Except UsageError EditJob := do
  let instruction ← readInstruction a.instruction
  let cursor ← readCursor a.cursor
  let selection ← readSelection a.selection
  pure ⟨instruction, selection, cursor, a.toFile, a.logged⟩

/-! ## Summaries -/

structure Summary where
  success : Bool
  fields : List (String × Json)
  document : Text
  trace : List Event

def spanData (s : Span) : Json := .record [("start", .nat s.start), ("end", .nat s.stop)]

def reportData (r : Check.Report) : Json :=
  .record
    [ ("is_surgical", .bool r.surgical), ("syntax_valid", .bool r.balanced),
      ("structure_valid", .bool r.structured), ("length_delta", .int r.growth),
      ("percentage_change", .float r.share.percentage.toBits.toNat),
      ("issues", .list (r.issues.map .text)), ("overall_valid", .bool r.valid) ]

def intentFields (i : Intent) : List (String × Json) :=
  [("action", .text i.action.name), ("target_section", Json.opt .text i.target)]

def Summary.ofApplied (a : Applied) : Summary :=
  { success := true
    fields :=
      [("success", .bool true), ("strategy", .text a.strategy.name)] ++ intentFields a.intent ++
        [("affected_range", spanData a.patch.range)]
    document := a.patch.document
    trace := a.trace }

def Summary.ofSession (o : Session.Outcome) : Summary :=
  { success := o.success
    fields :=
      [ ("success", .bool o.success), ("session_id", .text o.id),
        ("strategy", Json.opt (fun (a : Applied) => .text a.strategy.name) o.applied?),
        ("error", Json.opt .text o.error?) ] ++ intentFields o.intent ++
        (o.applied?.toList.map fun a => ("affected_range", spanData a.patch.range)) ++
        (o.report?.toList.map fun r => ("validation", reportData r))
    document := o.document
    trace := o.trace }

def documentPreview : Nat := 400

def eventData (e : Event) : Json :=
  .record
    [ ("event", .text e.stage),
      ("payload", .record (("decision", .text e.decision) :: e.details)) ]

def Summary.outcome (s : Summary) (job : EditJob) (writeFloat : Nat → Text) : Outcome :=
  let preview :=
    if job.toFile then []
    else [("new_document_preview", Json.text (s.document.take documentPreview))]
  { exitCode := if s.success then 0 else 1
    stdout := (Json.record (s.fields ++ preview)).indented writeFloat ++ ['\n']
    output := if job.toFile then some s.document else none
    log :=
      if job.logged then some (printLines (s.trace.map fun e => (eventData e).plain))
      else none }

/-! ## Edits -/

/-- The edit of a file's text with a reply that is at hand. -/
def EditJob.replay (job : EditJob) (file reply : Text) : Applied :=
  (Request.ofInstruction job.instruction (Text.unifyLineEnds file) reply job.selection
    job.cursor).apply

/-- The edit of a file's text in a session of its own. -/
def EditJob.session {σ : Type} (job : EditJob) (file : Text) (g : Session.Generator σ) (s : σ) :
    Except Fault Session.Outcome × Session.Desk σ :=
  let d : Session.Desk σ := { generator := s }
  d.run g {} ⟨Text.unifyLineEnds file, job.instruction, job.selection, job.cursor⟩

def generatorOf {σ R : Type} [Add R] [Sub R] [Mul R] [LT R] [DecidableLT R] (c : Client)
    (access : Client.Access σ R) : Session.Generator (Shared σ R) := fun prompt s =>
  let (reply, s) := c.complete access prompt Prompt.systemText s
  (reply.map some, s)

end TexSplice.Command
