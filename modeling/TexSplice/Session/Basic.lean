import TexSplice.Apply.Guarded
import TexSplice.Check
import TexSplice.Prompt.Build
import TexSplice.Settings

/-! # Editing sessions

One session takes an instruction to a new document: the prompt is made, the generator is asked
until it says something, the reply is put into the document and the change is checked. Each of these
steps may be refused. Between the first prompt and the new document a failure of the service or of a
value ends the session, which then gives the document back as it was. Any other failure, and any
before or after that, is passed on. -/
namespace TexSplice.Session

/-- A generator with a state: it answers a prompt with a reply, with nothing, or with a
failure. -/
abbrev Generator (σ : Type) := Text → σ → Except Fault (Option Text) × σ

structure Record where
  id : Text
  instruction : Text
  success : Bool
  action : Action
  target : Option Text
  strategy : Option Strategy
  error : Option Text
deriving DecidableEq

inductive Result where
  /-- The reply was put into the document. -/
  | done (reply : Text) (applied : Applied) (report : Option Check.Report)
  /-- Nothing was changed; the document as it was. -/
  | failed (error fallback : Text)
deriving DecidableEq

structure Outcome where
  id : Text
  intent : Intent
  result : Result
  trace : List Event
deriving DecidableEq

namespace Outcome

def success (o : Outcome) : Bool :=
  match o.result with
  | .done .. => true
  | .failed .. => false

def applied? (o : Outcome) : Option Applied :=
  match o.result with
  | .done _ applied _ => some applied
  | .failed .. => none

def reply? (o : Outcome) : Option Text :=
  match o.result with
  | .done reply _ _ => some reply
  | .failed .. => none

def report? (o : Outcome) : Option Check.Report :=
  match o.result with
  | .done _ _ report => report
  | .failed .. => none

def error? (o : Outcome) : Option Text :=
  match o.result with
  | .done .. => none
  | .failed error _ => some error

/-- The document as it was, if the session failed. -/
def fallback? (o : Outcome) : Option Text :=
  match o.result with
  | .done .. => none
  | .failed _ fallback => some fallback

/-- The document to go on with. -/
def document (o : Outcome) : Text :=
  match o.result with
  | .done _ applied _ => applied.patch.document
  | .failed _ fallback => fallback

end Outcome

structure Policy where
  /-- How often the generator is asked before a session gives up. -/
  maxAttempts : Int := Settings.maxAttempts
  checks : Bool := true
deriving Repr, DecidableEq

/-- What lasts from one session to the next. -/
structure Desk (σ : Type) where
  generator : σ
  count : Nat := 0
  history : List Record := []

structure Task where
  document : Text
  instruction : Text
  selection : Option Span := none
  cursor : Option Int := none
deriving DecidableEq

def idLength : Nat := 12

/-- The name of the session with a number. -/
def idOf (n : Nat) : Text := Text.hex idLength n

/-- Asks until a reply is not blank, up to `left` more times. Where an empty reply will do, the
first reply is the last. -/
def ask {σ : Type} (g : Generator σ) (prompt : Text) (emptyWillDo : Bool) (limit : Int) :
    Nat → σ → Except Fault Text × σ
  | 0, s => (.error (.noReply limit), s)
  | left + 1, s =>
    match g prompt s with
    | (.error f, s) => (.error f, s)
    | (.ok reply, s) =>
      let reply := reply.getD []
      if !Text.allBlank reply then (.ok reply, s)
      else if emptyWillDo then (.ok [], s)
      else ask g prompt emptyWillDo limit left s

/-- Whether a session ends with a failure rather than passing it on. -/
def endsSession (f : Fault) : Bool := f.kind == .service || f.kind == .value

/-- A task with all that is found out about it before the generator is asked. -/
structure Brief where
  task : Task
  outline : Outline
  intent : Intent
  /-- Whether the check will expect a section more. -/
  creating : Bool
deriving DecidableEq

def Task.brief (t : Task) : Except Fault Brief := do
  let outline ← Outline.read t.document
  let intent := Intent.ofInstruction t.instruction outline t.selection
  let creating ← Check.addsSectionGuarded t.document (some intent)
  .ok ⟨t, outline, intent, creating⟩

namespace Brief

def prompt (b : Brief) : Except Fault Text :=
  let a : Prompt.Ask :=
    ⟨b.task.instruction, b.task.document, b.task.selection, b.intent.target, b.intent.action,
      b.intent.placement⟩
  a.prompt b.outline

def reply {σ : Type} (b : Brief) (g : Generator σ) (policy : Policy) (s : σ) :
    Except Fault Text × σ :=
  match b.prompt with
  | .error f => (.error f, s)
  | .ok prompt =>
    ask g prompt (b.intent.action == .delete) policy.maxAttempts policy.maxAttempts.toNat s

def applied (b : Brief) (reply : Text) : Except Fault Applied :=
  Request.carryOut b.task.instruction b.task.document (some reply) b.task.selection b.task.cursor
    (some b.intent)

/-- From the prompt up to the new document: the part of a session whose failures can end it. -/
def edit {σ : Type} (b : Brief) (g : Generator σ) (policy : Policy) (s : σ) :
    Except Fault (Text × Applied) × σ :=
  match b.reply g policy s with
  | (.error f, s) => (.error f, s)
  | (.ok reply, s) => ((b.applied reply).map fun a => (reply, a), s)

def report (b : Brief) (policy : Policy) (a : Applied) : Except Fault (Option Check.Report) :=
  if policy.checks then
    (Check.reportGuarded b.task.document a.patch.document b.creating).map some
  else .ok none

def started (b : Brief) (id : Text) : Event := .sessionStarted id b.outline.sections.length

def succeed (b : Brief) (id reply : Text) (a : Applied) (report : Option Check.Report) : Outcome :=
  ⟨id, b.intent, .done reply a report, b.started id :: a.trace⟩

def fail (b : Brief) (id : Text) (f : Fault) : Outcome :=
  ⟨id, b.intent, .failed f.message b.task.document, [b.started id, .sessionFailed f.message]⟩

def record (b : Brief) (id : Text) (success : Bool) (strategy : Option Strategy)
    (error : Option Text) : Record :=
  { id
    instruction := b.task.instruction
    success
    action := b.intent.action
    target := b.intent.target
    strategy
    error }

end Brief

/-- The prompt that a session for a task starts with. -/
def Task.prompt (t : Task) : Except Fault Text := t.brief.bind Brief.prompt

namespace Desk

variable {σ : Type}

def note (d : Desk σ) (r : Record) : Desk σ := { d with history := d.history ++ [r] }

/-- Runs a session. A failure that is passed on leaves no record, but the session has had its
number. -/
def run (d : Desk σ) (g : Generator σ) (policy : Policy) (t : Task) :
    Except Fault Outcome × Desk σ :=
  let id := idOf (d.count + 1)
  let d := { d with count := d.count + 1 }
  match t.brief with
  | .error f => (.error f, d)
  | .ok b =>
    let (edited, s) := b.edit g policy d.generator
    let d := { d with generator := s }
    match edited with
    | .error f =>
      if endsSession f then (.ok (b.fail id f), d.note (b.record id false none (some f.message)))
      else (.error f, d)
    | .ok (reply, a) =>
      match b.report policy a with
      | .error f => (.error f, d)
      | .ok report =>
        (.ok (b.succeed id reply a report), d.note (b.record id true (some a.strategy) none))

def clearHistory (d : Desk σ) : Desk σ := { d with history := [] }

end Desk

end TexSplice.Session
