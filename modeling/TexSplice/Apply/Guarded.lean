import TexSplice.Apply.Basic
import TexSplice.Outline.Reading

/-! # Carrying out an instruction

The way from an instruction and a reply to a new document, with everything on it that can be refused:
an element or a range given by two numbers that are no span, an outline of another text, a boundary
whose parts do not give the text back, and a list of strategies that comes to its end. None of this
ever happens, so all else is said of `Request.apply`, in which there is nothing to refuse. -/
namespace TexSplice

def Patch.moved (p : Patch) (distance : Int) : Except Fault Patch :=
  match p.range.moved? distance with
  | some range => .ok { p with range }
  | none => .error (.badRange (p.range.start + distance) (p.range.stop + distance))

namespace Request

/-- What is done with the section that was looked for. The range counts from the place of the section
in the outline, not from the length of the text before it. -/
def editGuarded (r : Request) (target : Text) : Option Boundary →
    Except Fault (List Event × Option Patch)
  | none => .ok (r.editMissing target)
  | some b =>
    match r.editFound target b with
    | (events, none) => .ok (events, none)
    | (events, some patch) => do
      let patch ← patch.moved (b.found.span.start - b.frame.start)
      .ok (events, some patch)

def editSectionGuarded (r : Request) (o : Outline) : Except Fault (List Event × Option Patch) :=
  match Intent.named? r.intent.target with
  | none => .ok ([], none)
  | some target =>
    match r.obstacle? target with
    | some event => .ok ([event], none)
    | none => do
      let found ← o.locate r.document target
      let (events, patch) ← r.editGuarded target found
      .ok (Event.search o target found :: events, patch)

def attemptGuarded (r : Request) (o : Outline) : Strategy → Except Fault (List Event × Option Patch)
  | .namedSection => r.editSectionGuarded o
  | s =>
    match r.attempt s with
    | (events, none) => .ok (events, none)
    | (events, some patch) => do
      let patch ← patch.moved 0
      .ok (events, some patch)

/-- The first of some strategies that can act; there has to be one. -/
def firstGuarded (r : Request) (o : Outline) :
    List Strategy → Except Fault (List Event × Strategy × Patch)
  | [] => .error .noStrategy
  | s :: rest => do
    match ← r.attemptGuarded o s with
    | (events, some patch) => .ok (events, s, patch)
    | (events, none) =>
      let (more, outcome) ← r.firstGuarded o rest
      .ok (events ++ .skipped s :: more, outcome)

def applyGuarded (r : Request) (o : Outline) : Except Fault Applied := do
  let (events, strategy, patch) ← r.firstGuarded o Strategy.all
  .ok
    { patch
      intent := r.intent
      strategy
      trace := .classified r.intent :: (events ++ [.applied strategy patch.range]) }

/-- Carries out an instruction with a reply, or with none. The intent is derived unless one is
given. -/
def carryOut (instruction document : Text) (reply : Option Text) (selection : Option Span)
    (cursor : Option Int) (intent : Option Intent) : Except Fault Applied := do
  let o ← Outline.read document
  let intent := intent.getD (Intent.ofInstruction instruction o selection)
  applyGuarded ⟨document, reply.getD [], intent, selection, cursor⟩ o

end Request

end TexSplice
