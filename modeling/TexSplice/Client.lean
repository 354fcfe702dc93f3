import TexSplice.Pacing.Basic
import TexSplice.Prompt.Wording
import TexSplice.Settings
import TexSplice.Store.Basic

/-! # The client of the generator

A prompt and a text about the work go in, a reply comes out. Requests are paced, and a reply that
is not empty is stored, so that the same question is not asked twice. -/
namespace TexSplice

structure ChatRequest where
  model : Text
  temperature : Float
  system : Text
  prompt : Text

inductive ChatAnswer where
  | none
  | noChoices
  | text (content : Option Text)
  /-- Content in parts, of which some may not be text. -/
  | parts (texts : List (Option Text))
deriving Repr, DecidableEq

def ChatAnswer.content : ChatAnswer → Text
  | none | noChoices => []
  | text content => content.getD []
  | parts texts => texts.flatMap fun t => t.getD []

structure Client where
  apiKey : Text
  useStore : Bool
  model : Text
  temperature : Float

/-- What clients share: the stored replies, the pacing, and the world. -/
structure Shared (σ R : Type) where
  store : Store
  pacer : Pacing.Pacer R
  world : σ

namespace Client

/-- A client with the first key that is given and not empty. -/
def create (apiKey environmentKey : Option Text) (useStore : Bool := true)
    (model : Text := Settings.defaultModel)
    (temperature : Float := Settings.defaultTemperature) : Except Fault Client :=
  match apiKey, environmentKey with
  | some (c :: rest), _ => .ok ⟨c :: rest, useStore, model, temperature⟩
  | _, some (c :: rest) => .ok ⟨c :: rest, useStore, model, temperature⟩
  | _, _ => .error .noApiKey

def component : Text := "completion_client".toList

def question (c : Client) (prompt system : Text) : Json :=
  .record [("model", .text c.model), ("system", .text system), ("prompt", .text prompt)]

def request (c : Client) (prompt system : Text) : ChatRequest :=
  ⟨c.model, c.temperature, system, prompt⟩

def stored? (c : Client) (prompt system : Text) (store : Store) : Option Text × Store :=
  if c.useStore then
    match store.get component (c.question prompt system) with
    | (some (.text reply), store) => (some reply, store)
    | (_, store) => (none, store)
  else (none, store)

/-- Stores a reply unless it is empty. The component's name is one that can be stored. -/
def keep (c : Client) (prompt system reply : Text) (store : Store) : Store :=
  if c.useStore && !reply.isEmpty then
    (store.set component (c.question prompt system) (.text reply)).toOption.getD store
  else store

/-- How a client reaches the generator: the rules of pacing, the world they need, and one
request. -/
structure Access (σ R : Type) where
  rules : Pacing.Rules R
  /-- The time before any request. -/
  origin : R
  surroundings : Pacing.Surroundings σ R
  send : ChatRequest → σ → Except Fault ChatAnswer × σ

/-- The reply to a prompt: the stored one, or what the generator answers now. -/
def complete {σ R : Type} [Add R] [Sub R] [Mul R] [LT R] [DecidableLT R] (c : Client)
    (access : Access σ R) (prompt system : Text) (s : Shared σ R) :
    Except Fault Text × Shared σ R :=
  match c.stored? prompt system s.store with
  | (some reply, store) => (.ok reply, { s with store })
  | (none, store) =>
    let (outcome, pacer, world) := s.pacer.execute access.rules access.origin
      access.surroundings (access.send (c.request prompt system)) Pacing.defaultRetries s.world
    match outcome with
    | .error f => (.error (.requestFailed f.message), ⟨store, pacer, world⟩)
    | .ok answer =>
      let reply := (answer.map ChatAnswer.content).getD []
      (.ok reply, ⟨c.keep prompt system reply store, pacer, world⟩)

end Client

end TexSplice
