import TexSplice.Fault
import TexSplice.Text.Case

/-! # Pacing of requests

Requests are kept apart by a delay. A request that is refused because there were too many is
sent again after a pause that doubles each time, and the delay grows. After several refusals in
a row every request waits until a longer pause is over.

Time may be any kind of number, so that what holds in exact arithmetic can be said of the same
definitions that run on doubles. -/
namespace TexSplice.Pacing

structure Rules (R : Type) where
  /-- The first pause before a request is sent again. -/
  basePause : R
  /-- By how much the pause grows with each attempt. -/
  pauseGrowth : R
  /-- After more growths than this a pause is beyond all numbers of a clock. -/
  maxGrowths : Nat
  /-- By how much the delay grows with each refusal. -/
  delayGrowth : R
  /-- The delay does not grow beyond this. -/
  maxDelay : R
  /-- How many refusals in a row stop all requests for a while. -/
  threshold : Int
  /-- For how long. -/
  stopDuration : R
  /-- The bounds of the random factor of a pause. -/
  jitterLow : R
  jitterHigh : R

def Rules.standard : Rules Float :=
  { basePause := 2.0
    pauseGrowth := 2.0
    maxGrowths := 1023
    delayGrowth := 1.5
    maxDelay := 10.0
    threshold := 5
    stopDuration := 60.0
    jitterLow := 0.9
    jitterHigh := 1.1 }

structure Pacer (R : Type) where
  /-- The delay to go back to. -/
  defaultDelay : R
  delay : R
  /-- When the last request was sent. -/
  lastCall : R
  /-- The refusals in a row. -/
  refusals : Int
  /-- Until when requests are stopped, once there are too many refusals. -/
  stoppedUntil : R
deriving Repr

/-- What pacing needs of the world: a clock, a way to pause, and random factors. -/
structure Surroundings (σ R : Type) where
  time : σ → R × σ
  pause : R → σ → σ
  factor : R → R → σ → R × σ

def refusalPhrases : List Text :=
  [ "429".toList, "too many requests".toList, "rate limit".toList,
    "service tier capacity exceeded".toList ]

def saysTooMany (message : Text) : Bool :=
  refusalPhrases.any fun phrase => Text.includes (Text.lower message) phrase

def isRefusal (f : Fault) : Bool := saysTooMany f.message

namespace Pacer

variable {σ R : Type}

def fresh (origin delay : R) : Pacer R := ⟨delay, delay, origin, 0, origin⟩

def withDelay (p : Pacer R) (delay : R) : Pacer R := { p with delay }

def reset (p : Pacer R) : Pacer R := { p with delay := p.defaultDelay }

variable [Add R] [Sub R] [Mul R] [LT R] [DecidableLT R]

def awaitRelease (rules : Rules R) (origin : R) (env : Surroundings σ R) (p : Pacer R) (s : σ) :
    Pacer R × σ :=
  let (now, s) := env.time s
  if rules.threshold ≤ p.refusals ∧ now < p.stoppedUntil then
    ({ p with refusals := 0, stoppedUntil := origin }, env.pause (p.stoppedUntil - now) s)
  else (p, s)

def awaitDelay (env : Surroundings σ R) (p : Pacer R) (s : σ) : σ :=
  let (now, s) := env.time s
  let elapsed := now - p.lastCall
  if elapsed < p.delay then env.pause (p.delay - elapsed) s else s

/-- Waits until a request may be sent, and notes the time. -/
def wait (rules : Rules R) (origin : R) (env : Surroundings σ R) (p : Pacer R) (s : σ) :
    Pacer R × σ :=
  let (p, s) := p.awaitRelease rules origin env s
  let s := p.awaitDelay env s
  let (now, s) := env.time s
  ({ p with lastCall := now }, s)

/-- Notes a refusal; requests are stopped if there are too many in a row. -/
def refused (rules : Rules R) (env : Surroundings σ R) (p : Pacer R) (s : σ) : Pacer R × σ :=
  let p := { p with refusals := p.refusals + 1 }
  if rules.threshold ≤ p.refusals then
    let (now, s) := env.time s
    ({ p with stoppedUntil := now + rules.stopDuration }, s)
  else (p, s)

/-- The delay after a refusal that is followed by another attempt: it grows up to its bound and
never shrinks. -/
def widen (rules : Rules R) (p : Pacer R) : Pacer R :=
  let grown := p.delay * rules.delayGrowth
  let bounded := if rules.maxDelay < grown then rules.maxDelay else grown
  if p.delay < bounded then p.withDelay bounded else p

/-- The pause before attempt `attempt + 1`, without its random factor. -/
def backoff (rules : Rules R) : Nat → R
  | 0 => rules.basePause
  | attempt + 1 => rules.pauseGrowth * backoff rules attempt

/-- Sends a request up to `left` more times, the next being attempt number `attempt`. -/
def attempts {α : Type} (rules : Rules R) (origin : R) (env : Surroundings σ R)
    (call : σ → Except Fault α × σ) :
    (left attempt : Nat) → Pacer R → σ → Except Fault (Option α) × Pacer R × σ
  | 0, _, p, s => (.ok none, p, s)
  | left + 1, attempt, p, s =>
    let (p, s) := p.wait rules origin env s
    match call s with
    | (.ok a, s) => (.ok (some a), { p with refusals := 0 }, s)
    | (.error f, s) =>
      if isRefusal f then
        let (p, s) := p.refused rules env s
        if left = 0 then (.error f, p, s)
        else if rules.maxGrowths < attempt then (.error .endlessPause, p, s)
        else
          let (factor, s) := env.factor rules.jitterLow rules.jitterHigh s
          let s := env.pause (backoff rules attempt * factor) s
          attempts rules origin env call left (attempt + 1) (p.widen rules) s
      else (.error f, p, s)

/-- Sends a request, and again after refusals up to a number of times. With a negative number it
is not sent at all. -/
def execute {α : Type} (rules : Rules R) (origin : R) (env : Surroundings σ R)
    (call : σ → Except Fault α × σ) (retries : Int) (p : Pacer R) (s : σ) :
    Except Fault (Option α) × Pacer R × σ :=
  attempts rules origin env call (retries + 1).toNat 0 p s

end Pacer

def defaultRetries : Int := 3

end TexSplice.Pacing
