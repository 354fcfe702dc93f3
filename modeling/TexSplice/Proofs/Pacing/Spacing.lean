import Mathlib.Algebra.Order.Ring.Rat
import Mathlib.Tactic.Linarith
import TexSplice.Pacing.Basic

/-! # Requests are kept apart

Between two requests there is at least the delay in force at the later one, and after too many
refusals in a row none is sent before the longer pause is over. A run is written down as events, each
with the pacer and the world of its moment, so that both can be said of any two of them. What carries
the proof is that a refusal of the past is either long over or still waited for, and that waiting for
a request is waiting for all of them. -/
namespace TexSplice.Pacing

variable {σ R α : Type}

/-! ## What happens in a run -/

inductive Event (σ R : Type) where
  | paused (duration : R)
  /-- A request is sent in a world; the pacer has noted its time. -/
  | sent (p : Pacer R) (s : σ)
  /-- A refusal comes in a world; the pacer has counted it. -/
  | refused (p : Pacer R) (s : σ)

namespace Pacer

section
variable [Sub R] [LT R] [DecidableLT R]

/-- `awaitRelease` with the pause it makes. -/
def awaitReleaseTraced (rules : Rules R) (origin : R) (env : Surroundings σ R) (p : Pacer R)
    (s : σ) : List (Event σ R) × Pacer R × σ :=
  let (now, s) := env.time s
  if rules.threshold ≤ p.refusals ∧ now < p.stoppedUntil then
    ([.paused (p.stoppedUntil - now)],
      { p with refusals := 0, stoppedUntil := origin }, env.pause (p.stoppedUntil - now) s)
  else ([], p, s)

def awaitDelayTraced (env : Surroundings σ R) (p : Pacer R) (s : σ) : List (Event σ R) × σ :=
  let (now, s) := env.time s
  let elapsed := now - p.lastCall
  if elapsed < p.delay then ([.paused (p.delay - elapsed)], env.pause (p.delay - elapsed) s)
  else ([], s)

def waitTraced (rules : Rules R) (origin : R) (env : Surroundings σ R) (p : Pacer R) (s : σ) :
    List (Event σ R) × Pacer R × σ :=
  let (released, p, s) := p.awaitReleaseTraced rules origin env s
  let (delayed, s) := p.awaitDelayTraced env s
  let (now, s) := env.time s
  let p := { p with lastCall := now }
  (released ++ delayed ++ [.sent p s], p, s)

variable {rules : Rules R} {origin : R} {env : Surroundings σ R}

theorem awaitReleaseTraced_snd (p : Pacer R) (s : σ) :
    (p.awaitReleaseTraced rules origin env s).2 = p.awaitRelease rules origin env s := by
  unfold awaitReleaseTraced awaitRelease
  dsimp only
  split <;> rfl

theorem awaitDelayTraced_snd (p : Pacer R) (s : σ) :
    (p.awaitDelayTraced env s).2 = p.awaitDelay env s := by
  unfold awaitDelayTraced awaitDelay
  dsimp only
  split <;> rfl

theorem waitTraced_snd (p : Pacer R) (s : σ) :
    (p.waitTraced rules origin env s).2 = p.wait rules origin env s := by
  unfold waitTraced wait
  dsimp only
  rw [← awaitReleaseTraced_snd, ← awaitDelayTraced_snd]

end

theorem refusals_widen [Mul R] [LT R] [DecidableLT R] (rules : Rules R) (p : Pacer R) :
    (p.widen rules).refusals = p.refusals ∧ (p.widen rules).stoppedUntil = p.stoppedUntil := by
  unfold widen
  extract_lets grown bounded
  split <;> exact ⟨rfl, rfl⟩

section
variable [Add R] [Sub R] [Mul R] [LT R] [DecidableLT R]

def attemptsTraced (rules : Rules R) (origin : R) (env : Surroundings σ R)
    (call : σ → Except Fault α × σ) :
    (left attempt : Nat) → Pacer R → σ → List (Event σ R) × Except Fault (Option α) × Pacer R × σ
  | 0, _, p, s => ([], .ok none, p, s)
  | left + 1, attempt, p, s =>
    let (waited, p, s) := p.waitTraced rules origin env s
    match call s with
    | (.ok a, s) => (waited, .ok (some a), { p with refusals := 0 }, s)
    | (.error f, s) =>
      if isRefusal f then
        let (q, t) := p.refused rules env s
        let events := waited ++ [.refused q s]
        if left = 0 then (events, .error f, q, t)
        else if rules.maxGrowths < attempt then (events, .error .endlessPause, q, t)
        else
          let (factor, t) := env.factor rules.jitterLow rules.jitterHigh t
          let duration := backoff rules attempt * factor
          let (more, outcome) := attemptsTraced rules origin env call left (attempt + 1)
            (q.widen rules) (env.pause duration t)
          (events ++ .paused duration :: more, outcome)
      else (waited, .error f, p, s)

variable {rules : Rules R} {origin : R} {env : Surroundings σ R}

/-- Writing down what happens changes nothing. -/
theorem attemptsTraced_snd (call : σ → Except Fault α × σ) :
    ∀ (left attempt : Nat) (p : Pacer R) (s : σ),
      (attemptsTraced rules origin env call left attempt p s).2 =
        attempts rules origin env call left attempt p s
  | 0, _, _, _ => rfl
  | left + 1, attempt, p, s => by
    unfold attemptsTraced attempts
    rw [← waitTraced_snd]
    generalize p.waitTraced rules origin env s = waited
    obtain ⟨events, p, s⟩ := waited
    dsimp only
    generalize call s = answer
    obtain ⟨f | a, s⟩ := answer
    · dsimp only
      split
      · split
        · rfl
        · split
          · rfl
          · exact attemptsTraced_snd call left ..
      · rfl
    · rfl

end

end Pacer

/-! ## Runs -/

inductive Turn (σ R α : Type) where
  | execute (call : σ → Except Fault α × σ) (retries : Int)
  | setDelay (delay : R)
  | resetDelay

namespace Turn

variable [Add R] [Sub R] [Mul R] [LT R] [DecidableLT R]

def next (rules : Rules R) (origin : R) (env : Surroundings σ R) :
    Pacer R × σ → Turn σ R α → Pacer R × σ
  | (p, s), execute call retries => (p.execute rules origin env call retries s).2
  | (p, s), setDelay delay => (p.withDelay delay, s)
  | (p, s), resetDelay => (p.reset, s)

/-- The same with what happens. -/
def nextTraced (rules : Rules R) (origin : R) (env : Surroundings σ R) (p : Pacer R) (s : σ) :
    Turn σ R α → List (Event σ R) × Pacer R × σ
  | execute call retries =>
    let (events, _, state) := Pacer.attemptsTraced rules origin env call (retries + 1).toNat 0 p s
    (events, state)
  | setDelay delay => ([], p.withDelay delay, s)
  | resetDelay => ([], p.reset, s)

def run (rules : Rules R) (origin : R) (env : Surroundings σ R) (p : Pacer R) (s : σ)
    (turns : List (Turn σ R α)) : List (Event σ R) × Pacer R × σ :=
  turns.foldl (fun (past, p, s) turn =>
    let (events, state) := turn.nextTraced rules origin env p s
    (past ++ events, state)) ([], p, s)

variable {rules : Rules R} {origin : R} {env : Surroundings σ R}

theorem nextTraced_snd (p : Pacer R) (s : σ) (turn : Turn σ R α) :
    (turn.nextTraced rules origin env p s).2 = turn.next rules origin env (p, s) := by
  cases turn with
  | execute call retries =>
    rw [next, Pacer.execute, ← Pacer.attemptsTraced_snd]
    rfl
  | setDelay delay => rfl
  | resetDelay => rfl

theorem run_snd (turns : List (Turn σ R α)) (p : Pacer R) (s : σ) :
    (run rules origin env p s turns).2 = turns.foldl (next rules origin env) (p, s) := by
  unfold run
  refine (List.foldl_hom Prod.snd fun run turn => ?_).symm
  exact (nextTraced_snd run.2.1 run.2.2 turn).symm

end Turn

/-! ## What is known of the world and of the rules -/

/-- A clock that does not go back, and that a pause moves on by at least its duration. A factor is not
below the bound that it is asked for. -/
structure Surroundings.Clocked [Add R] [LE R] [Zero R] (env : Surroundings σ R) (rules : Rules R)
    (clock : σ → R) : Prop where
  clock_le_time : ∀ s, clock s ≤ (env.time s).1
  time_le_clock : ∀ s, (env.time s).1 ≤ clock (env.time s).2
  pause : ∀ d s, 0 ≤ d → clock s + d ≤ clock (env.pause d s)
  factor : ∀ s, clock s ≤ clock (env.factor rules.jitterLow rules.jitterHigh s).2
  low_le_factor : ∀ s, rules.jitterLow ≤ (env.factor rules.jitterLow rules.jitterHigh s).1

/-- Rules by which no pause could be negative. -/
structure Rules.Nonneg [LE R] [Zero R] (rules : Rules R) : Prop where
  basePause : 0 ≤ rules.basePause
  pauseGrowth : 0 ≤ rules.pauseGrowth
  jitterLow : 0 ≤ rules.jitterLow

/-- A turn that sets no negative delay, and whose request does not turn the clock back. -/
def Turn.Fair [LE R] [Zero R] (clock : σ → R) : Turn σ R α → Prop
  | .execute call _ => ∀ s, clock s ≤ clock (call s).2
  | .setDelay delay => 0 ≤ delay
  | .resetDelay => True

/-- What holds between two events, the first one earlier. -/
def Event.Apart [Add R] [LE R] (rules : Rules R) (clock : σ → R) : Event σ R → Event σ R → Prop
  | .sent p _, .sent q _ => p.lastCall + q.delay ≤ q.lastCall
  | .refused p s, .sent q _ =>
    rules.threshold ≤ p.refusals → clock s + rules.stopDuration ≤ q.lastCall
  | _, _ => True

variable [CommRing R] [LinearOrder R]
  {rules : Rules R} {origin : R} {env : Surroundings σ R} {clock : σ → R}

/-! ## The past of a pacer -/

/-- What a pacer has of the events so far. -/
structure Spaced (rules : Rules R) (clock : σ → R) (past : List (Event σ R)) (p : Pacer R) :
    Prop where
  delay : 0 ≤ p.delay
  defaultDelay : 0 ≤ p.defaultDelay
  sent : ∀ q w, .sent q w ∈ past → q.lastCall ≤ p.lastCall
  apart : past.Pairwise (Event.Apart rules clock)
  pauses : ∀ d, .paused d ∈ past → 0 ≤ d

/-- The pause after every refusal that stopped the requests is over at a time. -/
def Released (rules : Rules R) (clock : σ → R) (past : List (Event σ R)) (time : R) : Prop :=
  ∀ q w, .refused q w ∈ past → rules.threshold ≤ q.refusals → clock w + rules.stopDuration ≤ time

/-- Such a pause is over, or the pacer waits for its end. -/
def Guarded (rules : Rules R) (clock : σ → R) (past : List (Event σ R)) (p : Pacer R) (time : R) :
    Prop :=
  ∀ q w, .refused q w ∈ past → rules.threshold ≤ q.refusals →
    clock w + rules.stopDuration ≤ time ∨
      rules.threshold ≤ p.refusals ∧ clock w + rules.stopDuration ≤ p.stoppedUntil

section
variable {past : List (Event σ R)} {p q : Pacer R} {s : σ} {time later d : R}

theorem Released.mono (h : Released rules clock past time) (hle : time ≤ later) :
    Released rules clock past later :=
  fun q w hq hstopped => le_trans (h q w hq hstopped) hle

theorem Released.guarded (h : Released rules clock past time) (p : Pacer R) :
    Guarded rules clock past p time :=
  fun q w hq hstopped => .inl (h q w hq hstopped)

theorem Guarded.mono (h : Guarded rules clock past p time) (hle : time ≤ later)
    (hrefusals : p.refusals = q.refusals) (hstop : p.stoppedUntil = q.stoppedUntil) :
    Guarded rules clock past q later := by
  intro r w hr hstopped
  rw [← hrefusals, ← hstop]
  exact (h r w hr hstopped).imp_left (le_trans · hle)

theorem Released.paused (h : Released rules clock past time) (d : R) :
    Released rules clock (past ++ [.paused d]) time :=
  fun q w hq => h q w (by simpa using hq)

theorem Released.sent (h : Released rules clock past time) (p : Pacer R) (s : σ) :
    Released rules clock (past ++ [.sent p s]) time :=
  fun q w hq => h q w (by simpa using hq)

theorem Guarded.paused (h : Guarded rules clock past p time) (d : R) :
    Guarded rules clock (past ++ [.paused d]) p time :=
  fun q w hq => h q w (by simpa using hq)

namespace Spaced

theorem start (hdelay : 0 ≤ p.delay) (hdefault : 0 ≤ p.defaultDelay) : Spaced rules clock [] p :=
  ⟨hdelay, hdefault, fun _ _ h => (nomatch h), .nil, fun _ h => nomatch h⟩

/-- A pacer that has the same past, and a delay of its own. -/
theorem same (h : Spaced rules clock past p) (hdelay : 0 ≤ q.delay)
    (hdefault : p.defaultDelay = q.defaultDelay) (hlast : p.lastCall = q.lastCall) :
    Spaced rules clock past q :=
  ⟨hdelay, hdefault ▸ h.defaultDelay, hlast ▸ h.sent, h.apart, h.pauses⟩

/-- An event that is no request need not be apart from those before it. -/
theorem add (h : Spaced rules clock past p) {e : Event σ R} (hsent : ∀ q w, e ≠ .sent q w)
    (hpause : ∀ d, e = .paused d → 0 ≤ d) : Spaced rules clock (past ++ [e]) p where
  delay := h.delay
  defaultDelay := h.defaultDelay
  sent q w hq := by
    rcases List.mem_append.mp hq with hq | hq
    · exact h.sent q w hq
    · exact absurd (List.mem_singleton.mp hq).symm (hsent q w)
  apart := by
    refine List.pairwise_append.mpr ⟨h.apart, List.pairwise_singleton .., fun a _ b hb => ?_⟩
    rw [List.mem_singleton.mp hb]
    cases e with
    | sent q w => exact absurd rfl (hsent q w)
    | paused d => cases a <;> trivial
    | refused q w => cases a <;> trivial
  pauses d hd := by
    rcases List.mem_append.mp hd with hd | hd
    · exact h.pauses d hd
    · exact hpause d (List.mem_singleton.mp hd).symm

theorem paused (h : Spaced rules clock past p) (hd : 0 ≤ d) :
    Spaced rules clock (past ++ [.paused d]) p :=
  h.add (fun _ _ h => nomatch h) fun _ h => by
    cases h
    exact hd

theorem widen (h : Spaced rules clock past p) : Spaced rules clock past (p.widen rules) := by
  unfold Pacer.widen
  extract_lets grown bounded
  split
  · rename_i hgrows
    exact h.same (le_trans h.delay (le_of_lt hgrows)) rfl rfl
  · exact h

variable [IsStrictOrderedRing R]

/-- A request is apart from all before it if it waited for the last one and for every stop. -/
theorem request (h : Spaced rules clock past p) (hreleased : Released rules clock past time)
    (hdelay : p.lastCall + p.delay ≤ time) (s : σ) :
    Spaced rules clock (past ++ [.sent { p with lastCall := time } s])
      { p with lastCall := time } where
  delay := h.delay
  defaultDelay := h.defaultDelay
  sent q w hq := by
    rcases List.mem_append.mp hq with hq | hq
    · have := h.sent q w hq
      have := h.delay
      linarith
    · cases List.mem_singleton.mp hq
      exact le_refl _
  apart := by
    refine List.pairwise_append.mpr ⟨h.apart, List.pairwise_singleton .., fun a ha b hb => ?_⟩
    rw [List.mem_singleton.mp hb]
    cases a with
    | paused d => trivial
    | sent q w =>
      have hq : q.lastCall ≤ p.lastCall := h.sent q w ha
      exact le_trans (add_le_add_left hq p.delay) hdelay
    | refused q w => exact hreleased q w ha
  pauses d hd := by
    rcases List.mem_append.mp hd with hd | hd
    · exact h.pauses d hd
    · cases List.mem_singleton.mp hd

/-! ## What one function keeps -/

variable (origin) in
/-- Once requests are no longer stopped, every stop of the past is over. -/
theorem awaitRelease (henv : env.Clocked rules clock) (h : Spaced rules clock past p)
    (hguarded : Guarded rules clock past p (clock s)) :
    Spaced rules clock (past ++ (p.awaitReleaseTraced rules origin env s).1)
        (p.awaitReleaseTraced rules origin env s).2.1 ∧
      Released rules clock (past ++ (p.awaitReleaseTraced rules origin env s).1)
        (clock (p.awaitReleaseTraced rules origin env s).2.2) := by
  have hnow := henv.clock_le_time s
  have hthen := henv.time_le_clock s
  unfold Pacer.awaitReleaseTraced
  dsimp only
  split
  · rename_i hstop
    have hpositive : 0 ≤ p.stoppedUntil - (env.time s).1 := by linarith [hstop.2]
    have hpause := henv.pause _ (env.time s).2 hpositive
    have hnext : Spaced rules clock past { p with refusals := 0, stoppedUntil := origin } :=
      h.same h.delay rfl rfl
    refine ⟨hnext.paused hpositive, Released.paused (fun q w hq hstopped => ?_) _⟩
    rcases hguarded q w hq hstopped with hover | ⟨_, huntil⟩ <;> linarith
  · rename_i hstop
    rw [List.append_nil]
    refine ⟨h, fun q w hq hstopped => ?_⟩
    rcases hguarded q w hq hstopped with hover | ⟨hrefusals, huntil⟩
    · linarith
    · have : p.stoppedUntil ≤ (env.time s).1 := not_lt.mp fun hlt => hstop ⟨hrefusals, hlt⟩
      linarith

/-- Once the delay is over, the time has come for a request. -/
theorem awaitDelay (henv : env.Clocked rules clock) (h : Spaced rules clock past p)
    (hreleased : Released rules clock past (clock s)) :
    Spaced rules clock (past ++ (p.awaitDelayTraced env s).1) p ∧
      Released rules clock (past ++ (p.awaitDelayTraced env s).1)
        (clock (p.awaitDelayTraced env s).2) ∧
      p.lastCall + p.delay ≤ clock (p.awaitDelayTraced env s).2 := by
  have hnow := henv.clock_le_time s
  have hthen := henv.time_le_clock s
  unfold Pacer.awaitDelayTraced
  dsimp only
  split
  · rename_i hearly
    have hpositive : 0 ≤ p.delay - ((env.time s).1 - p.lastCall) := by linarith
    have hpause := henv.pause _ (env.time s).2 hpositive
    exact ⟨h.paused hpositive, (hreleased.mono (by linarith)).paused _, by linarith⟩
  · rw [List.append_nil]
    exact ⟨h, hreleased.mono (by linarith), by linarith⟩

variable (origin) in
theorem wait (henv : env.Clocked rules clock) (h : Spaced rules clock past p)
    (hguarded : Guarded rules clock past p (clock s)) :
    Spaced rules clock (past ++ (p.waitTraced rules origin env s).1)
        (p.waitTraced rules origin env s).2.1 ∧
      Released rules clock (past ++ (p.waitTraced rules origin env s).1)
        (clock (p.waitTraced rules origin env s).2.2) := by
  obtain ⟨h, hreleased⟩ := h.awaitRelease origin henv hguarded
  unfold Pacer.waitTraced
  generalize p.awaitReleaseTraced rules origin env s = released at h hreleased ⊢
  obtain ⟨events, p, s⟩ := released
  obtain ⟨h, hreleased, hdelay⟩ := h.awaitDelay henv hreleased
  dsimp only
  generalize p.awaitDelayTraced env s = delayed at h hreleased hdelay ⊢
  obtain ⟨more, s⟩ := delayed
  have hnow := henv.clock_le_time s
  have hthen := henv.time_le_clock s
  simp only [← List.append_assoc] at h hreleased ⊢
  exact ⟨h.request (hreleased.mono hnow) (le_trans hdelay hnow) _,
    (hreleased.mono (le_trans hnow hthen)).sent _ _⟩

/-- A refusal that stops the requests is waited for. -/
theorem refused (henv : env.Clocked rules clock) (h : Spaced rules clock past p)
    (hreleased : Released rules clock past (clock s)) :
    Spaced rules clock (past ++ [.refused (p.refused rules env s).1 s])
        (p.refused rules env s).1 ∧
      Guarded rules clock (past ++ [.refused (p.refused rules env s).1 s])
        (p.refused rules env s).1 (clock (p.refused rules env s).2) := by
  have hadd (q : Pacer R) (hq : Spaced rules clock past q) :
      Spaced rules clock (past ++ [.refused q s]) q :=
    hq.add (fun _ _ h => nomatch h) fun _ h => nomatch h
  unfold Pacer.refused
  dsimp only
  split
  · rename_i hstop
    refine ⟨hadd _ (h.same h.delay rfl rfl), fun q w hq hstopped => ?_⟩
    have hnow := henv.clock_le_time s
    have hthen := henv.time_le_clock s
    rcases List.mem_append.mp hq with hq | hq
    · exact .inl (le_trans (hreleased q w hq hstopped) (le_trans hnow hthen))
    · cases List.mem_singleton.mp hq
      exact .inr ⟨hstop, add_le_add_left hnow _⟩
  · rename_i hstop
    refine ⟨hadd _ (h.same h.delay rfl rfl), fun q w hq hstopped => ?_⟩
    rcases List.mem_append.mp hq with hq | hq
    · exact .inl (hreleased q w hq hstopped)
    · cases List.mem_singleton.mp hq
      exact absurd hstopped hstop

end Spaced

variable [IsStrictOrderedRing R]

theorem Pacer.backoff_nonneg (h : rules.Nonneg) : ∀ attempt, 0 ≤ backoff rules attempt
  | 0 => h.basePause
  | attempt + 1 => mul_nonneg h.pauseGrowth (backoff_nonneg h attempt)

/-! ## Runs -/

/-- One attempt keeps what the next one needs, so all of them do. -/
theorem Spaced.attempts (hrules : rules.Nonneg) (henv : env.Clocked rules clock)
    {call : σ → Except Fault α × σ} (hcall : ∀ s, clock s ≤ clock (call s).2) :
    ∀ (left attempt : Nat) (past : List (Event σ R)) (p : Pacer R) (s : σ),
      Spaced rules clock past p → Guarded rules clock past p (clock s) →
      let run := Pacer.attemptsTraced rules origin env call left attempt p s
      Spaced rules clock (past ++ run.1) run.2.2.1 ∧
        Guarded rules clock (past ++ run.1) run.2.2.1 (clock run.2.2.2)
  | 0, _, past, p, s, h, hguarded => by
    simp only [Pacer.attemptsTraced, List.append_nil]
    exact ⟨h, hguarded⟩
  | left + 1, attempt, past, p, s, h, hguarded => by
    obtain ⟨h, hreleased⟩ := h.wait origin henv hguarded
    unfold Pacer.attemptsTraced
    generalize p.waitTraced rules origin env s = waited at h hreleased ⊢
    obtain ⟨events, p, s⟩ := waited
    have hlater := hcall s
    dsimp only at h hreleased ⊢
    generalize call s = answer at hlater ⊢
    obtain ⟨f | a, t⟩ := answer
    · dsimp only at hlater ⊢
      replace hreleased := hreleased.mono hlater
      split
      · obtain ⟨h, hguarded⟩ := h.refused henv hreleased
        generalize p.refused rules env t = counted at h hguarded ⊢
        obtain ⟨q, u⟩ := counted
        rw [List.append_assoc] at h hguarded
        split
        · exact ⟨h, hguarded⟩
        split
        · exact ⟨h, hguarded⟩
        · -- after the pause the next attempt begins as this one did
          have hfactor := henv.factor u
          have hpositive : 0 ≤ Pacer.backoff rules attempt *
              (env.factor rules.jitterLow rules.jitterHigh u).1 :=
            mul_nonneg (Pacer.backoff_nonneg hrules attempt)
              (le_trans hrules.jitterLow (henv.low_le_factor u))
          have hpause := henv.pause _ (env.factor rules.jitterLow rules.jitterHigh u).2 hpositive
          obtain ⟨hrefusals, hstop⟩ := q.refusals_widen rules
          have hnext := Spaced.attempts hrules henv hcall left (attempt + 1) _ (q.widen rules) _
            (h.widen.paused hpositive)
            ((hguarded.paused _).mono (by linarith) hrefusals.symm hstop.symm)
          simpa only [List.append_assoc, List.cons_append, List.nil_append] using hnext
      · exact ⟨h, hreleased.guarded p⟩
    · exact ⟨h.same h.delay rfl rfl, (hreleased.mono hlater).guarded _⟩

theorem Spaced.turn (hrules : rules.Nonneg) (henv : env.Clocked rules clock) {turn : Turn σ R α}
    (hturn : turn.Fair clock) (h : Spaced rules clock past p)
    (hguarded : Guarded rules clock past p (clock s)) :
    let run := turn.nextTraced rules origin env p s
    Spaced rules clock (past ++ run.1) run.2.1 ∧
      Guarded rules clock (past ++ run.1) run.2.1 (clock run.2.2) := by
  cases turn with
  | execute call retries =>
    exact Spaced.attempts hrules henv hturn (retries + 1).toNat 0 past p s h hguarded
  | setDelay delay =>
    simp only [Turn.nextTraced, List.append_nil]
    exact ⟨h.same hturn rfl rfl, hguarded⟩
  | resetDelay =>
    simp only [Turn.nextTraced, List.append_nil]
    exact ⟨h.same h.defaultDelay rfl rfl, hguarded⟩

variable (origin) in
/-- **Requests are kept apart.** In any run of turns with a pacer whose delays are not negative, each
request is sent at least the delay in force after every earlier one, none is sent before the pause is
over that follows too many refusals in a row, and no pause is negative. -/
theorem requests_are_spaced (hrules : rules.Nonneg) (henv : env.Clocked rules clock)
    (turns : List (Turn σ R α)) (hturns : ∀ turn ∈ turns, turn.Fair clock) (p : Pacer R)
    (hdelay : 0 ≤ p.delay) (hdefault : 0 ≤ p.defaultDelay) (s : σ) :
    let run := Turn.run rules origin env p s turns
    run.2 = turns.foldl (Turn.next rules origin env) (p, s) ∧
      run.1.Pairwise (Event.Apart rules clock) ∧ ∀ d, .paused d ∈ run.1 → 0 ≤ d := by
  intro run
  have hkept : Spaced rules clock run.1 run.2.1 ∧
      Guarded rules clock run.1 run.2.1 (clock run.2.2) := by
    refine List.foldlRecOn (motive := fun (run : List (Event σ R) × Pacer R × σ) =>
      Spaced rules clock run.1 run.2.1 ∧ Guarded rules clock run.1 run.2.1 (clock run.2.2)) turns _
      ⟨.start hdelay hdefault, fun _ _ h => nomatch h⟩ fun run h turn hturn => ?_
    exact h.1.turn hrules henv (hturns turn hturn) h.2
  exact ⟨Turn.run_snd turns p s, hkept.1.apart, hkept.1.pauses⟩

end

/-- The rules in force, in exact numbers. -/
def Rules.exact : Rules ℚ :=
  { basePause := 2
    pauseGrowth := 2
    maxGrowths := 1023
    delayGrowth := 3 / 2
    maxDelay := 10
    threshold := 5
    stopDuration := 60
    jitterLow := 9 / 10
    jitterHigh := 11 / 10 }

/-- Five refusals come in two turns. The request after them is sent sixty seconds after the fifth. -/
theorem requests_are_spaced_after_five_refusals :
    let env : Surroundings (ℚ × List (Except Fault Unit)) ℚ :=
      ⟨fun s => (s.1, s), fun d s => (s.1 + d, s.2), fun low _ s => (low, s)⟩
    let refusal : Except Fault Unit := .error (.reported .other "429".toList)
    let call : ℚ × List (Except Fault Unit) → Except Fault Unit × ℚ × List (Except Fault Unit) :=
      fun s => (s.2.headD (.ok ()), s.1, s.2.tail)
    let run := Turn.run .exact 0 env (.fresh 0 1) (1000, List.replicate 5 refusal)
      [.execute call 3, .execute call 3]
    (run.1.filterMap fun e => match e with | .sent p _ => some p.lastCall | _ => none) =
        [1000, 5009 / 5, 5027 / 5, 5063 / 5, 40639 / 40, 43039 / 40] ∧
      run.1.Pairwise (Event.Apart .exact Prod.fst) ∧ ∀ d, .paused d ∈ run.1 → 0 ≤ d := by
  intro env refusal call run
  have henv : env.Clocked .exact Prod.fst :=
    { clock_le_time := fun _ => le_refl _
      time_le_clock := fun _ => le_refl _
      pause := fun _ _ _ => le_refl _
      factor := fun _ => le_refl _
      low_le_factor := fun _ => le_refl _ }
  have hturns : ∀ turn ∈ [Turn.execute (R := ℚ) call 3, .execute call 3], turn.Fair Prod.fst := by
    simp [Turn.Fair, call]
  have hrules : Rules.exact.Nonneg := ⟨by decide, by decide, by norm_num [Rules.exact]⟩
  obtain ⟨_, hapart, hpauses⟩ := requests_are_spaced 0 hrules henv _ hturns (.fresh 0 1) (by decide)
    (by decide) (1000, List.replicate 5 refusal)
  exact ⟨by decide +kernel, hapart, hpauses⟩

end TexSplice.Pacing
