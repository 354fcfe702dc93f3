import Mathlib.Data.List.Chain
import Mathlib.Order.MinMax
import TexSplice.Proofs.Pacing.Budget
import TexSplice.Proofs.Pacing.Spacing

/-! # Refusals are counted and widen the delay

The refusals that a pacer counts, and its delay, are written down whenever something happens that
may change them. A log grows in few ways, and what is said of all logs is proved for each way. -/
namespace TexSplice.Pacing

variable {σ R α : Type}

/-! ## Logs -/

inductive Happening where
  | made
  /-- Requests were stopped, and the pause for it is over. -/
  | released
  | answered
  | refused
  | failed
  /-- After a refusal another attempt is made. -/
  | again
deriving DecidableEq

/-- Whether the refusals are counted anew. -/
def Happening.resets : Happening → Bool
  | made | released | answered => true
  | refused | failed | again => false

/-- What happened, and what the pacer had then. -/
structure Note (R : Type) where
  what : Happening
  refusals : Int
  delay : R
deriving DecidableEq

/-- The number of refusals since they were last counted anew. -/
def refusalsSince (log : List (Note R)) : Nat :=
  ((log.map Note.what).reverse.takeWhile (!·.resets)).count .refused

theorem refusalsSince_concat (log : List (Note R)) (n : Note R) :
    refusalsSince (log ++ [n]) =
      if n.what.resets then 0
      else if n.what = .refused then refusalsSince log + 1 else refusalsSince log := by
  unfold refusalsSince
  rw [List.map_append, List.reverse_append, List.map_singleton, List.reverse_singleton,
    List.singleton_append, List.takeWhile_cons]
  cases n.what with
  | refused => exact List.count_cons_self
  | _ => rfl

namespace Pacer

def note (what : Happening) (p : Pacer R) : Note R := ⟨what, p.refusals, p.delay⟩

section
variable [LT R] [DecidableLT R]

def isStopped (rules : Rules R) (env : Surroundings σ R) (p : Pacer R) (s : σ) : Bool :=
  rules.threshold ≤ p.refusals ∧ (env.time s).1 < p.stoppedUntil

variable [Sub R] (rules : Rules R) (origin : R) (env : Surroundings σ R) (p : Pacer R) (s : σ)

theorem wait_refusals : (p.wait rules origin env s).1.refusals =
    if p.isStopped rules env s then 0 else p.refusals := by
  unfold wait awaitRelease isStopped
  dsimp only
  simp only [decide_eq_true_eq]
  split <;> rfl

@[simp] theorem wait_delay : (p.wait rules origin env s).1.delay = p.delay := by
  unfold wait awaitRelease
  dsimp only
  split <;> rfl

end

theorem refused_refusals [Add R] (rules : Rules R) (env : Surroundings σ R) (p : Pacer R) (s : σ) :
    (p.refused rules env s).1.refusals = p.refusals + 1 := by
  unfold refused
  dsimp only
  split <;> rfl

@[simp] theorem refused_delay [Add R] (rules : Rules R) (env : Surroundings σ R) (p : Pacer R)
    (s : σ) : (p.refused rules env s).1.delay = p.delay := by
  unfold refused
  dsimp only
  split <;> rfl

def attemptsNoted [Add R] [Sub R] [Mul R] [LT R] [DecidableLT R] (rules : Rules R) (origin : R)
    (env : Surroundings σ R) (call : σ → Except Fault α × σ) :
    (left attempt : Nat) → Pacer R → σ → List (Note R) × Except Fault (Option α) × Pacer R × σ
  | 0, _, p, s => ([], .ok none, p, s)
  | left + 1, attempt, p, s =>
    let stopped := p.isStopped rules env s
    let (p, s) := p.wait rules origin env s
    let waited := if stopped then [p.note .released] else []
    match call s with
    | (.ok a, s) =>
      let p := { p with refusals := 0 }
      (waited ++ [p.note .answered], .ok (some a), p, s)
    | (.error f, s) =>
      if isRefusal f then
        let (p, s) := p.refused rules env s
        let notes := waited ++ [p.note .refused]
        if left = 0 then (notes, .error f, p, s)
        else if rules.maxGrowths < attempt then (notes, .error .endlessPause, p, s)
        else
          let (factor, s) := env.factor rules.jitterLow rules.jitterHigh s
          let p := p.widen rules
          let (more, outcome) := attemptsNoted rules origin env call left (attempt + 1) p
            (env.pause (backoff rules attempt * factor) s)
          (notes ++ p.note .again :: more, outcome)
      else (waited ++ [p.note .failed], .error f, p, s)

end Pacer

structure Call (σ α : Type) where
  send : σ → Except Fault α × σ
  retries : Nat

def Call.turn (c : Call σ α) : Turn σ R α := .execute c.send c.retries

section
variable [Add R] [Sub R] [Mul R] [LT R] [DecidableLT R]

/-- Calls one after the other with a new pacer, and their log. -/
def callsNoted (rules : Rules R) (origin : R) (env : Surroundings σ R) (delay : R) (s : σ)
    (calls : List (Call σ α)) : List (Note R) × Pacer R × σ :=
  calls.foldl (fun (past, p, s) c =>
    let (notes, _, state) := Pacer.attemptsNoted rules origin env c.send (c.retries + 1) 0 p s
    (past ++ notes, state))
    ([(Pacer.fresh origin delay).note .made], .fresh origin delay, s)

variable {rules : Rules R} {origin : R} {env : Surroundings σ R}

/-- Keeping a log changes nothing. -/
theorem Pacer.attemptsNoted_snd (call : σ → Except Fault α × σ) :
    ∀ (left attempt : Nat) (p : Pacer R) (s : σ),
      (attemptsNoted rules origin env call left attempt p s).2 =
        attempts rules origin env call left attempt p s
  | 0, _, _, _ => rfl
  | left + 1, attempt, p, s => by
    unfold attemptsNoted attempts
    dsimp only
    generalize call (p.wait rules origin env s).2 = answer
    obtain ⟨f | a, t⟩ := answer
    · dsimp only
      split
      · split
        · rfl
        split
        · rfl
        · exact attemptsNoted_snd call left ..
      · rfl
    · rfl

theorem callsNoted_snd (delay : R) (s : σ) (calls : List (Call σ α)) :
    (callsNoted rules origin env delay s calls).2 =
      (calls.map Call.turn).foldl (Turn.next rules origin env) (.fresh origin delay, s) := by
  unfold callsNoted
  rw [List.foldl_map]
  refine (List.foldl_hom Prod.snd fun run c => ?_).symm
  exact congrArg Prod.snd (Pacer.attemptsNoted_snd c.send (c.retries + 1) 0 run.2.1 run.2.2).symm

end

/-! ## How a log grows -/

/-- The logs of a pacer that began with a delay. -/
inductive Logged [Mul R] [LT R] [DecidableLT R] (rules : Rules R) (initial : R) :
    List (Note R) → Pacer R → Prop
  | made {p : Pacer R} (hrefusals : p.refusals = 0) (hdelay : p.delay = initial) :
    Logged rules initial [p.note .made] p
  /-- The times that a pacer knows of are in no note. -/
  | timed {log : List (Note R)} {p q : Pacer R} (h : Logged rules initial log p)
    (hrefusals : q.refusals = p.refusals) (hdelay : q.delay = p.delay) : Logged rules initial log q
  | reset {log : List (Note R)} {p q : Pacer R} {what : Happening} (h : Logged rules initial log p)
    (hresets : what.resets = true) (hrefusals : q.refusals = 0) (hdelay : q.delay = p.delay) :
    Logged rules initial (log ++ [q.note what]) q
  | refused {log : List (Note R)} {p q : Pacer R} (h : Logged rules initial log p)
    (hrefusals : q.refusals = p.refusals + 1) (hdelay : q.delay = p.delay) :
    Logged rules initial (log ++ [q.note .refused]) q
  | failed {log : List (Note R)} {p : Pacer R} (h : Logged rules initial log p) :
    Logged rules initial (log ++ [p.note .failed]) p
  | again {log : List (Note R)} {p : Pacer R}
    (h : Logged rules initial (log ++ [p.note .refused]) p) :
    Logged rules initial (log ++ [p.note .refused] ++ [(p.widen rules).note .again]) (p.widen rules)

section
variable [Sub R] [Mul R] [LT R] [DecidableLT R]
  {rules : Rules R} {env : Surroundings σ R} {initial : R} {past : List (Note R)}

variable (origin : R) (env) in
/-- The end of a stop is noted. -/
theorem Logged.wait {p : Pacer R} (h : Logged rules initial past p) (s : σ) :
    let waited := (p.wait rules origin env s).1
    Logged rules initial (past ++ if p.isStopped rules env s then [waited.note .released] else [])
      waited := by
  intro waited
  have hrefusals := p.wait_refusals rules origin env s
  have hdelay := p.wait_delay rules origin env s
  split
  · rename_i hstopped
    rw [if_pos hstopped] at hrefusals
    exact h.reset rfl hrefusals hdelay
  · rename_i hstopped
    rw [if_neg hstopped] at hrefusals
    rw [List.append_nil]
    exact h.timed hrefusals hdelay

variable [Add R] {origin : R}

theorem Logged.attempts (call : σ → Except Fault α × σ) :
    ∀ (left attempt : Nat) (past : List (Note R)) (p : Pacer R) (s : σ),
      Logged rules initial past p →
      let run := Pacer.attemptsNoted rules origin env call left attempt p s
      Logged rules initial (past ++ run.1) run.2.2.1
  | 0, _, past, p, s, h => by
    simp only [Pacer.attemptsNoted, List.append_nil]
    exact h
  | left + 1, attempt, past, p, s, h => by
    replace h := h.wait env origin s
    dsimp only at h
    unfold Pacer.attemptsNoted
    dsimp only
    generalize (if p.isStopped rules env s then _ else _ : List (Note R)) = waited at h ⊢
    generalize p.wait rules origin env s = before at h ⊢
    obtain ⟨p, s⟩ := before
    dsimp only at h ⊢
    generalize call s = answer
    obtain ⟨f | a, t⟩ := answer
    · dsimp only
      split
      · replace h := h.refused (p.refused_refusals rules env t) (p.refused_delay rules env t)
        generalize p.refused rules env t = counted at h ⊢
        obtain ⟨q, u⟩ := counted
        rw [List.append_assoc] at h
        split
        · exact h
        split
        · exact h
        · rw [← List.append_assoc] at h
          have hnext := Logged.attempts call left (attempt + 1) _ _
            (env.pause (Pacer.backoff rules attempt *
              (env.factor rules.jitterLow rules.jitterHigh u).1)
              (env.factor rules.jitterLow rules.jitterHigh u).2) h.again
          simpa only [List.append_assoc, List.cons_append, List.nil_append] using hnext
      · rw [← List.append_assoc]
        exact h.failed
    · rw [← List.append_assoc]
      exact h.reset rfl rfl rfl

theorem Logged.calls (delay : R) (s : σ) (calls : List (Call σ α)) :
    let run := callsNoted rules origin env delay s calls
    Logged rules delay run.1 run.2.1 := by
  refine List.foldlRecOn (motive := fun (run : List (Note R) × Pacer R × σ) =>
    Logged rules delay run.1 run.2.1) calls _ (.made rfl rfl) fun run h c _ => ?_
  exact h.attempts c.send (c.retries + 1) 0 run.1 run.2.1 run.2.2

end

/-! ## What holds of all logs -/

/-- At every note, and now, the pacer's refusals are those since they were last counted anew. -/
structure Counted (log : List (Note R)) (p : Pacer R) : Prop where
  noted : ∀ (past : List (Note R)) (n : Note R), past ++ [n] <+: log →
    n.refusals = refusalsSince (past ++ [n])
  now : p.refusals = refusalsSince log

theorem Counted.concat {log : List (Note R)} {p q : Pacer R} (h : Counted log p)
    {what : Happening} (hq : q.refusals = refusalsSince (log ++ [q.note what])) :
    Counted (log ++ [q.note what]) q where
  noted past n hprefix := by
    rcases List.prefix_concat_iff.mp hprefix with heq | hprefix
    · obtain ⟨rfl, hlast⟩ := List.append_inj' heq rfl
      cases hlast
      exact hq
    · exact h.noted past n hprefix
  now := hq

theorem Logged.counted [Mul R] [LT R] [DecidableLT R] {rules : Rules R} {initial : R}
    {log : List (Note R)} {p : Pacer R} (h : Logged rules initial log p) : Counted log p := by
  induction h with
  | made hrefusals hdelay =>
    have hstart : Counted [] _ := ⟨fun past n h => by simp at h, hrefusals⟩
    exact hstart.concat hrefusals
  | timed h hrefusals hdelay ih => exact ⟨ih.noted, hrefusals.trans ih.now⟩
  | @reset log p q what h hresets hrefusals hdelay ih =>
    refine ih.concat ?_
    rw [refusalsSince_concat, Pacer.note, if_pos hresets]
    exact hrefusals
  | refused h hrefusals hdelay ih =>
    refine ih.concat ?_
    rw [refusalsSince_concat, hrefusals, ih.now]
    rfl
  | failed h ih =>
    refine ih.concat ?_
    rw [refusalsSince_concat]
    exact ih.now
  | @again log p h ih =>
    refine ih.concat ?_
    rw [refusalsSince_concat, (p.refusals_widen rules).1]
    exact ih.now

section
variable [Mul R] [LinearOrder R]

theorem Pacer.widen_delay (rules : Rules R) (p : Pacer R) :
    (p.widen rules).delay = max p.delay (min (p.delay * rules.delayGrowth) rules.maxDelay) := by
  unfold widen
  extract_lets grown bounded
  have hbounded : bounded = min grown rules.maxDelay := by
    rw [min_comm, min_def_lt]
  rw [← hbounded]
  split
  · rename_i hlt
    exact (max_eq_right hlt.le).symm
  · rename_i hlt
    exact (max_eq_left (not_lt.mp hlt)).symm

/-- How the delay follows from the note before: it changes after a refusal that is followed by
another attempt, and then grows up to its bound unless it is beyond that. -/
def Note.Follows (rules : Rules R) (m n : Note R) : Prop :=
  if n.what = .again then
    m.what = .refused ∧ n.delay = max m.delay (min (m.delay * rules.delayGrowth) rules.maxDelay)
  else n.delay = m.delay

/-- The delay never shrinks and stays within its bound, or the delay at the beginning if that is
beyond it. -/
structure Widened (rules : Rules R) (initial : R) (log : List (Note R)) (p : Pacer R) : Prop where
  follows : log.IsChain (Note.Follows rules)
  grows : log.Pairwise fun m n => m.delay ≤ n.delay
  bounded : ∀ n ∈ log, n.delay ≤ max initial rules.maxDelay
  now : ∃ n, log.getLast? = some n ∧ p.delay = n.delay

namespace Widened

variable {rules : Rules R} {initial : R} {log : List (Note R)} {p q : Pacer R} {what : Happening}

theorem le (h : Widened rules initial log p) : ∀ n ∈ log, n.delay ≤ p.delay := by
  obtain ⟨last, hlast, hdelay⟩ := h.now
  obtain ⟨past, rfl⟩ := List.getLast?_eq_some_iff.mp hlast
  rw [hdelay]
  intro n hn
  rcases List.mem_append.mp hn with hn | hn
  · exact (List.pairwise_append.mp h.grows).2.2 n hn last (List.mem_singleton_self last)
  · rw [List.mem_singleton.mp hn]

theorem le_bound (h : Widened rules initial log p) : p.delay ≤ max initial rules.maxDelay := by
  obtain ⟨last, hlast, hdelay⟩ := h.now
  exact hdelay ▸ h.bounded last (List.mem_of_getLast? hlast)

theorem concat (h : Widened rules initial log p)
    (hfollows : ∀ m ∈ log.getLast?, m.Follows rules (q.note what)) (hle : p.delay ≤ q.delay)
    (hbound : q.delay ≤ max initial rules.maxDelay) :
    Widened rules initial (log ++ [q.note what]) q where
  follows := List.isChain_append.mpr ⟨h.follows, .singleton _, fun m hm n hn => by
    cases hn
    exact hfollows m hm⟩
  grows := List.pairwise_append.mpr ⟨h.grows, List.pairwise_singleton .., fun m hm n hn => by
    rw [List.mem_singleton.mp hn]
    exact (h.le m hm).trans hle⟩
  bounded n hn := by
    rcases List.mem_append.mp hn with hn | hn
    · exact h.bounded n hn
    · rw [List.mem_singleton.mp hn]
      exact hbound
  now := ⟨_, List.getLast?_concat, rfl⟩

/-- A note of the same delay. -/
theorem same (h : Widened rules initial log p) (hwhat : what ≠ .again)
    (hdelay : q.delay = p.delay) : Widened rules initial (log ++ [q.note what]) q := by
  refine h.concat (fun m hm => ?_) hdelay.ge (hdelay ▸ h.le_bound)
  obtain ⟨last, hlast, hlastDelay⟩ := h.now
  cases hlast.symm.trans hm
  exact (if_neg hwhat).mpr (hdelay.trans hlastDelay)

/-- A wider delay after a refusal. -/
theorem again (h : Widened rules initial (log ++ [p.note .refused]) p) :
    Widened rules initial (log ++ [p.note .refused] ++ [(p.widen rules).note .again])
      (p.widen rules) := by
  have hwiden := p.widen_delay rules
  refine h.concat (fun m hm => ?_) (hwiden ▸ le_max_left _ _) ?_
  · cases List.getLast?_concat.symm.trans hm
    exact (if_pos rfl).mpr ⟨rfl, hwiden⟩
  · rw [hwiden]
    exact max_le h.le_bound ((min_le_right _ _).trans (le_max_right _ _))

end Widened

theorem Logged.widened {rules : Rules R} {initial : R} {log : List (Note R)} {p : Pacer R}
    (h : Logged rules initial log p) : Widened rules initial log p := by
  induction h with
  | made hrefusals hdelay =>
    exact ⟨.singleton _, List.pairwise_singleton .., fun n hn => by
      rw [List.mem_singleton.mp hn]
      exact hdelay.le.trans (le_max_left _ _), ⟨_, rfl, rfl⟩⟩
  | timed h hrefusals hdelay ih =>
    obtain ⟨last, hlast, hlastDelay⟩ := ih.now
    exact ⟨ih.follows, ih.grows, ih.bounded, last, hlast, hdelay.trans hlastDelay⟩
  | reset h hresets hrefusals hdelay ih =>
    exact ih.same (fun hwhat => by subst hwhat; cases hresets) hdelay
  | refused h hrefusals hdelay ih => exact ih.same (by decide) hdelay
  | failed h ih => exact ih.same (by decide) rfl
  | again h ih => exact ih.again

end

/-! ## Calls -/

/-- **What calls send, count and delay.** A call of any pacer sends as many requests as there are up
to the first answer, or as its retries allow if these are fewer, and ends with the outcome of the
last one. Only where a pause would be beyond all numbers does it fail before. In any run of calls
with a new pacer, the refusals it has are those since the latest answer or the latest end of a stop.
In a linear order its delay never shrinks, stays within its bound, and widens after each refusal
that is followed by another attempt and nowhere else. -/
theorem calls_are_counted [Add R] [Sub R] [Mul R] [LT R] [DecidableLT R] (rules : Rules R)
    (origin : R) (env : Surroundings σ R) :
    (∀ (call : σ → Except Fault α × σ) (sent : σ → ℕ) (outcomes : ℕ → Except Fault α),
      Scripted env call sent outcomes →
        ∀ (p : Pacer R) (s : σ) (retries : ℕ),
          let script := fun i => outcomes (sent s + i)
          let run := p.execute rules origin env call retries s
          (∃ k, FirstAnswer script k) ∧ ∀ k, FirstAnswer script k →
            ∃ n : ℕ, sent run.2.2 = sent s + (n + 1) ∧
              ((n + 1 : ℕ) : ℕ∞) = min (min k (retries + 1 : ℕ)) (rules.maxGrowths + 2 : ℕ) ∧
              run.1 = if ((n + 1 : ℕ) : ℕ∞) = min k (retries + 1 : ℕ)
                then (script n).map some else .error .endlessPause) ∧
      (∀ (delay : R) (s : σ) (calls : List (Call σ α)),
        let run := callsNoted rules origin env delay s calls
        run.2 = (calls.map Call.turn).foldl (Turn.next rules origin env) (.fresh origin delay, s) ∧
          Counted run.1 run.2.1) ∧
      ∀ {Q : Type} [Add Q] [Sub Q] [Mul Q] [LinearOrder Q] (rules : Rules Q) (origin : Q)
        (env : Surroundings σ Q) (delay : Q) (s : σ) (calls : List (Call σ α)),
        let run := callsNoted rules origin env delay s calls
        run.2 = (calls.map Call.turn).foldl (Turn.next rules origin env) (.fresh origin delay, s) ∧
          Widened rules delay run.1 run.2.1 := by
  refine ⟨fun call sent outcomes h p s retries => ⟨?_, fun k hk => ?_⟩,
    fun delay s calls => ⟨?_, ?_⟩, ?_⟩
  · exact exists_firstAnswer _
  · exact p.execute_of_firstAnswer rules origin h s retries hk
  · exact callsNoted_snd delay s calls
  · exact (Logged.calls delay s calls).counted
  · intro Q _ _ _ _ rules origin env delay s calls
    exact ⟨callsNoted_snd delay s calls, (Logged.calls delay s calls).widened⟩

/-- The third request is answered. The delay has been widened twice then. -/
theorem calls_are_counted_after_two_refusals :
    let send := scripted (R := ℚ) (refusedUntil 2)
    let run := (Pacer.fresh 0 1).execute Rules.exact 0 (counting ℚ) send 3 (0, 0)
    (∃ n : ℕ, run.2.2.2 = 0 + (n + 1) ∧
      ((n + 1 : ℕ) : ℕ∞) = min (min (2 + 1 : ℕ) (3 + 1 : ℕ)) (1023 + 2 : ℕ) ∧
      run.1 = if ((n + 1 : ℕ) : ℕ∞) = min (2 + 1 : ℕ) (3 + 1 : ℕ)
        then (refusedUntil 2 (0 + n)).map some else .error .endlessPause) ∧
      (callsNoted Rules.exact 0 (counting ℚ) 1 (0, 0) [⟨send, 3⟩]).1 =
        [⟨.made, 0, 1⟩, ⟨.refused, 1, 1⟩, ⟨.again, 1, 3 / 2⟩, ⟨.refused, 2, 3 / 2⟩,
          ⟨.again, 2, 9 / 4⟩, ⟨.answered, 0, 9 / 4⟩] := by
  obtain ⟨hsent, _⟩ := calls_are_counted (α := Unit) .exact 0 (counting ℚ)
  obtain ⟨_, hbudget⟩ := hsent _ _ _ (scripted_counting _) (.fresh 0 1) (0, 0) 3
  exact ⟨hbudget _ (firstAnswer_from_start 2), by decide +kernel⟩

/-- After 1025 refusals another request would be answered, and the retries allow it. It is not
sent. -/
theorem answer_is_not_awaited :
    FirstAnswer (refusedUntil 1025) (1025 + 1 : ℕ) ∧
      let run := (Pacer.fresh 0 1).execute Rules.standard 0 (counting Float)
        (scripted (refusedUntil 1025)) (1025 : ℕ) (0, 0)
      run.2.2.2 = 1025 ∧ run.1 = .error .endlessPause := by
  refine ⟨refusedUntil_firstAnswer 1025, ?_⟩
  obtain ⟨n, hsent, hn, hresult⟩ := (Pacer.fresh 0 1).execute_of_firstAnswer .standard 0
    (scripted_counting _) (0, 0) 1025 (firstAnswer_from_start 1025)
  -- else the run is unfolded
  generalize Pacer.execute (R := Float) _ _ _ _ _ _ _ = run at hsent hresult ⊢
  have hle : Rules.standard.maxGrowths + 2 ≤ 1025 + 1 := Nat.le_succ 1025
  rw [min_self, min_eq_right (ENat.natCast_le_natCast.mpr hle)] at hn
  obtain rfl : n = 1024 := Nat.succ.inj (ENat.natCast_inj.mp hn)
  have hne : ((1024 + 1 : ℕ) : ℕ∞) ≠ min (1025 + 1 : ℕ) (1025 + 1 : ℕ) := by
    rw [min_self]
    exact fun h => absurd (ENat.natCast_inj.mp h) (by decide)
  exact ⟨hsent.trans (Nat.zero_add 1025), hresult.trans (if_neg hne)⟩

end TexSplice.Pacing
