import Mathlib.Data.ENat.Lattice
import TexSplice.Proofs.Pacing.Sending

/-! # How often a request is sent

Requests get the outcomes of a script, one after the other, and the first outcome that is no refusal
ends a call. What ends it else is the number of retries, or the pause before the next attempt, which
has doubled too often. -/
namespace TexSplice.Pacing

variable {σ R α : Type}

/-! ## Scripts -/

def isRefused : Except Fault α → Bool
  | .error f => isRefusal f
  | .ok _ => false

theorem exists_error_of_isRefused {outcome : Except Fault α} (h : isRefused outcome = true) :
    ∃ f, outcome = .error f := by
  cases outcome with
  | ok a => cases h
  | error f => exact ⟨f, rfl⟩

/-- The outcome of each request is told by the number of requests before it. -/
structure Scripted (env : Surroundings σ R) (call : σ → Except Fault α × σ) (sent : σ → Nat)
    (outcomes : Nat → Except Fault α) : Prop where
  keeps : env.Keeps sent
  outcome : ∀ s, (call s).1 = outcomes (sent s)
  sends : ∀ s, sent (call s).2 = sent s + 1

/-- The first outcome that is no refusal has place `k`, counted from one. The place is `⊤` if all
are refusals. -/
structure FirstAnswer (outcomes : Nat → Except Fault α) (k : ℕ∞) : Prop where
  pos : 0 < k
  refused : ∀ i : ℕ, (i + 1 : ℕ) < k → isRefused (outcomes i) = true
  answered : ∀ i : ℕ, k = (i + 1 : ℕ) → isRefused (outcomes i) = false

theorem exists_firstAnswer (outcomes : Nat → Except Fault α) : ∃ k, FirstAnswer outcomes k := by
  by_cases h : ∃ i, isRefused (outcomes i) = false
  · refine ⟨(Nat.find h + 1 : ℕ), ENat.natCast_lt_natCast.mpr (Nat.succ_pos _), fun i hi => ?_,
      fun i hi => ?_⟩
    · have hlt := Nat.lt_of_succ_lt_succ (ENat.natCast_lt_natCast.mp hi)
      exact Bool.eq_true_of_not_eq_false (Nat.find_min h hlt)
    · obtain rfl := Nat.succ.inj (ENat.natCast_inj.mp hi)
      exact Nat.find_spec h
  · refine ⟨⊤, ENat.top_pos, fun i _ => ?_, fun i hi => absurd hi (ENat.top_ne_natCast _)⟩
    exact Bool.eq_true_of_not_eq_false fun hi => h ⟨i, hi⟩

/-- A world of a clock and of the number of requests that have been sent. -/
def counting (R : Type) [Add R] : Surroundings (R × ℕ) R where
  time s := (s.1, s)
  pause d s := (s.1 + d, s.2)
  factor low _ s := (low, s)

/-- A request that gets the outcomes of a script. -/
def scripted (outcomes : ℕ → Except Fault α) (s : R × ℕ) : Except Fault α × R × ℕ :=
  (outcomes s.2, s.1, s.2 + 1)

theorem scripted_counting [Add R] (outcomes : ℕ → Except Fault α) :
    Scripted (counting R) (scripted outcomes) Prod.snd outcomes where
  keeps := ⟨fun _ => rfl, fun _ _ => rfl, fun _ _ _ => rfl⟩
  outcome _ := rfl
  sends _ := rfl

def refusedUntil (n i : ℕ) : Except Fault Unit :=
  if i < n then .error (.reported .other "429".toList) else .ok ()

theorem refusedUntil_firstAnswer (n : ℕ) : FirstAnswer (refusedUntil n) (n + 1 : ℕ) where
  pos := ENat.natCast_lt_natCast.mpr (Nat.succ_pos n)
  refused i hi := by
    rw [refusedUntil, if_pos (Nat.lt_of_succ_lt_succ (ENat.natCast_lt_natCast.mp hi))]
    decide +kernel
  answered i hi := by
    rw [refusedUntil, if_neg (Nat.succ.inj (ENat.natCast_inj.mp hi)).not_gt]
    rfl

/-- The same for a script from its first outcome on. -/
theorem firstAnswer_from_start (n : ℕ) :
    FirstAnswer (fun i => refusedUntil n (0 + i)) (n + 1 : ℕ) := by
  simp only [Nat.zero_add]
  exact refusedUntil_firstAnswer n

/-! ## What a call sends -/

variable [Add R] [Sub R] [Mul R] [LT R] [DecidableLT R]
  {rules : Rules R} {origin : R} {env : Surroundings σ R} {call : σ → Except Fault α × σ}
  {sent : σ → Nat} {outcomes : Nat → Except Fault α}

namespace Pacer

variable {left attempt : Nat} {p : Pacer R} {s t : σ}

/-- A request that is not refused is the last one. -/
theorem attempts_of_not_refused (left attempt : Nat) {outcome : Except Fault α}
    (hcall : call (p.wait rules origin env s).2 = (outcome, t)) (ho : isRefused outcome = false) :
    let run := attempts rules origin env call (left + 1) attempt p s
    run.1 = outcome.map some ∧ run.2.2 = t := by
  unfold attempts
  dsimp only
  rw [hcall]
  cases outcome with
  | ok a => exact ⟨rfl, rfl⟩
  | error f =>
    have hf : ¬ isRefusal f = true := Bool.eq_false_iff.mp ho
    dsimp only
    rw [if_neg hf]
    exact ⟨rfl, rfl⟩

/-- A refused request is the last one if no more are left, or if the next pause would be beyond all
numbers. -/
theorem attempts_of_refused {f : Fault}
    (hcall : call (p.wait rules origin env s).2 = (.error f, t)) (hf : isRefusal f = true) :
    let counted := (p.wait rules origin env s).1.refused rules env t
    attempts rules origin env call (left + 1) attempt p s =
      if left = 0 then (.error f, counted)
      else if rules.maxGrowths < attempt then (.error .endlessPause, counted)
      else
        let drawn := env.factor rules.jitterLow rules.jitterHigh counted.2
        attempts rules origin env call left (attempt + 1) (counted.1.widen rules)
          (env.pause (backoff rules attempt * drawn.1) drawn.2) := by
  intro counted
  conv_lhs => unfold attempts
  dsimp only
  rw [hcall]
  dsimp only
  rw [if_pos hf]

omit [Add R] [Mul R] in
variable (rules origin) in
theorem exists_call (h : Scripted env call sent outcomes) (p : Pacer R) (s : σ) :
    ∃ t, call (p.wait rules origin env s).2 = (outcomes (sent s), t) ∧ sent t = sent s + 1 := by
  have hcount := count_wait h.keeps rules origin p s
  refine ⟨_, Prod.ext ?_ rfl, ?_⟩
  · rw [h.outcome, hcount]
  · rw [h.sends, hcount]

/-- The request is the last one if none is left, if the next pause would be beyond all numbers, or
if it is not refused. -/
theorem attempts_of_last_now (h : Scripted env call sent outcomes) (p : Pacer R) (s : σ)
    (hlast : left = 0 ∨ rules.maxGrowths < attempt ∨ isRefused (outcomes (sent s)) = false) :
    let run := attempts rules origin env call (left + 1) attempt p s
    sent run.2.2 = sent s + 1 ∧
      run.1 = if isRefused (outcomes (sent s)) = true ∧ 0 < left then .error .endlessPause
        else (outcomes (sent s)).map some := by
  dsimp only
  obtain ⟨t, hcall, ht⟩ := exists_call rules origin h p s
  cases ho : isRefused (outcomes (sent s)) with
  | false =>
    obtain ⟨hresult, hworld⟩ := attempts_of_not_refused left attempt hcall ho
    rw [hresult, hworld, if_neg (Bool.false_ne_true ·.1)]
    exact ⟨ht, rfl⟩
  | true =>
    obtain ⟨f, hf⟩ := exists_error_of_isRefused ho
    have hcount := (count_refused h.keeps rules (p.wait rules origin env s).1 t).trans ht
    rw [hf] at hcall ho hlast ⊢
    rw [attempts_of_refused hcall ho]
    split
    · rename_i hleft
      rw [if_neg fun hlt => absurd hlt.2 (by omega)]
      exact ⟨hcount, rfl⟩
    split
    · rw [if_pos ⟨rfl, by omega⟩]
      exact ⟨hcount, rfl⟩
    · rcases hlast with hlast | hlast | hlast
      · contradiction
      · contradiction
      · rw [ho] at hlast
        cases hlast

/-- After a refusal that is not the last request the next one is sent. -/
theorem exists_attempts_next (h : Scripted env call sent outcomes) (p : Pacer R) (s : σ)
    (ho : isRefused (outcomes (sent s)) = true) (hleft : 0 < left)
    (hattempt : attempt ≤ rules.maxGrowths) :
    ∃ q u, sent u = sent s + 1 ∧ attempts rules origin env call (left + 1) attempt p s =
      attempts rules origin env call left (attempt + 1) q u := by
  obtain ⟨t, hcall, ht⟩ := exists_call rules origin h p s
  obtain ⟨f, hf⟩ := exists_error_of_isRefused ho
  have hcount := (count_refused h.keeps rules (p.wait rules origin env s).1 t).trans ht
  rw [hf] at hcall ho
  rw [attempts_of_refused hcall ho, if_neg hleft.ne', if_neg (Nat.not_lt.mpr hattempt)]
  refine ⟨_, _, ?_, rfl⟩
  rw [h.keeps.pause, h.keeps.factor, hcount]

/-- What ends a call after `n` refusals. -/
theorem attempts_of_last (h : Scripted env call sent outcomes) :
    ∀ (n left attempt : Nat) (p : Pacer R) (s : σ), n < left → attempt + n ≤ rules.maxGrowths + 1 →
      (∀ i < n, isRefused (outcomes (sent s + i)) = true) →
      (n + 1 = left ∨ attempt + n = rules.maxGrowths + 1 ∨
        isRefused (outcomes (sent s + n)) = false) →
      let run := attempts rules origin env call left attempt p s
      sent run.2.2 = sent s + (n + 1) ∧
        run.1 = if isRefused (outcomes (sent s + n)) = true ∧ n + 1 < left then .error .endlessPause
          else (outcomes (sent s + n)).map some
  | n, 0, _, _, _, hn, _, _, _ => absurd hn (Nat.not_lt_zero n)
  | 0, left + 1, attempt, p, s, _, hgrowths, _, hlast => by
    have hnow : left = 0 ∨ rules.maxGrowths < attempt ∨ isRefused (outcomes (sent s)) = false :=
      hlast.imp (by omega) (.imp_left (by omega))
    simpa only [Nat.zero_add, Nat.add_zero, Nat.lt_add_left_iff_pos] using
      attempts_of_last_now h p s hnow
  | n + 1, left + 1, attempt, p, s, hn, hgrowths, hrefused, hlast => by
    have hleft : 0 < left := by omega
    have hattempt : attempt ≤ rules.maxGrowths := by omega
    obtain ⟨q, u, hu, hnext⟩ :=
      exists_attempts_next h p s (hrefused 0 n.succ_pos) hleft hattempt
    have hshift (i : Nat) : sent u + i = sent s + (i + 1) := by omega
    have ih := attempts_of_last h n left (attempt + 1) q u (by omega) (by omega)
      (fun i hi => hshift i ▸ hrefused (i + 1) (by omega))
      (hshift n ▸ hlast.imp (by omega) (.imp_left (by omega)))
    dsimp only
    rw [hnext]
    simpa only [hshift, Nat.add_lt_add_iff_right] using ih

/-- The number of requests of a call, counted as a number from one. -/
theorem exists_requests {k : ℕ∞} (hk : 0 < k) (retries growths : ℕ) :
    ∃ n : ℕ, ((n + 1 : ℕ) : ℕ∞) = min (min k (retries + 1 : ℕ)) (growths + 2 : ℕ) := by
  obtain ⟨m, hm⟩ := ENat.ne_top_iff_exists.mp
    (ne_top_of_le_ne_top (ENat.natCast_ne_top (growths + 2))
      (min_le_right (min k (retries + 1 : ℕ)) _))
  have hpos : (0 : ℕ) < (m : ℕ∞) := by
    rw [hm]
    exact lt_min (lt_min hk (ENat.natCast_lt_natCast.mpr (Nat.succ_pos _)))
      (ENat.natCast_lt_natCast.mpr (Nat.succ_pos _))
  obtain ⟨n, rfl⟩ := Nat.exists_eq_succ_of_ne_zero (ENat.natCast_lt_natCast.mp hpos).ne'
  exact ⟨n, hm⟩

variable (rules origin) in
/-- A call sends as many requests as its script and its retries allow, but no more than pauses can
be made between. It ends with the outcome of the last one if none is missing. -/
theorem execute_of_firstAnswer (h : Scripted env call sent outcomes) {k : ℕ∞} (p : Pacer R) (s : σ)
    (retries : ℕ) (hk : FirstAnswer (fun i => outcomes (sent s + i)) k) :
    let run := p.execute rules origin env call retries s
    ∃ n : ℕ, sent run.2.2 = sent s + (n + 1) ∧
      ((n + 1 : ℕ) : ℕ∞) = min (min k (retries + 1 : ℕ)) (rules.maxGrowths + 2 : ℕ) ∧
      run.1 = if ((n + 1 : ℕ) : ℕ∞) = min k (retries + 1 : ℕ)
        then (outcomes (sent s + n)).map some else .error .endlessPause := by
  intro run
  obtain ⟨n, hn⟩ := exists_requests hk.pos retries rules.maxGrowths
  have hle : ((n + 1 : ℕ) : ℕ∞) ≤ min k (retries + 1 : ℕ) := hn ▸ min_le_left _ _
  have hretries : n + 1 ≤ retries + 1 := ENat.natCast_le_natCast.mp (hle.trans (min_le_right _ _))
  have hgrowths : n + 1 ≤ rules.maxGrowths + 2 := ENat.natCast_le_natCast.mp (hn ▸ min_le_right _ _)
  have hrefused : ∀ i < n, isRefused (outcomes (sent s + i)) = true := fun i hi =>
    hk.refused i ((ENat.natCast_lt_natCast.mpr (by omega)).trans_le (hle.trans (min_le_left _ _)))
  have hbudget (heq : ((n + 1 : ℕ) : ℕ∞) = min k (retries + 1 : ℕ)) :
      isRefused (outcomes (sent s + n)) = false ∨ n + 1 = retries + 1 :=
    (min_choice k (retries + 1 : ℕ)).imp (fun h => hk.answered n (heq.trans h).symm)
      fun h => ENat.natCast_inj.mp (heq.trans h)
  have hlast : n + 1 = retries + 1 ∨ 0 + n = rules.maxGrowths + 1 ∨
      isRefused (outcomes (sent s + n)) = false := by
    rcases min_choice (min k (retries + 1 : ℕ)) (rules.maxGrowths + 2 : ℕ) with h | h
    · exact (hbudget (hn.trans h)).elim (.inr ∘ .inr) .inl
    · have := ENat.natCast_inj.mp (hn.trans h)
      omega
  obtain ⟨hsent, hresult⟩ :=
    attempts_of_last h n (retries + 1) 0 p s (by omega) (by omega) hrefused hlast
  refine ⟨n, hsent, hn, hresult.trans ?_⟩
  by_cases heq : ((n + 1 : ℕ) : ℕ∞) = min k (retries + 1 : ℕ)
  · rw [if_pos heq, if_neg]
    rintro ⟨ho, hlt⟩
    rcases hbudget heq with h | h
    · rw [h] at ho
      cases ho
    · omega
  · have hlt := lt_of_le_of_ne hle heq
    rw [if_neg heq, if_pos]
    exact ⟨hk.refused n (hlt.trans_le (min_le_left _ _)),
      ENat.natCast_lt_natCast.mp (hlt.trans_le (min_le_right _ _))⟩

end Pacer

end TexSplice.Pacing
