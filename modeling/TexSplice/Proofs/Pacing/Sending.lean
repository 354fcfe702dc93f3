import TexSplice.Pacing.Basic

/-! # Requests behind a call

However often a request is refused, the first one is sent: pacing may wait before it, but does not
give up. What is counted of the world is counted by requests alone, for waiting does not change
it. -/
namespace TexSplice.Pacing

variable {σ R : Type}

/-- Looking at the clock, pausing and drawing a factor do not change a count. -/
structure Surroundings.Keeps (env : Surroundings σ R) (count : σ → Nat) : Prop where
  time : ∀ s, count (env.time s).2 = count s
  pause : ∀ d s, count (env.pause d s) = count s
  factor : ∀ low high s, count (env.factor low high s).2 = count s

namespace Pacer

variable {env : Surroundings σ R} {count : σ → Nat}

theorem count_refused [Add R] (h : env.Keeps count) (rules : Rules R) (p : Pacer R) (s : σ) :
    count (p.refused rules env s).2 = count s := by
  unfold refused
  dsimp only
  split
  · exact h.time s
  · rfl

variable [Sub R] [LT R] [DecidableLT R]

theorem count_awaitRelease (h : env.Keeps count) (rules : Rules R) (origin : R) (p : Pacer R)
    (s : σ) : count (p.awaitRelease rules origin env s).2 = count s := by
  unfold awaitRelease
  dsimp only
  split
  · rw [h.pause, h.time]
  · exact h.time s

theorem count_awaitDelay (h : env.Keeps count) (p : Pacer R) (s : σ) :
    count (p.awaitDelay env s) = count s := by
  unfold awaitDelay
  dsimp only
  split
  · rw [h.pause, h.time]
  · exact h.time s

theorem count_wait (h : env.Keeps count) (rules : Rules R) (origin : R) (p : Pacer R) (s : σ) :
    count (p.wait rules origin env s).2 = count s := by
  unfold wait
  dsimp only
  rw [h.time, count_awaitDelay h, count_awaitRelease h]

variable [Add R] [Mul R]

/-- If a request may be sent at all, it is sent. -/
theorem count_attempts_ge {α : Type} {call : σ → Except Fault α × σ} (h : env.Keeps count)
    (hcall : ∀ s, count (call s).2 = count s + 1) (rules : Rules R) (origin : R) :
    ∀ (left attempt : Nat) (p : Pacer R) (s : σ),
      count s + min left 1 ≤ count (attempts rules origin env call left attempt p s).2.2
  | 0, _, _, _ => Nat.le_refl _
  | left + 1, attempt, p, s => by
    have hsent : count (call (p.wait rules origin env s).2).2 = count s + 1 := by
      rw [hcall, count_wait h]
    have hmin : min (left + 1) 1 = 1 := Nat.min_eq_right (Nat.succ_le_succ (Nat.zero_le left))
    rw [hmin, ← hsent]
    unfold attempts
    dsimp only
    generalize call (p.wait rules origin env s).2 = answer
    obtain ⟨f | a, s₁⟩ := answer
    · dsimp only
      -- a refusal is counted, and what follows it counts on
      have hrefused := count_refused h rules (p.wait rules origin env s).1 s₁
      split
      · split
        · exact Nat.le_of_eq hrefused.symm
        split
        · exact Nat.le_of_eq hrefused.symm
        · refine Nat.le_trans ?_ (count_attempts_ge h hcall rules origin left ..)
          rw [h.pause, h.factor, hrefused]
          exact Nat.le_add_right ..
      · exact Nat.le_refl _
    · exact Nat.le_refl _

theorem count_execute_gt {α : Type} {call : σ → Except Fault α × σ} (h : env.Keeps count)
    (hcall : ∀ s, count (call s).2 = count s + 1) (rules : Rules R) (origin : R) {retries : Int}
    (hretries : 0 ≤ retries) (p : Pacer R) (s : σ) :
    count s < count (p.execute rules origin env call retries s).2.2 := by
  have hge := count_attempts_ge h hcall rules origin (retries + 1).toNat 0 p s
  rwa [Nat.min_eq_right (by omega)] at hge

/-- If a request may be sent at all, it is answered or fails. -/
theorem exists_attempts {α : Type} (call : σ → Except Fault α × σ) (rules : Rules R) (origin : R) :
    ∀ (left attempt : Nat) (p : Pacer R) (s : σ), 0 < left →
      ∃ answer : Except Fault α,
        (attempts rules origin env call left attempt p s).1 = answer.map some
  | 0, _, _, _, h => absurd h (Nat.lt_irrefl 0)
  | left + 1, attempt, p, s, _ => by
    unfold attempts
    dsimp only
    generalize call (p.wait rules origin env s).2 = answer
    obtain ⟨f | a, s₁⟩ := answer
    · dsimp only
      split
      · split
        · exact ⟨.error f, rfl⟩
        split
        · exact ⟨.error .endlessPause, rfl⟩
        · rename_i hleft _
          exact exists_attempts call rules origin left _ _ _ (Nat.pos_of_ne_zero hleft)
      · exact ⟨.error f, rfl⟩
    · exact ⟨.ok a, rfl⟩

theorem exists_execute {α : Type} (call : σ → Except Fault α × σ) (rules : Rules R) (origin : R)
    {retries : Int} (hretries : 0 ≤ retries) (p : Pacer R) (s : σ) :
    ∃ answer : Except Fault α,
      (p.execute rules origin env call retries s).1 = answer.map some :=
  exists_attempts call rules origin (retries + 1).toNat 0 p s (by omega)

end Pacer

end TexSplice.Pacing
