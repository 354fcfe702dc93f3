import TexSplice.Proofs.Session.History

/-! # Runs and their generator

The sessions of a run touch the generator's state only by putting prompts to it. So what holds of
that state and is kept by every answer holds after any run; and a generator that carries more along
with its state, but gives the same answers, leads to the same run. -/
namespace TexSplice.Session

variable {σ τ : Type}

/-! ## Invariants -/

section Invariants

variable {g : Generator σ} {P : σ → Prop} (hstep : ∀ prompt s, P s → P (g prompt s).2)
include hstep

theorem answers_invariant (prompt : Text) : ∀ (n : Nat) (s : σ), P s → P (answers g prompt n s).2
  | 0, _, h => h
  | n + 1, s, h => answers_invariant prompt n (g prompt s).2 (hstep prompt s h)

theorem Desk.run_invariant (d : Desk σ) (policy : Policy) (t : Task) (h : P d.generator) :
    P (d.run g policy t).2.generator := by
  obtain ⟨prompt, as, hrun⟩ := d.exists_conducts g policy t
  have has : (answers g prompt as.length d.generator).2 = (d.run g policy t).2.generator :=
    congrArg Prod.snd hrun.answered
  rw [← has]
  exact answers_invariant hstep prompt as.length d.generator h

/-- What every answer keeps holds after any calls. -/
theorem Desk.turns_invariant (policy : Policy) :
    ∀ (calls : List Call) (d : Desk σ), P d.generator → P (d.turns g policy calls).2.generator
  | [], _, h => h
  | .edit t :: calls, d, h => turns_invariant policy calls _ (d.run_invariant hstep policy t h)
  | .clearHistory :: calls, d, h => turns_invariant policy calls d.clearHistory h

end Invariants

/-! ## Generators that answer the same -/

/-- The desk with another state of the generator. -/
def Desk.map (f : τ → σ) (d : Desk τ) : Desk σ := ⟨f d.generator, d.count, d.history⟩

section Simulation

variable {g : Generator σ} {g' : Generator τ} {f : τ → σ}
  (hf : ∀ prompt s, g prompt (f s) = ((g' prompt s).1, f (g' prompt s).2))
include hf

theorem ask_map (prompt : Text) (emptyWillDo : Bool) (limit : Int) :
    ∀ (left : Nat) (s : τ), ask g prompt emptyWillDo limit left (f s) =
      ((ask g' prompt emptyWillDo limit left s).1, f (ask g' prompt emptyWillDo limit left s).2)
  | 0, _ => rfl
  | left + 1, s => by
    obtain ⟨a, s₁, hg⟩ : ∃ a s₁, g' prompt s = (a, s₁) := ⟨_, _, rfl⟩
    have hgf : g prompt (f s) = (a, f s₁) := by rw [hf, hg]
    cases a with
    | error e => simp only [ask, hg, hgf]
    | ok reply =>
      simp only [ask, hg, hgf]
      split
      · rfl
      split
      · rfl
      · exact ask_map prompt emptyWillDo limit left s₁

theorem Task.reply_map (t : Task) (policy : Policy) (s : τ) :
    t.reply g policy (f s) = ((t.reply g' policy s).1, f (t.reply g' policy s).2) := by
  obtain ⟨prompt, hp⟩ := t.exists_prompt
  rw [t.reply_of_prompt hp, t.reply_of_prompt hp]
  exact ask_map hf ..

theorem Desk.run_map (d : Desk τ) (policy : Policy) (t : Task) :
    (d.map f).run g policy t = ((d.run g' policy t).1, (d.run g' policy t).2.map f) := by
  simp only [run_eq, map, Task.reply_map hf]
  split
  · rfl
  · split <;> rfl

theorem Desk.turn_map (policy : Policy) (c : Call) (d : Desk τ) :
    (d.map f).turn g policy c = ((d.turn g' policy c).1, (d.turn g' policy c).2.map f) := by
  cases c with
  | edit t => simp only [turn_edit, run_map hf]
  | clearHistory => rfl

/-- The same answers lead to the same turns. -/
theorem Desk.turns_map (policy : Policy) : ∀ (calls : List Call) (d : Desk τ),
    (d.map f).turns g policy calls =
      ((d.turns g' policy calls).1, (d.turns g' policy calls).2.map f)
  | [], _ => rfl
  | c :: calls, d => by simp only [turns, turn_map hf, turns_map policy calls]

end Simulation

/-! ## Generators that are written down -/

/-- A prompt that was put to a generator. -/
structure Exchange where
  prompt : Text
  reply : Answer
  /-- How much was counted on the way. -/
  requests : Nat

/-- The generator with a list of what was put to it, and of what it did by some count. -/
def recorded (g : Generator σ) (requests : σ → Nat) : Generator (σ × List Exchange) :=
  fun prompt (s, log) =>
    let (reply, s') := g prompt s
    (reply, s', log ++ [⟨prompt, reply, requests s' - requests s⟩])

/-- Writing down changes nothing. -/
theorem Desk.turns_recorded (g : Generator σ) (requests : σ → Nat) (policy : Policy)
    (calls : List Call) (s : σ) (log : List Exchange) :
    ((Desk.mk (s, log) 0 []).turns (recorded g requests) policy calls).1 =
      ((Desk.mk s 0 []).turns g policy calls).1 :=
  (congrArg Prod.fst (turns_map (f := Prod.fst) (fun _ _ => rfl) policy calls
    (Desk.mk (s, log) 0 []))).symm

end TexSplice.Session
