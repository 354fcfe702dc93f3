import Mathlib.Data.List.DropRight
import TexSplice.Proofs.Session.Asking

/-! # Runs of sessions

What a session gives back is decided by the answers it got, and only a failure of the generator that
is neither the service's nor a value's gets through it. The history is the list of what came back:
one record for each outcome since it was last cleared, and none for a failure that got through. -/
namespace TexSplice.Session

variable {σ : Type}

/-! ## One session -/

/-- An outcome that tells of a success and of nothing else. -/
structure Outcome.Succeeded (o : Outcome) (policy : Policy) (t : Task) (reply : Text) : Prop where
  success : o.success = true
  /-- What was applied is what carrying out the instruction with this reply gives. -/
  applied : ∃ a, o.applied? = some a ∧
    Request.carryOut t.instruction t.document (some reply) t.selection t.cursor (some t.intent) =
      .ok a
  reply : o.reply? = some reply
  report : o.report?.isSome = policy.checks
  error : o.error? = none
  fallback : o.fallback? = none

/-- An outcome that tells of a failure and of nothing else. -/
structure Outcome.Failed (o : Outcome) (document error : Text) : Prop where
  success : o.success = false
  reply : o.reply? = none
  applied : o.applied? = none
  report : o.report? = none
  error : o.error? = some error
  fallback : o.fallback? = some document

theorem Task.succeeded (t : Task) (policy : Policy) (id reply : Text) :
    (t.succeed policy id reply).Succeeded policy t reply where
  success := rfl
  applied := ⟨_, rfl, t.applied_known reply⟩
  reply := rfl
  report := by
    change (t.report policy _).isSome = policy.checks
    unfold Task.report
    cases policy.checks <;> rfl
  error := rfl
  fallback := rfl

theorem Task.failed (t : Task) (id : Text) (f : Fault) : (t.fail id f).Failed t.document f.message :=
  ⟨rfl, rfl, rfl, rfl, rfl, rfl⟩

/-- Giving up is no failure of the generator. -/
theorem getLast?_of_settled_error {emptyWillDo : Bool} {limit : Int} {a : Option Answer}
    {f : Fault} (h : settled emptyWillDo limit a = .error f) (hf : endsSession f = false) :
    a = some (.error f) := by
  have gaveUp : f ≠ .noReply limit := by
    rintro rfl
    cases hf
  cases a with
  | none => exact absurd (Except.error.inj h).symm gaveUp
  | some a =>
    cases a with
    | error e => rw [Except.error.inj h]
    | ok reply =>
      simp only [settled] at h
      split at h
      · cases h
      split at h
      · cases h
      · exact absurd (Except.error.inj h).symm gaveUp

namespace Desk

/-- A session on a desk that put a prompt to the generator and got some answers. -/
structure Conducts (d : Desk σ) (g : Generator σ) (policy : Policy) (t : Task) (prompt : Text)
    (as : List Answer) : Prop where
  prompted : t.prompt = .ok prompt
  /-- The generator was asked for these answers, and for nothing else. -/
  answered : answers g prompt as.length d.generator = (as, (d.run g policy t).2.generator)
  asked : Asked (t.intent.action == .delete) policy.maxAttempts.toNat as
  /-- What gets through a session is the failure of its last answer, and leaves no record. -/
  raised : ∀ f, (d.run g policy t).1 = .error f →
    as.getLast? = some (.error f) ∧ endsSession f = false ∧
      (d.run g policy t).2.history = d.history
  /-- A session that gives an outcome leaves one record, and what its answers come to is the reply
  of a success or the error of a failure. -/
  returned : ∀ o, (d.run g policy t).1 = .ok o →
    o.intent = t.intent ∧ (d.run g policy t).2.history = d.history ++ [o.record t.instruction] ∧
      match settled (t.intent.action == .delete) policy.maxAttempts as.getLast? with
      | .ok reply => o.Succeeded policy t reply
      | .error f => o.Failed t.document f.message ∧ endsSession f = true

/-- A session gives the outcome of a success, gives that of a failure, or passes a failure on. -/
theorem run_cases (d : Desk σ) (g : Generator σ) (policy : Policy) (t : Task) :
    (∃ reply o, (t.reply g policy d.generator).1 = .ok reply ∧
      o = t.succeed policy (idOf (d.count + 1)) reply ∧ (d.run g policy t).1 = .ok o ∧
      (d.run g policy t).2.history = d.history ++ [o.record t.instruction]) ∨
    (∃ f o, (t.reply g policy d.generator).1 = .error f ∧ endsSession f = true ∧
      o = t.fail (idOf (d.count + 1)) f ∧ (d.run g policy t).1 = .ok o ∧
      (d.run g policy t).2.history = d.history ++ [o.record t.instruction]) ∨
    ∃ f, (t.reply g policy d.generator).1 = .error f ∧ endsSession f = false ∧
      (d.run g policy t).1 = .error f ∧ (d.run g policy t).2.history = d.history := by
  cases hreply : (t.reply g policy d.generator).1 with
  | ok reply =>
    exact .inl ⟨reply, _, rfl, rfl, by simp [run_eq, hreply], by simp [run_eq, hreply, note]⟩
  | error f =>
    cases hends : endsSession f with
    | true =>
      exact .inr (.inl ⟨f, _, rfl, hends, rfl, by simp [run_eq, hreply, hends],
        by simp [run_eq, hreply, hends, note]⟩)
    | false =>
      exact .inr (.inr ⟨f, rfl, hends, by simp [run_eq, hreply, hends],
        by simp [run_eq, hreply, hends]⟩)

theorem generator_run (d : Desk σ) (g : Generator σ) (policy : Policy) (t : Task) :
    (d.run g policy t).2.generator = (t.reply g policy d.generator).2 := by
  cases hreply : (t.reply g policy d.generator).1 with
  | ok reply => simp [run_eq, hreply, note]
  | error f => cases hends : endsSession f <;> simp [run_eq, hreply, hends, note]

/-- Every session is of this kind, whatever the generator does. -/
theorem exists_conducts (d : Desk σ) (g : Generator σ) (policy : Policy) (t : Task) :
    ∃ prompt as, d.Conducts g policy t prompt as := by
  obtain ⟨prompt, as, hprompt, has, hasked, hsettled⟩ := t.reply_eq_settled g policy d.generator
  refine ⟨prompt, as, hprompt, by rw [generator_run, has], hasked, fun f hf => ?_, fun o ho => ?_⟩
  -- an answer that is passed on is no outcome, and the other way round
  all_goals
    obtain ⟨reply, o', hreply, rfl, hrun, hhistory⟩ | ⟨e, o', hreply, hends, rfl, hrun, hhistory⟩ |
      ⟨e, hreply, hends, hrun, hhistory⟩ := d.run_cases g policy t
  all_goals rw [hreply] at hsettled
  · cases hf.symm.trans hrun
  · cases hf.symm.trans hrun
  · cases hf.symm.trans hrun
    exact ⟨getLast?_of_settled_error hsettled.symm hends, hends, hhistory⟩
  · cases ho.symm.trans hrun
    rw [← hsettled]
    exact ⟨rfl, hhistory, t.succeeded policy _ reply⟩
  · cases ho.symm.trans hrun
    rw [← hsettled]
    exact ⟨rfl, hhistory, t.failed _ e, hends⟩
  · cases ho.symm.trans hrun

end Desk

/-! ## Many calls -/

inductive Call where
  | edit (t : Task)
  | clearHistory
deriving DecidableEq

inductive Turn where
  | edited (t : Task) (answer : Except Fault Outcome)
  | cleared

namespace Turn

def isEdit : Turn → Bool
  | edited .. => true
  | cleared => false

/-- The record of a session that gave an outcome. -/
def record? : Turn → Option Record
  | edited t (.ok o) => some (o.record t.instruction)
  | _ => none

end Turn

namespace Desk

def turn (d : Desk σ) (g : Generator σ) (policy : Policy) : Call → Turn × Desk σ
  | .edit t =>
    let (answer, d) := d.run g policy t
    (.edited t answer, d)
  | .clearHistory => (.cleared, d.clearHistory)

@[simp] theorem turn_edit (d : Desk σ) (g : Generator σ) (policy : Policy) (t : Task) :
    d.turn g policy (.edit t) = (.edited t (d.run g policy t).1, (d.run g policy t).2) := rfl

def turns (d : Desk σ) (g : Generator σ) (policy : Policy) : List Call → List Turn × Desk σ
  | [] => ([], d)
  | c :: cs =>
    let (turn, d) := d.turn g policy c
    let (turns, d) := d.turns g policy cs
    (turn :: turns, d)

theorem turns_concat (g : Generator σ) (policy : Policy) (c : Call) :
    ∀ (cs : List Call) (d : Desk σ), d.turns g policy (cs ++ [c]) =
      ((d.turns g policy cs).1 ++ [((d.turns g policy cs).2.turn g policy c).1],
        ((d.turns g policy cs).2.turn g policy c).2)
  | [], _ => rfl
  | b :: cs, d => by
    have ih := turns_concat g policy c cs (d.turn g policy b).2
    simp only [List.cons_append, turns, ih]

/-- A session adds its record, if it leaves one, and nothing else. -/
theorem history_run (d : Desk σ) (g : Generator σ) (policy : Policy) (t : Task) :
    (d.run g policy t).2.history =
      d.history ++ (Turn.edited t (d.run g policy t).1).record?.toList := by
  obtain ⟨_, _, h⟩ := d.exists_conducts g policy t
  cases hrun : (d.run g policy t).1 with
  | ok o => exact (h.returned o hrun).2.1
  | error f => exact (h.raised f hrun).2.2.trans (List.append_nil _).symm

/-- The history is the records of the sessions since it was last cleared. -/
theorem history_turns (g : Generator σ) (policy : Policy) (s : σ) (calls : List Call) :
    ((Desk.mk s 0 []).turns g policy calls).2.history =
      (((Desk.mk s 0 []).turns g policy calls).1.rtakeWhile Turn.isEdit).filterMap Turn.record? := by
  induction calls using List.reverseRecOn with
  | nil => rfl
  | append_singleton cs c ih =>
    rw [turns_concat, List.rtakeWhile_concat]
    cases c with
    | clearHistory => rfl
    | edit t =>
      simp only [turn_edit, Turn.isEdit, if_true]
      rw [List.filterMap_append, ← ih]
      exact history_run ..

end Desk

/-- **What a service of sessions does.** After any calls the history holds one record for each
session that gave an outcome since it was last cleared, in their order. And every session from there
on puts its own prompt to the generator until an answer is not blank, or as often as it may, and
only once if it deletes; it gives one outcome, which tells either of a success or of a failure that
leaves the document as it was, unless the generator failed in a way that sessions pass on. -/
theorem sessions_after_calls (g : Generator σ) (policy : Policy) (s : σ) (calls : List Call) :
    let run := (Desk.mk s 0 []).turns g policy calls
    run.2.history = (run.1.rtakeWhile Turn.isEdit).filterMap Turn.record? ∧
      ∀ t : Task, ∃ prompt as, run.2.Conducts g policy t prompt as :=
  ⟨Desk.history_turns g policy s calls, fun t => Desk.exists_conducts _ g policy t⟩

end TexSplice.Session
