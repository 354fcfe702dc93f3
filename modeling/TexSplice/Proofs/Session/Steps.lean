import TexSplice.Proofs.Apply.Trace
import TexSplice.Session.Basic

/-! # The steps of a session

No step that could be refused ever is, so a session fails at its generator or not at all: it is told
by what the generator said in the end. The record that it leaves says what its outcome says. -/
namespace TexSplice

/-- With an outline of the document itself a prompt is always made. -/
theorem Prompt.Ask.exists_prompt (a : Prompt.Ask) :
    ∃ prompt, a.prompt (Outline.ofText a.document) = .ok prompt := by
  have hsubject : ∃ subject, a.subject (Outline.ofText a.document) = .ok subject := by
    unfold Prompt.Ask.subject
    split
    · split
      · exact ⟨_, rfl⟩
      · rw [Outline.locate_ofText]
        exact ⟨_, rfl⟩
    · exact ⟨_, rfl⟩
  obtain ⟨subject, h⟩ := hsubject
  exact ⟨_, by rw [Prompt.Ask.prompt, h]; rfl⟩

namespace Session

variable {σ : Type}

namespace Task

/-! ## Up to the reply -/

def outline (t : Task) : Outline := Outline.ofText t.document

def intent (t : Task) : Intent := .ofInstruction t.instruction t.outline t.selection

def known (t : Task) : Brief :=
  ⟨t, t.outline, t.intent, Check.addsSection t.document (some t.intent)⟩

theorem brief_eq (t : Task) : t.brief = .ok t.known := by
  have hadds := Check.addsSectionGuarded_eq t.document (some t.intent)
  rw [brief, Outline.read_eq]
  change (Check.addsSectionGuarded t.document (some t.intent) >>= _) = _
  rw [hadds]
  rfl

theorem prompt_eq (t : Task) : t.prompt = t.known.prompt := by
  rw [prompt, brief_eq]
  rfl

theorem exists_prompt (t : Task) : ∃ prompt, t.prompt = .ok prompt := by
  rw [prompt_eq]
  exact Prompt.Ask.exists_prompt _

/-- What the generator says to a task in the end, and its state after that. -/
def reply (t : Task) (g : Generator σ) (policy : Policy) (s : σ) : Except Fault Text × σ :=
  match t.brief with
  | .error f => (.error f, s)
  | .ok b => b.reply g policy s

theorem reply_of_prompt {t : Task} {prompt : Text} (h : t.prompt = .ok prompt) (g : Generator σ)
    (policy : Policy) (s : σ) : t.reply g policy s =
      ask g prompt (t.intent.action == .delete) policy.maxAttempts policy.maxAttempts.toNat s := by
  rw [prompt_eq] at h
  simp only [reply, brief_eq, Brief.reply, h]
  rfl

/-! ## From the reply on -/

def request (t : Task) (reply : Text) : Request :=
  ⟨t.document, reply, t.intent, t.selection, t.cursor⟩

theorem applied_known (t : Task) (reply : Text) :
    t.known.applied reply = .ok (t.request reply).apply :=
  Request.carryOut_eq ..

theorem edit_known (t : Task) (g : Generator σ) (policy : Policy) (s : σ) :
    t.known.edit g policy s =
      ((t.reply g policy s).1.map fun reply => (reply, (t.request reply).apply),
        (t.reply g policy s).2) := by
  have hreply : t.reply g policy s = t.known.reply g policy s := by rw [reply, brief_eq]
  rw [hreply, Brief.edit]
  rcases t.known.reply g policy s with ⟨_ | reply, s'⟩
  · rfl
  · simp only [applied_known]
    rfl

def report (t : Task) (policy : Policy) (a : Applied) : Option Check.Report :=
  if policy.checks then
    some (Check.report t.document a.patch.document
      (Check.addsSection t.document (some t.intent)))
  else none

theorem report_known (t : Task) (policy : Policy) (a : Applied) :
    t.known.report policy a = .ok (t.report policy a) := by
  rw [Brief.report, report, Check.reportGuarded_eq]
  split <;> rfl

end Task

/-! ## Outcomes and their records -/

def Task.succeed (t : Task) (policy : Policy) (id reply : Text) : Outcome :=
  let a := (t.request reply).apply
  t.known.succeed id reply a (t.report policy a)

def Task.fail (t : Task) (id : Text) (f : Fault) : Outcome := t.known.fail id f

/-- What an outcome is to leave in the history. -/
def Outcome.record (o : Outcome) (instruction : Text) : Record :=
  { id := o.id
    instruction
    success := o.success
    action := o.intent.action
    target := o.intent.target
    strategy := o.applied?.map Applied.strategy
    error := o.error? }

namespace Desk

/-- What the generator says in the end decides a session. -/
theorem run_eq (d : Desk σ) (g : Generator σ) (policy : Policy) (t : Task) :
    d.run g policy t =
      let id := idOf (d.count + 1)
      let (reply, s) := t.reply g policy d.generator
      let d := { d with generator := s, count := d.count + 1 }
      match reply with
      | .ok reply =>
        let o := t.succeed policy id reply
        (.ok o, d.note (o.record t.instruction))
      | .error f =>
        if endsSession f then
          let o := t.fail id f
          (.ok o, d.note (o.record t.instruction))
        else (.error f, d) := by
  simp only [run, Task.brief_eq, Task.edit_known]
  rcases t.reply g policy d.generator with ⟨f | reply, s⟩
  · rfl
  · simp only [Except.map, Task.report_known]
    rfl

end Desk

end Session

end TexSplice
