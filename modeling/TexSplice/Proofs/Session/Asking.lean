import TexSplice.Proofs.Session.Steps

/-! # How often a session asks

A session puts one prompt to the generator again and again. The answers it gets on the way say all
about how it ends: blank ones up to the last, which is the first that is not blank, or the last one
that the session was allowed. -/
namespace TexSplice.Session

variable {σ : Type}

abbrev Answer := Except Fault (Option Text)

/-- Whether an answer is a reply with nothing in it. -/
def Answer.isBlank : Answer → Bool
  | .ok reply => Text.allBlank (reply.getD [])
  | .error _ => false

/-- The answers to a prompt that is put to a generator a number of times, and its state after
them. -/
def answers (g : Generator σ) (prompt : Text) : Nat → σ → List Answer × σ
  | 0, s => ([], s)
  | n + 1, s =>
    let (a, s) := g prompt s
    let (as, s) := answers g prompt n s
    (a :: as, s)

/-- The answers of a session that may ask up to `limit` times. It goes on after blank ones only,
and where an empty reply will do it does not go on at all. -/
structure Asked (emptyWillDo : Bool) (limit : Nat) (as : List Answer) : Prop where
  le : as.length ≤ limit
  blank : ∀ a ∈ as.dropLast, a.isBlank = true
  once : emptyWillDo = true → as.length ≤ 1
  /-- It gives up before its limit only at an answer that it can use. -/
  stopped : as.length < limit → ∃ a ∈ as.getLast?, a.isBlank = true → emptyWillDo = true

/-- What the last answer comes to. -/
def settled (emptyWillDo : Bool) (limit : Int) : Option Answer → Except Fault Text
  | none => .error (.noReply limit)
  | some (.error f) => .error f
  | some (.ok reply) =>
    let reply := reply.getD []
    if !Text.allBlank reply then .ok reply
    else if emptyWillDo then .ok []
    else .error (.noReply limit)

theorem Asked.singleton {emptyWillDo : Bool} {left : Nat} {a : Answer}
    (h : a.isBlank = true → emptyWillDo = true) : Asked emptyWillDo (left + 1) [a] where
  le := Nat.succ_le_succ (Nat.zero_le left)
  blank := by simp
  once _ := Nat.le_refl 1
  stopped _ := ⟨a, rfl, h⟩

/-- After a blank answer that does not do, the next ones decide. -/
theorem Asked.cons {left : Nat} {a : Answer} {as : List Answer} (ha : a.isBlank = true)
    (h : Asked false left as) : Asked false (left + 1) (a :: as) where
  le := Nat.succ_le_succ h.le
  blank := by
    cases as with
    | nil => simp
    | cons b bs =>
      rw [List.dropLast_cons_cons]
      exact List.forall_mem_cons.mpr ⟨ha, h.blank⟩
  once := nofun
  stopped hlt := by
    obtain ⟨b, hb, hstop⟩ := h.stopped (Nat.lt_of_succ_lt_succ hlt)
    refine ⟨b, ?_, hstop⟩
    rw [List.getLast?_cons, Option.mem_def.mp hb]
    rfl

theorem settled_cons_of_blank {limit : Int} {a : Answer} (as : List Answer)
    (ha : a.isBlank = true) :
    settled false limit (a :: as).getLast? = settled false limit as.getLast? := by
  rw [List.getLast?_cons]
  cases as.getLast? with
  | some b => rfl
  | none =>
    cases a with
    | error f => cases ha
    | ok reply =>
      have hb : Text.allBlank (reply.getD []) = true := ha
      simp [settled, hb]

/-- Asking puts the prompt to the generator as often as `Asked` says, and to nothing else. -/
theorem ask_eq_settled (g : Generator σ) (prompt : Text) (emptyWillDo : Bool) (limit : Int)
    (left : Nat) (s : σ) :
    ∃ as, answers g prompt as.length s = (as, (ask g prompt emptyWillDo limit left s).2) ∧
      Asked emptyWillDo left as ∧
      (ask g prompt emptyWillDo limit left s).1 = settled emptyWillDo limit as.getLast? := by
  induction left generalizing s with
  | zero => exact ⟨[], rfl, ⟨Nat.le_refl 0, by simp, fun _ => Nat.zero_le 1, by simp⟩, rfl⟩
  | succ left ih =>
    obtain ⟨a, s₁, hg⟩ : ∃ a s₁, g prompt s = (a, s₁) := ⟨_, _, rfl⟩
    have one : answers g prompt 1 s = ([a], s₁) := by simp [answers, hg]
    cases a with
    | error f =>
      refine ⟨[.error f], ?_, .singleton nofun, ?_⟩ <;> simp [ask, hg, one, settled]
    | ok reply =>
      cases hb : Text.allBlank (reply.getD []) with
      | false =>
        refine ⟨[.ok reply], ?_, .singleton fun h => ?_, ?_⟩
        · simp [ask, hg, hb, one]
        · exact absurd (hb.symm.trans h) Bool.false_ne_true
        · simp [ask, hg, hb, settled]
      | true =>
        cases emptyWillDo with
        | true =>
          refine ⟨[.ok reply], ?_, .singleton fun _ => rfl, ?_⟩
          · simp [ask, hg, hb, one]
          · simp [ask, hg, hb, settled]
        | false =>
          obtain ⟨as, has, hasked, hsettled⟩ := ih s₁
          have hask : ask g prompt false limit (left + 1) s = ask g prompt false limit left s₁ := by
            simp [ask, hg, hb]
          refine ⟨.ok reply :: as, ?_, hasked.cons hb, ?_⟩
          · rw [List.length_cons, answers, hg]
            simp only [has, hask]
          · rw [hask, hsettled]
            exact (settled_cons_of_blank (a := .ok reply) as hb).symm

/-- How often a session asks, and what comes of it. -/
theorem Task.reply_eq_settled (t : Task) (g : Generator σ) (policy : Policy) (s : σ) :
    ∃ prompt as, t.prompt = .ok prompt ∧
      answers g prompt as.length s = (as, (t.reply g policy s).2) ∧
      Asked (t.intent.action == .delete) policy.maxAttempts.toNat as ∧
      (t.reply g policy s).1 =
        settled (t.intent.action == .delete) policy.maxAttempts as.getLast? := by
  obtain ⟨prompt, hp⟩ := t.exists_prompt
  rw [t.reply_of_prompt hp]
  obtain ⟨as, h⟩ := ask_eq_settled g prompt (t.intent.action == .delete) policy.maxAttempts
    policy.maxAttempts.toNat s
  exact ⟨prompt, as, hp, h⟩

end TexSplice.Session
