import Mathlib.Data.List.Infix
import TexSplice.Command.Edit
import TexSplice.Pacing.Rehearsal
import TexSplice.Proofs.Client.Complete
import TexSplice.Proofs.Session.Generators

/-! # When a prompt is asked again

A session asks again after a BLANK reply, but a client stores every reply that is not EMPTY. Over
any run of sessions a prompt is sent to the service exactly until a reply to it had a character in
it; from then on the store answers. So an empty reply is asked for again, and one of blanks alone is
given again as it is, however often the session asks. -/
namespace TexSplice

open Command (generatorOf)
open Session (Exchange Desk Policy Call recorded)

variable {σ R : Type}

namespace Client

def exchangeEntry (c : Client) (x : Exchange) : Text := c.entry x.prompt Prompt.systemText

/-- An exchange whose reply goes into a file. -/
structure Fills (c : Client) (file reply : Text) (x : Exchange) : Prop where
  entry : c.exchangeEntry x = file
  replied : x.reply = .ok (some reply)
  nonempty : reply ≠ []

/-- What the exchanges so far say about a file that was not there before them. -/
structure Tracks (c : Client) (file : Text) (store : Store) (log : List Exchange) : Prop where
  /-- The file holds a reply that was given, or was not written yet. -/
  held : (store.file? file = none ∧ ∀ y ∈ log, ∀ reply, ¬ c.Fills file reply y) ∨
    ∃ reply, store.file? file = some (some (.text reply)) ∧ ∃ y ∈ log, c.Fills file reply y
  /-- Requests were sent as long as the file was not written. -/
  asked : ∀ before x, before ++ [x] <+: log → c.exchangeEntry x = file →
    (x.requests = 0 ↔ ∃ y ∈ before, ∃ reply, c.Fills file reply y)

variable {c : Client} {file : Text}

theorem Tracks.start {store : Store} (hfile : store.file? file = none) : c.Tracks file store [] where
  held := .inl ⟨hfile, by simp⟩
  asked before x h _ := by simp at h

theorem Tracks.append {store store' : Store} {log : List Exchange} {x : Exchange}
    (h : c.Tracks file store log)
    (held : (store'.file? file = none ∧ ∀ y ∈ log ++ [x], ∀ reply, ¬ c.Fills file reply y) ∨
      ∃ reply, store'.file? file = some (some (.text reply)) ∧
        ∃ y ∈ log ++ [x], c.Fills file reply y)
    (asked : c.exchangeEntry x = file →
      (x.requests = 0 ↔ ∃ y ∈ log, ∃ reply, c.Fills file reply y)) :
    c.Tracks file store' (log ++ [x]) where
  held := held
  asked := by
    intro before y hprefix hy
    rcases List.prefix_concat_iff.mp hprefix with heq | hprefix
    · obtain ⟨rfl, hlast⟩ := List.append_inj' heq rfl
      cases hlast
      exact asked hy
    · exact h.asked before y hprefix hy

/-- The file stays unwritten if the exchange has nothing for it. -/
theorem Tracks.append_unwritten {store store' : Store} {log : List Exchange} {x : Exchange}
    (h : c.Tracks file store log) (hfile : store'.file? file = none)
    (hlog : ∀ y ∈ log, ∀ reply, ¬ c.Fills file reply y) (hx : ∀ reply, ¬ c.Fills file reply x)
    (asked : c.exchangeEntry x = file → x.requests ≠ 0) : c.Tracks file store' (log ++ [x]) := by
  refine h.append (.inl ⟨hfile, ?_⟩) fun he => ?_
  · intro y hy
    rcases List.mem_append.mp hy with hy | hy
    · exact hlog y hy
    · rw [List.mem_singleton.mp hy]
      exact hx
  · refine iff_of_false (asked he) ?_
    rintro ⟨y, hy, reply, hfills⟩
    exact hlog y hy reply hfills

variable [Add R] [Sub R] [Mul R] [LT R] [DecidableLT R] {access : Access σ R}
  {requests : σ → Nat} {s : Shared σ R} {log : List Exchange}

/-- The client as a generator that writes down its exchanges with the requests for each. -/
def recordedGenerator (c : Client) (access : Access σ R) (requests : σ → Nat) :
    Session.Generator (Shared σ R × List Exchange) :=
  recorded (generatorOf c access) fun s => requests s.world

theorem Tracks.step_unwritten (hc : c.useStore = true) (haccess : access.Counts requests)
    (h : c.Tracks file s.store log) {prompt : Text} (hentry : c.entry prompt Prompt.systemText = file)
    (hfile : s.store.file? file = none) (hlog : ∀ y ∈ log, ∀ reply, ¬ c.Fills file reply y) :
    let next := c.recordedGenerator access requests prompt (s, log)
    c.Tracks file next.2.1.store next.2.2 := by
  subst hentry
  obtain ⟨hsent, hstore⟩ := complete_of_none haccess hfile
  simp only [recordedGenerator, recorded, generatorOf]
  generalize c.complete access prompt Prompt.systemText s = done at hsent hstore ⊢
  obtain ⟨answer, s'⟩ := done
  dsimp only at hsent hstore ⊢
  have hrequests : requests s'.world - requests s.world ≠ 0 := by omega
  cases answer with
  | error f =>
    refine h.append_unwritten (hstore ▸ hfile) hlog (fun reply hfills => ?_) fun _ => hrequests
    cases hfills.replied
  | ok reply =>
    simp only [keep_eq, hc, Bool.true_and] at hstore
    cases reply with
    | nil =>
      refine h.append_unwritten (hstore ▸ hfile) hlog (fun reply hfills => ?_) fun _ => hrequests
      cases hfills.replied
      exact hfills.nonempty rfl
    | cons a rest =>
      have hput : s'.store.file? (c.entry prompt Prompt.systemText) =
          some (some (.text (a :: rest))) := by
        rw [hstore]
        exact Store.file?_put_self ..
      refine h.append (.inr ⟨_, hput, _, List.mem_concat_self, rfl, rfl, List.cons_ne_nil a rest⟩)
        fun _ => iff_of_false hrequests ?_
      rintro ⟨y, hy, reply, hfills⟩
      exact hlog y hy reply hfills

/-- What an exchange does to a file is told by the list with that exchange. -/
theorem Tracks.step (hc : c.useStore = true) (haccess : access.Counts requests)
    (h : c.Tracks file s.store log) (prompt : Text) :
    let next := c.recordedGenerator access requests prompt (s, log)
    c.Tracks file next.2.1.store next.2.2 := by
  by_cases hentry : c.entry prompt Prompt.systemText = file
  · rcases h.held with ⟨hfile, hlog⟩ | ⟨reply, hfile, y, hy, hfills⟩
    · exact h.step_unwritten hc haccess hentry hfile hlog
    · -- the reply is in the file, so nothing is asked
      subst hentry
      simp only [recordedGenerator, recorded, generatorOf, complete_of_text hc hfile, Nat.sub_self]
      have hmem : y ∈ log ++ [⟨prompt, .ok (some reply), 0⟩] := List.mem_append_left _ hy
      exact h.append (.inr ⟨reply, hfile, y, hmem, hfills⟩)
        fun _ => iff_of_true rfl ⟨y, hy, reply, hfills⟩
  · -- another file is asked about
    have hframe : (c.complete access prompt Prompt.systemText s).2.store.file? file =
        s.store.file? file := file?_complete_of_ne (Ne.symm hentry)
    simp only [recordedGenerator, recorded, generatorOf]
    generalize c.complete access prompt Prompt.systemText s = done at hframe ⊢
    rcases h.held with ⟨hfile, hlog⟩ | ⟨reply, hfile, y, hy, hfills⟩
    · refine h.append_unwritten (hframe.trans hfile) hlog (fun reply hfills => ?_) fun he => ?_
      · exact hentry hfills.entry
      · exact absurd he hentry
    · refine h.append (.inr ⟨reply, hframe.trans hfile, y, List.mem_append_left _ hy, hfills⟩)
        fun he => absurd he hentry

/-- After any calls the list of the exchanges tells of every file that was not there at first. -/
theorem tracks_turns (hc : c.useStore = true) (haccess : access.Counts requests) (policy : Policy)
    (s : Shared σ R) (calls : List Call) (hfile : s.store.file? file = none) :
    let run := (Desk.mk (s, []) 0 []).turns (c.recordedGenerator access requests) policy calls
    c.Tracks file run.2.generator.1.store run.2.generator.2 :=
  Desk.turns_invariant (P := fun (sl : Shared σ R × List Exchange) => c.Tracks file sl.1.store sl.2)
    (fun prompt _ h => h.step hc haccess prompt) policy calls _ (.start hfile)

/-- **A prompt is asked again exactly until a reply had a character in it.** In any run of sessions
with a client that stores replies, a prompt that had no file at first leads to a request unless an
earlier reply for its file was not empty. Then the store answers, also where that reply was blank
and the session asked again for another. -/
theorem requests_eq_zero_iff_reply_kept (c : Client) (access : Access σ R) (requests : σ → Nat)
    (hc : c.useStore = true) (haccess : access.Counts requests) (policy : Policy) (s : Shared σ R)
    (calls : List Call) :
    let run := (Desk.mk (s, []) 0 []).turns (c.recordedGenerator access requests) policy calls
    run.1 = ((Desk.mk s 0 []).turns (generatorOf c access) policy calls).1 ∧
      ∀ before x, before ++ [x] <+: run.2.generator.2 → s.store.file? (c.exchangeEntry x) = none →
        (x.requests = 0 ↔ ∃ y ∈ before, ∃ reply, c.Fills (c.exchangeEntry x) reply y) := by
  intro run
  refine ⟨Desk.turns_recorded .., fun before x hprefix hfile => ?_⟩
  exact (tracks_turns hc haccess policy s calls hfile).asked before x hprefix rfl

/-- The empty reply is asked for again, and the request is sent. -/
theorem empty_reply_is_asked_again :
    let c : Client := ⟨"key".toList, true, Settings.defaultModel, Settings.defaultTemperature⟩
    let access : Access (Pacing.Rehearsal Nat ChatAnswer) Nat :=
      .rehearsed ⟨2, 2, 1023, 1, 10, 5, 60, 1, 1⟩ 0 1 (.ok .none)
    let s : Shared (Pacing.Rehearsal Nat ChatAnswer) Nat :=
      ⟨{}, .fresh 0 0, ⟨0, [], [.ok (.text (some [])), .ok (.text (some ['!']))], [], [], 0⟩⟩
    let t : Session.Task := ⟨"Hi".toList, "make it better".toList, none, some 2⟩
    let run := (Desk.mk (s, []) 0 []).turns (c.recordedGenerator access Pacing.Rehearsal.calls) {}
      [.edit t]
    ∃ x y, run.2.generator.2 = [x, y] ∧ x.reply = .ok (some []) ∧ y.requests ≠ 0 := by
  intro c access s t run
  have hreplies : run.2.generator.2.map Exchange.reply = [.ok (some []), .ok (some ['!'])] := by
    decide +kernel
  obtain ⟨x, y, hlog⟩ : ∃ x y, run.2.generator.2 = [x, y] :=
    List.length_eq_two.mp (by simpa using congrArg List.length hreplies)
  rw [hlog] at hreplies
  obtain ⟨hx, _⟩ := List.cons_eq_cons.mp hreplies
  have hprefix : [x] ++ [y] <+: run.2.generator.2 := by
    rw [hlog]
    exact List.prefix_refl _
  refine ⟨x, y, hlog, hx, fun hy => ?_⟩
  obtain ⟨_, hlaw⟩ := requests_eq_zero_iff_reply_kept c access Pacing.Rehearsal.calls rfl
    (Access.counts_rehearsed ..) {} s [.edit t]
  have hfile (name : Text) : s.store.file? name = none := rfl
  unfold run at hprefix
  obtain ⟨z, hz, reply, hfills⟩ := (hlaw [x] y hprefix (hfile _)).mp hy
  rw [List.mem_singleton.mp hz] at hfills
  cases hx.symm.trans hfills.replied
  exact hfills.nonempty rfl

/-- A reply of one blank is stored, so the two more times that the session asks it gets the same,
and no request is sent. -/
theorem blank_reply_is_given_again :
    let c : Client := ⟨"key".toList, true, Settings.defaultModel, Settings.defaultTemperature⟩
    let access : Access (Pacing.Rehearsal Nat ChatAnswer) Nat :=
      .rehearsed ⟨2, 2, 1023, 1, 10, 5, 60, 1, 1⟩ 0 1 (.ok .none)
    let s : Shared (Pacing.Rehearsal Nat ChatAnswer) Nat :=
      ⟨{}, .fresh 0 0, ⟨0, [], [.ok (.text (some [' '])), .ok (.text (some ['!']))], [], [], 0⟩⟩
    let t : Session.Task := ⟨"Hi".toList, "make it better".toList, none, some 2⟩
    let run := (Desk.mk (s, []) 0 []).turns (c.recordedGenerator access Pacing.Rehearsal.calls) {}
      [.edit t]
    ∃ x y, [x, y] <+: run.2.generator.2 ∧ y.prompt = x.prompt ∧ x.reply.isBlank = true ∧
      y.requests = 0 := by
  intro c access s t run
  obtain ⟨prompt, hprompt⟩ := t.exists_prompt
  have hnone : s.store.file? (c.entry prompt Prompt.systemText) = none := by rfl
  obtain ⟨pacer, world, hsent⟩ : ∃ pacer world,
      s.pacer.execute access.rules access.origin access.surroundings
        (access.send (c.request prompt Prompt.systemText)) Pacing.defaultRetries s.world =
          (.ok (some (.text (some [' ']))), pacer, world) := ⟨_, _, rfl⟩
  -- the first reply goes into the file, from which the others come
  have hkept : (c.keep prompt Prompt.systemText [' '] s.store).file?
      (c.entry prompt Prompt.systemText) = some (some (.text [' '])) := by
    rw [keep_eq]
    exact Store.file?_put_self ..
  let s₁ : Shared (Pacing.Rehearsal Nat ChatAnswer) Nat :=
    ⟨c.keep prompt Prompt.systemText [' '] s.store, pacer, world⟩
  have hfirst : c.recordedGenerator access Pacing.Rehearsal.calls prompt (s, []) =
      (.ok (some [' ']), s₁, [⟨prompt, .ok (some [' ']), world.calls - s.world.calls⟩]) := by
    simp only [recordedGenerator, recorded, generatorOf, complete_of_answer hnone hsent]
    rfl
  have hagain (log : List Exchange) :
      c.recordedGenerator access Pacing.Rehearsal.calls prompt (s₁, log) =
        (.ok (some [' ']), s₁, log ++ [⟨prompt, .ok (some [' ']), 0⟩]) := by
    simp only [recordedGenerator, recorded, generatorOf, complete_of_text (s := s₁) rfl hkept,
      Nat.sub_self]
    rfl
  have haction : (t.intent.action == .delete) = false := by decide +kernel
  have hblank : Text.allBlank [' '] = true := by decide
  have hlog : run.2.generator =
      (t.reply (c.recordedGenerator access Pacing.Rehearsal.calls) {} (s, [])).2 := by
    unfold run
    simp only [Desk.turns, Desk.turn_edit]
    exact Desk.generator_run ..
  have hthree : ({} : Policy).maxAttempts.toNat = 3 := by decide
  rw [hlog, t.reply_of_prompt hprompt]
  simp only [hthree, haction, Session.ask, hfirst, hagain, Option.getD_some, hblank]
  exact ⟨_, _, List.prefix_append _ _, rfl, rfl, rfl⟩

end Client

end TexSplice
