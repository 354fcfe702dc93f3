import TexSplice.Client
import TexSplice.Pacing.Rehearsal
import TexSplice.Proofs.Pacing.Sending
import TexSplice.Proofs.Store.Names

/-! # One call of a client

A client has one file for a question. If there is a reply in it, the reply is given and nothing is
asked; if there is no such file, at least one request is sent, and a reply that is not empty goes
into the file. Files for other questions stay as they are. -/
namespace TexSplice

variable {σ R : Type}

/-- A number that tells how many requests a world has seen. -/
structure Client.Access.Counts (access : Client.Access σ R) (requests : σ → Nat) : Prop where
  sends : ∀ request s, requests (access.send request s).2 = requests s + 1
  keeps : access.surroundings.Keeps requests

/-- A way to a service whose answers come from a script, each at once. -/
def Client.Access.rehearsed [Add R] (rules : Pacing.Rules R) (zero one : R)
    (final : Except Fault ChatAnswer) : Client.Access (Pacing.Rehearsal R ChatAnswer) R where
  rules := rules
  origin := zero
  surroundings := Pacing.Rehearsal.surroundings one
  send _ r := r.answer zero final

theorem Client.Access.counts_rehearsed [Add R] (rules : Pacing.Rules R) (zero one : R)
    (final : Except Fault ChatAnswer) :
    (rehearsed rules zero one final).Counts Pacing.Rehearsal.calls where
  sends _ r := by
    obtain ⟨now, factors, script⟩ := r
    cases script <;> rfl
  keeps :=
    { time := fun _ => rfl
      pause := fun _ _ => rfl
      factor := fun low high r => by
        obtain ⟨now, factors, script⟩ := r
        cases factors <;> rfl }

namespace Client

def entry (c : Client) (prompt system : Text) : Text :=
  Store.fileName component (c.question prompt system)

/-- The name of every such file can be stored. -/
theorem keep_eq (c : Client) (prompt system reply : Text) (store : Store) :
    c.keep prompt system reply store =
      if c.useStore && !reply.isEmpty then
        store.put (c.entry prompt system) (some (.text reply))
      else store := by
  have hplain : ∀ c ∈ component, Text.isPlain c = true := List.all_eq_true.mp rfl
  rw [keep, Store.set_eq_put hplain (by decide)]
  rfl

variable {c : Client} {prompt system : Text} {store : Store}

theorem stored?_of_text {reply : Text} (hc : c.useStore = true)
    (h : store.file? (c.entry prompt system) = some (some (.text reply))) :
    c.stored? prompt system store = (some reply, store) := by
  unfold entry at h
  simp [stored?, hc, Store.get, h]

theorem stored?_of_none (h : store.file? (c.entry prompt system) = none) :
    c.stored? prompt system store = (none, store) := by
  unfold entry at h
  cases hc : c.useStore <;> simp [stored?, hc, Store.get, h]

/-- Looking for a reply may take away the file for the question, if it cannot be read. -/
theorem file?_stored? {other : Text} (h : other ≠ c.entry prompt system) :
    (c.stored? prompt system store).2.file? other = store.file? other := by
  unfold entry at h
  have hget : (store.get component (c.question prompt system)).2.file? other =
      store.file? other := by
    unfold Store.get
    dsimp only
    split
    · rfl
    · exact Store.file?_remove_of_ne store h
    · rfl
  unfold stored?
  split
  · split
    all_goals
      rename_i heq
      rw [heq] at hget
      exact hget
  · rfl

theorem file?_keep_of_ne {other : Text} (h : other ≠ c.entry prompt system) (reply : Text) :
    (c.keep prompt system reply store).file? other = store.file? other := by
  rw [keep_eq]
  split
  · exact Store.file?_put_of_ne store _ h
  · rfl

variable [Add R] [Sub R] [Mul R] [LT R] [DecidableLT R] {access : Access σ R} {s : Shared σ R}

/-- A stored reply is given again, and nothing happens. -/
theorem complete_of_text {reply : Text} (hc : c.useStore = true)
    (h : s.store.file? (c.entry prompt system) = some (some (.text reply))) :
    c.complete access prompt system s = (.ok reply, s) := by
  rw [complete, stored?_of_text hc h]

/-- Without a stored reply a request is sent. The store gets the reply if it is not empty. -/
theorem complete_of_none {requests : σ → Nat} (haccess : access.Counts requests)
    (h : s.store.file? (c.entry prompt system) = none) :
    requests s.world < requests (c.complete access prompt system s).2.world ∧
      (c.complete access prompt system s).2.store =
        match (c.complete access prompt system s).1 with
        | .ok reply => c.keep prompt system reply s.store
        | .error _ => s.store := by
  have hsent := Pacing.Pacer.count_execute_gt haccess.keeps
    (haccess.sends (c.request prompt system)) access.rules access.origin
    (by decide : 0 ≤ Pacing.defaultRetries) s.pacer s.world
  rw [complete, stored?_of_none h]
  dsimp only
  generalize s.pacer.execute access.rules access.origin access.surroundings
    (access.send (c.request prompt system)) Pacing.defaultRetries s.world = sent at hsent ⊢
  obtain ⟨_ | _, _, _⟩ := sent
  · exact ⟨hsent, rfl⟩
  · exact ⟨hsent, rfl⟩

theorem complete_of_answer {answer : ChatAnswer} {pacer : Pacing.Pacer R} {world : σ}
    (h : s.store.file? (c.entry prompt system) = none)
    (hsent : s.pacer.execute access.rules access.origin access.surroundings
      (access.send (c.request prompt system)) Pacing.defaultRetries s.world =
        (.ok (some answer), pacer, world)) :
    c.complete access prompt system s =
      (.ok answer.content, ⟨c.keep prompt system answer.content s.store, pacer, world⟩) := by
  rw [complete, stored?_of_none h]
  dsimp only
  rw [hsent]
  rfl

theorem file?_complete_of_ne {other : Text} (h : other ≠ c.entry prompt system) :
    (c.complete access prompt system s).2.store.file? other = s.store.file? other := by
  have hstored : (c.stored? prompt system s.store).2.file? other = s.store.file? other :=
    file?_stored? h
  unfold complete
  split
  · rename_i heq
    rw [heq] at hstored
    exact hstored
  · rename_i heq
    rw [heq] at hstored
    dsimp only
    split
    · exact hstored
    · exact (file?_keep_of_ne h _).trans hstored

end Client

end TexSplice
