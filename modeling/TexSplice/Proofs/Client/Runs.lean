import Mathlib.Data.List.Induction
import TexSplice.Proofs.Client.Complete
import TexSplice.Proofs.Store.Digested

/-! # Clients that share a store

Several clients make queries one after the other, over one store that was empty at first. The store
holds the replies that were stored so far, and nothing else. So a query gets the reply that an earlier
one with its question got, or it asks, whichever client was first and whatever was answered. -/
namespace TexSplice

variable {σ R : Type}

namespace Client

/-! ## Questions -/

theorem sorted_question (c : Client) (prompt system : Text) :
    (c.question prompt system).sorted = Json.enclose '{' '}'
      ([("model".toList, .text c.model), ("prompt".toList, .text prompt),
        ("system".toList, .text system)].map Json.writtenField) := by
  have hnames : ["model".toList, "prompt".toList, "system".toList].Nodup := by decide
  have hsorted : ["model".toList, "prompt".toList, "system".toList].Pairwise
      fun a b => Json.nameLE a b = true := by decide
  have horder : Json.inOrder [("model".toList, Json.text c.model), ("system".toList, .text system),
      ("prompt".toList, .text prompt)] = [("model".toList, .text c.model),
        ("prompt".toList, .text prompt), ("system".toList, .text system)] :=
    Json.inOrder_eq_of_perm (.cons _ (.swap ..)) hnames hsorted
  rw [question, Json.record, Json.sorted_object_eq, ← horder]
  rfl

structure Query where
  client : Client
  prompt : Text
  system : Text

namespace Query

/-- Two queries ask the same. The temperature does not count. -/
structure Agrees (k l : Query) : Prop where
  model : k.client.model = l.client.model
  prompt : k.prompt = l.prompt
  system : k.system = l.system

def digested (k : Query) : Text :=
  Store.digested component (k.client.question k.prompt k.system)

def entry (k : Query) : Text := k.client.entry k.prompt k.system

variable {k l : Query}

theorem entry_eq_of_agrees (h : k.Agrees l) : k.entry = l.entry := by
  simp only [entry, Client.entry, question, h.model, h.prompt, h.system]

/-- The digest is taken of the whole question, and of nothing else. -/
theorem digested_eq_iff : k.digested = l.digested ↔ k.Agrees l := by
  constructor
  · intro h
    obtain ⟨_, hquestion⟩ := Store.digested_eq_iff.mp h
    cases hquestion with
    | object hvalues =>
      constructor
      · simpa [Json.valuesOf, Json.same_text_iff] using hvalues "model".toList
      · simpa [Json.valuesOf, Json.same_text_iff] using hvalues "prompt".toList
      · simpa [Json.valuesOf, Json.same_text_iff] using hvalues "system".toList
  · intro h
    simp only [digested, question, h.model, h.prompt, h.system]

end Query

/-- Among the queries of clients that use the store no two different texts have digests that show the
same. -/
def NoCollisions (queries : List Query) : Prop :=
  ∀ k ∈ queries, ∀ l ∈ queries, k.client.useStore = true → l.client.useStore = true →
    Store.shown k.digested = Store.shown l.digested → k.digested = l.digested

theorem NoCollisions.agrees {queries : List Query} {k l : Query} (h : NoCollisions queries)
    (hk : k ∈ queries) (hl : l ∈ queries) (hks : k.client.useStore = true)
    (hls : l.client.useStore = true) (hentry : k.entry = l.entry) : k.Agrees l :=
  Query.digested_eq_iff.mp (h k hk l hl hks hls (Store.fileName_inj hentry).2)

/-! ## One query -/

def replyOf : Except Fault ChatAnswer → Except Fault Text
  | .ok answer => .ok answer.content
  | .error f => .error (.requestFailed f.message)

namespace Query

/-- The files that a query adds with a reply. -/
def additions (k : Query) : Except Fault Text → List (Text × Option Json)
  | .ok reply =>
    if k.client.useStore && !reply.isEmpty then [(k.entry, some (.text reply))] else []
  | .error _ => []

/-- A reply is stored under a new name. -/
theorem files_keep {k : Query} {store : Store}
    (h : k.client.useStore = true → store.file? k.entry = none) (reply : Text) :
    (k.client.keep k.prompt k.system reply store).files =
      k.additions (.ok reply) ++ store.files := by
  rw [keep_eq, additions]
  split
  · rename_i hkept
    exact Store.files_put_of_none (h (Bool.and_eq_true_iff.mp hkept).1)
  · rfl

variable [Add R] [Sub R] [Mul R] [LT R] [DecidableLT R]

def run (k : Query) (access : Access σ R) (s : Shared σ R) : Except Fault Text × Shared σ R :=
  k.client.complete access k.prompt k.system s

/-- A request is sent, as often as pacing sends it, and its answer is the reply. The store has the
reply too if it is to be stored, and is unchanged otherwise. -/
structure Asks (k : Query) (access : Access σ R) (s : Shared σ R) (reply : Except Fault Text)
    (s' : Shared σ R) : Prop where
  sent : ∃ answer : Except Fault ChatAnswer,
    s.pacer.execute access.rules access.origin access.surroundings
      (access.send (k.client.request k.prompt k.system)) Pacing.defaultRetries s.world =
        (answer.map some, s'.pacer, s'.world) ∧ reply = replyOf answer
  added : s'.store.files = k.additions reply ++ s.store.files

variable {k : Query} {access : Access σ R} {s : Shared σ R}

/-- A query asks if its client does not use the store, or if it has no file there. -/
theorem asks_run (h : k.client.useStore = true → s.store.file? k.entry = none) :
    k.Asks access s (k.run access s).1 (k.run access s).2 := by
  have hstored : k.client.stored? k.prompt k.system s.store = (none, s.store) := by
    cases hc : k.client.useStore with
    | true => exact stored?_of_none (h hc)
    | false => rw [stored?, hc, if_neg Bool.false_ne_true]
  obtain ⟨answer, hanswer⟩ := Pacing.Pacer.exists_execute
    (access.send (k.client.request k.prompt k.system)) access.rules
    access.origin (by decide : 0 ≤ Pacing.defaultRetries) s.pacer s.world
  obtain ⟨pacer, world, hsent⟩ : ∃ pacer world,
      s.pacer.execute access.rules access.origin access.surroundings
        (access.send (k.client.request k.prompt k.system)) Pacing.defaultRetries s.world =
          (answer.map some, pacer, world) := ⟨_, _, Prod.ext hanswer rfl⟩
  cases answer with
  | error f =>
    have hrun : k.run access s = (replyOf (.error f), ⟨s.store, pacer, world⟩) := by
      rw [run, complete, hstored]
      dsimp only
      rw [hsent]
      rfl
    rw [hrun]
    exact ⟨⟨.error f, hsent, rfl⟩, rfl⟩
  | ok answer =>
    have hrun : k.run access s = (replyOf (.ok answer),
        ⟨k.client.keep k.prompt k.system answer.content s.store, pacer, world⟩) := by
      rw [run, complete, hstored]
      dsimp only
      rw [hsent]
      rfl
    rw [hrun]
    exact ⟨⟨.ok answer, hsent, rfl⟩, files_keep h answer.content⟩

end Query

/-! ## What the store has of the queries so far -/

abbrev QueryLog := List (Query × Except Fault Text)

/-- A reply that a query stored. -/
structure Stored (log : QueryLog) (l : Query) (reply : Text) : Prop where
  mem : (l, .ok reply) ∈ log
  useStore : l.client.useStore = true
  nonempty : reply ≠ []

/-- The store holds the replies that queries stored, and nothing else. -/
structure Recorded (log : QueryLog) (store : Store) : Prop where
  kept : ∀ l reply, Stored log l reply → store.file? l.entry = some (some (.text reply))
  given : ∀ file content, store.file? file = some content →
    ∃ l reply, Stored log l reply ∧ l.entry = file ∧ content = some (.text reply)

section
variable {log log' : QueryLog} {k l : Query} {r : Text}
  {reply : Except Fault Text} {store store' : Store}

theorem stored_append : Stored (log ++ log') l r ↔ Stored log l r ∨ Stored log' l r := by
  constructor
  · intro h
    exact (List.mem_append.mp h.mem).imp (⟨·, h.useStore, h.nonempty⟩) (⟨·, h.useStore, h.nonempty⟩)
  · rintro (h | h)
    · exact ⟨List.mem_append_left _ h.mem, h.useStore, h.nonempty⟩
    · exact ⟨List.mem_append_right _ h.mem, h.useStore, h.nonempty⟩

theorem Stored.eq (h : Stored [(k, reply)] l r) : l = k ∧ reply = .ok r := by
  cases List.mem_singleton.mp h.mem
  exact ⟨rfl, rfl⟩

theorem additions_cases (k : Query) (reply : Except Fault Text) :
    (k.additions reply = [] ∧ ∀ l r, ¬ Stored [(k, reply)] l r) ∨
      ∃ r, reply = .ok r ∧ k.additions reply = [(k.entry, some (.text r))] ∧
        Stored [(k, reply)] k r := by
  cases reply with
  | error f => exact .inl ⟨rfl, fun l r h => nomatch h.eq.2⟩
  | ok r =>
    cases hkept : k.client.useStore && !r.isEmpty with
    | true =>
      obtain ⟨hstore, hne⟩ := Bool.and_eq_true_iff.mp hkept
      refine .inr ⟨r, rfl, by rw [Query.additions, hkept, if_pos rfl], ?_⟩
      exact ⟨List.mem_singleton_self _, hstore, by simpa using hne⟩
    | false =>
      refine .inl ⟨by rw [Query.additions, hkept, if_neg Bool.false_ne_true], fun l u h => ?_⟩
      obtain ⟨rfl, hr⟩ := h.eq
      cases hr
      simp [h.useStore, h.nonempty] at hkept

theorem Recorded.start : Recorded [] {} where
  kept _ _ h := nomatch h.mem
  given _ _ h := nomatch h

/-- A query that leaves the files as they are. -/
theorem Recorded.same (h : Recorded log store) (hfiles : store'.files = store.files)
    (hnew : ∀ l r, Stored [(k, reply)] l r → store.file? l.entry = some (some (.text r))) :
    Recorded (log ++ [(k, reply)]) store' where
  kept l r hl := by
    rw [Store.file?, hfiles]
    exact (stored_append.mp hl).elim (h.kept l r) (hnew l r)
  given file content hcontent := by
    rw [Store.file?, hfiles] at hcontent
    obtain ⟨l, r, hl, hname, hr⟩ := h.given file content hcontent
    exact ⟨l, r, stored_append.mpr (.inl hl), hname, hr⟩

/-- A query that puts its reply under a new name. -/
theorem Recorded.put (h : Recorded log store) (hfile : store.file? k.entry = none)
    (hfiles : store'.files = (k.entry, some (.text r)) :: store.files)
    (hr : Stored [(k, .ok r)] k r) : Recorded (log ++ [(k, .ok r)]) store' where
  kept l u hl := by
    rw [Store.file?, hfiles]
    rcases stored_append.mp hl with hl | hl
    · -- the name is new, so it is not that of an earlier query
      have hold := h.kept l u hl
      have hne : (l.entry == k.entry) = false := by
        refine beq_eq_false_iff_ne.mpr fun hname => ?_
        rw [hname, hfile] at hold
        cases hold
      rw [List.lookup_cons, hne]
      exact hold
    · obtain ⟨rfl, hu⟩ := hl.eq
      cases hu
      exact List.lookup_cons_self
  given file content hcontent := by
    rw [Store.file?, hfiles, List.lookup_cons] at hcontent
    cases hname : file == k.entry with
    | true =>
      rw [hname] at hcontent
      exact ⟨k, r, stored_append.mpr (.inr hr), (beq_iff_eq.mp hname).symm,
        (Option.some_inj.mp hcontent).symm⟩
    | false =>
      rw [hname] at hcontent
      obtain ⟨l, u, hl, hfile, hu⟩ := h.given file content hcontent
      exact ⟨l, u, stored_append.mpr (.inl hl), hfile, hu⟩

end

/-! ## Runs of queries -/

variable [Add R] [Sub R] [Mul R] [LT R] [DecidableLT R] {access : Access σ R}

/-- Makes a query, and writes it down with its reply. -/
def Query.next (k : Query) (access : Access σ R) (run : QueryLog × Shared σ R) :
    QueryLog × Shared σ R :=
  (run.1 ++ [(k, (k.run access run.2).1)], (k.run access run.2).2)

def runQueries (access : Access σ R) (queries : List Query) (s : Shared σ R) :
    QueryLog × Shared σ R :=
  queries.foldl (fun run k => k.next access run) ([], s)

section
variable {run : QueryLog × Shared σ R}

/-- A query gets a reply that was stored for its file, and nothing happens, or it asks. -/
theorem Recorded.run_cases (h : Recorded run.1 run.2.store) (access : Access σ R) (k : Query) :
    (∃ l r, k.client.useStore = true ∧ Stored run.1 l r ∧ l.entry = k.entry ∧
      k.run access run.2 = (.ok r, run.2)) ∨
    (k.client.useStore = true → run.2.store.file? k.entry = none) ∧
      k.Asks access run.2 (k.run access run.2).1 (k.run access run.2).2 := by
  by_cases hstore : k.client.useStore = true
  · cases hfile : run.2.store.file? k.entry with
    | none => exact .inr ⟨fun _ => rfl, Query.asks_run fun _ => hfile⟩
    | some content =>
      obtain ⟨l, r, hl, hname, rfl⟩ := h.given k.entry content hfile
      exact .inl ⟨l, r, hstore, hl, hname, complete_of_text hstore hfile⟩
  · exact .inr ⟨fun h => absurd h hstore, Query.asks_run fun h => absurd h hstore⟩

theorem Recorded.next (h : Recorded run.1 run.2.store) (k : Query) :
    Recorded (k.next access run).1 (k.next access run).2.store := by
  rcases h.run_cases access k with ⟨l, r, _, hl, hname, hrun⟩ | ⟨hfile, hasks⟩
  · rw [Query.next, hrun]
    refine h.same rfl fun u v hu => ?_
    obtain ⟨rfl, hv⟩ := hu.eq
    cases hv
    exact hname ▸ h.kept l r hl
  · rw [Query.next]
    generalize k.run access run.2 = answered at hasks ⊢
    obtain ⟨reply, s⟩ := answered
    have hfiles := hasks.added
    rcases additions_cases k reply with ⟨hnone, hsilent⟩ | ⟨r, rfl, hone, hr⟩
    · rw [hnone] at hfiles
      exact h.same hfiles fun l r hl => absurd hl (hsilent l r)
    · rw [hone] at hfiles
      exact h.put (hfile hr.useStore) hfiles hr

end

theorem recorded_runQueries (access : Access σ R) (queries : List Query) (pacer : Pacing.Pacer R)
    (world : σ) :
    Recorded (runQueries access queries ⟨{}, pacer, world⟩).1
      (runQueries access queries ⟨{}, pacer, world⟩).2.store :=
  List.foldlRecOn (motive := fun (run : QueryLog × Shared σ R) => Recorded run.1 run.2.store)
    queries _ Recorded.start fun _ h k _ => h.next k

theorem runQueries_concat (access : Access σ R) (queries : List Query) (k : Query) (s : Shared σ R) :
    runQueries access (queries ++ [k]) s = k.next access (runQueries access queries s) := by
  rw [runQueries, List.foldl_concat, ← runQueries]

theorem map_fst_runQueries (access : Access σ R) (queries : List Query) (s : Shared σ R) :
    (runQueries access queries s).1.map Prod.fst = queries := by
  induction queries using List.reverseRecOn with
  | nil => rfl
  | append_singleton queries k ih =>
    rw [runQueries_concat, Query.next, List.map_append, ih]
    rfl

/-- **A shared store is transparent.** In any run of queries over a store that was empty at first, a
query of a client that uses the store gets the reply that an earlier one with its model, prompt and
system text stored, and nothing happens. A query for which there is no such reply asks, and adds at
most its own file. -/
theorem shared_store_is_transparent (access : Access σ R) (requests : σ → Nat)
    (haccess : access.Counts requests) (pacer : Pacing.Pacer R) (world : σ) (queries : List Query)
    (hdigests : NoCollisions queries) :
    ∀ before k after, queries = before ++ k :: after →
      let run := runQueries access before ⟨{}, pacer, world⟩
      let answered := k.run access run.2
      (∀ l r, k.client.useStore = true → Stored run.1 l r → l.Agrees k →
        answered = (.ok r, run.2)) ∧
      ((k.client.useStore = true → ∀ l r, Stored run.1 l r → ¬ l.Agrees k) →
        k.Asks access run.2 answered.1 answered.2 ∧
          requests run.2.world < requests answered.2.world) := by
  intro before k after hqueries run answered
  have hrecorded : Recorded run.1 run.2.store := recorded_runQueries access before pacer world
  constructor
  · intro l r hstore hl hagrees
    have hfile := hrecorded.kept l r hl
    rw [Query.entry_eq_of_agrees hagrees] at hfile
    exact complete_of_text hstore hfile
  · intro hnone
    rcases hrecorded.run_cases access k with ⟨l, r, hstore, hl, hname, _⟩ | ⟨_, hasks⟩
    · -- the earlier query with that file had another question
      have hmem : l ∈ before := by
        rw [← map_fst_runQueries access before ⟨{}, pacer, world⟩]
        exact List.mem_map_of_mem (f := Prod.fst) hl.mem
      refine absurd (hdigests.agrees ?_ ?_ hl.useStore hstore hname) (hnone hstore l r hl)
      all_goals simp [hqueries, hmem]
    · refine ⟨hasks, ?_⟩
      obtain ⟨answer, hsent, _⟩ := hasks.sent
      have hcount := Pacing.Pacer.count_execute_gt haccess.keeps
        (haccess.sends (k.client.request k.prompt k.system)) access.rules access.origin
        (by decide : 0 ≤ Pacing.defaultRetries) run.2.pacer run.2.world
      rwa [hsent] at hcount

/-- A client with another temperature gets the reply that the first one got. The question in between
has another file. -/
theorem shared_store_serves_second_client :
    let first : Client := ⟨"key".toList, true, Settings.defaultModel, Settings.defaultTemperature⟩
    let second : Client := { first with temperature := 1.0 }
    let access : Access (Pacing.Rehearsal Nat ChatAnswer) Nat :=
      .rehearsed ⟨2, 2, 1023, 1, 10, 5, 60, 1, 1⟩ 0 1 (.ok .none)
    let world : Pacing.Rehearsal Nat ChatAnswer :=
      ⟨0, [], [.ok (.text (some ['x'])), .ok (.text (some ['y']))], [], [], 0⟩
    let before : List Query := [⟨first, ['p'], []⟩, ⟨first, ['q'], []⟩]
    let run := runQueries access before ⟨{}, .fresh 0 0, world⟩
    Query.run ⟨second, ['p'], []⟩ access run.2 = (.ok ['x'], run.2) := by
  intro first second access world before run
  have hreply : (Query.run ⟨first, ['p'], []⟩ access ⟨{}, .fresh 0 0, world⟩).1 = .ok ['x'] := by
    rfl
  have hstored : Stored run.1 ⟨first, ['p'], []⟩ ['x'] := by
    refine ⟨?_, rfl, List.cons_ne_nil 'x' []⟩
    rw [← hreply]
    exact List.mem_append_left _ (List.mem_singleton_self _)
  let queries : List Query := before ++ [⟨second, ['p'], []⟩]
  let asked : Text := Query.digested ⟨first, ['p'], []⟩
  let between : Text := Query.digested ⟨first, ['q'], []⟩
  have hapart : Store.shown asked ≠ Store.shown between := by
    simp only [asked, between, Query.digested, Store.digested, sorted_question]
    decide +kernel
  have hdigests : NoCollisions queries := by
    have hcases : ∀ k ∈ queries, k.digested = asked ∨ k.digested = between := by
      intro k hk
      simp only [queries, before, List.cons_append, List.nil_append, List.mem_cons, List.not_mem_nil,
        or_false] at hk
      rcases hk with rfl | rfl | rfl
      · exact .inl rfl
      · exact .inr rfl
      · exact .inl (Query.digested_eq_iff.mpr ⟨rfl, rfl, rfl⟩)
    intro k hk l hl _ _ hshown
    rcases hcases k hk with hk | hk <;> rcases hcases l hl with hl | hl
    · rw [hk, hl]
    · exact absurd (hk ▸ hl ▸ hshown) hapart
    · exact absurd (hk ▸ hl ▸ hshown) hapart.symm
    · rw [hk, hl]
  obtain ⟨hserved, _⟩ := shared_store_is_transparent access Pacing.Rehearsal.calls
    (Access.counts_rehearsed ..) (.fresh 0 0) world queries hdigests before ⟨second, ['p'], []⟩ [] rfl
  exact hserved _ _ rfl hstored ⟨rfl, rfl, rfl⟩

end Client

end TexSplice
