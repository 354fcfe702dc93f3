import TexSplice.Proofs.Store.Digested
import TexSplice.Text.Word

/-! # A store is a finite map

What a store holds is told by the steps that led to it: under a component and data there is what was
stored last, unless it was cleared or spoiled since. Two entries have one file exactly if they have one
component and the same data, as long as no two digests show the same. So files can be counted as
entries, and what one step does to the files is what it does to the map. -/
namespace TexSplice.Store

/-! ## Entries -/

structure Entry where
  component : Text
  data : Json

namespace Entry

def name (e : Entry) : Text := fileName e.component e.data

def digested (e : Entry) : Text := Store.digested e.component e.data

/-- Two entries are one: of one component, with data that differ at most in the order of fields. -/
structure Agrees (e f : Entry) : Prop where
  component : e.component = f.component
  data : e.data.Same f.data

namespace Agrees

variable {e f g : Entry}

theorem refl (e : Entry) : e.Agrees e := ⟨rfl, .refl _⟩

theorem symm (h : e.Agrees f) : f.Agrees e := ⟨h.component.symm, h.data.symm⟩

theorem trans (h : e.Agrees f) (h' : f.Agrees g) : e.Agrees g :=
  ⟨h.component.trans h'.component, h.data.trans h'.data⟩

theorem digested_eq (h : e.Agrees f) : e.digested = f.digested :=
  digested_eq_iff.mpr ⟨h.component, h.data⟩

theorem name_eq (h : e.Agrees f) : e.name = f.name :=
  fileName_eq_iff.mpr ⟨h.component, congrArg shown h.digested_eq⟩

end Agrees

end Entry

/-- Among these entries no two different texts have digests that show the same. -/
def NoCollisions (entries : List Entry) : Prop :=
  ∀ e ∈ entries, ∀ f ∈ entries, shown e.digested = shown f.digested → e.digested = f.digested

variable {entries : List Entry} {e f : Entry}

/-- Entries have one file exactly if they agree. -/
theorem NoCollisions.name_eq_iff (h : NoCollisions entries) (he : e ∈ entries) (hf : f ∈ entries) :
    e.name = f.name ↔ e.Agrees f := by
  constructor
  · intro hname
    obtain ⟨hcomponent, hshown⟩ := fileName_inj hname
    exact ⟨hcomponent, (digested_eq_iff.mp (h e he f hf hshown)).2⟩
  · exact Entry.Agrees.name_eq

theorem NoCollisions.name_ne (h : NoCollisions entries) (he : e ∈ entries) (hf : f ∈ entries)
    (hagrees : ¬ f.Agrees e) : e.name ≠ f.name :=
  fun hname => hagrees ((h.name_eq_iff hf he).mp hname.symm)

/-! ## Steps -/

inductive Step where
  | set (e : Entry) (result : Json)
  | get (e : Entry)
  | clear
  | spoil (e : Entry)

namespace Step

def entry? : Step → Option Entry
  | set e _ | get e | spoil e => some e
  | clear => none

def run (s : Store) : Step → Except Fault Store
  | set e result => s.set e.component e.data result
  | get e => .ok (s.get e.component e.data).2
  | clear => .ok s.clear.2
  | spoil e => s.spoil e.component e.data

/-- Whether a step puts something under an entry; nothing stands for what cannot be read. -/
def Puts : Step → Entry → Option Json → Prop
  | set f result, e, content => f.Agrees e ∧ content = some result
  | spoil f, e, content => f.Agrees e ∧ content = none
  | get _, _, _ | clear, _, _ => False

/-- Whether a step leaves what is under an entry. What cannot be read is dropped when it is asked
for. -/
def Leaves : Step → Entry → Option Json → Prop
  | set f _, e, _ | spoil f, e, _ => ¬ f.Agrees e
  | get f, e, content => f.Agrees e → content ≠ none
  | clear, _, _ => False

end Step

def runSteps (steps : List Step) : Except Fault Store := steps.foldlM Step.run {}

/-- An entry holds what some step has put there and all later ones have left. -/
def Held (steps : List Step) (e : Entry) (content : Option Json) : Prop :=
  ∃ before step after, steps = before ++ step :: after ∧ step.Puts e content ∧
    ∀ later ∈ after, later.Leaves e content

section
variable {steps : List Step} {step : Step} {content : Option Json}

theorem Step.puts_congr (h : e.Agrees f) : step.Puts e content ↔ step.Puts f content := by
  have hagrees (g : Entry) : g.Agrees e ↔ g.Agrees f := ⟨(·.trans h), (·.trans h.symm)⟩
  cases step <;> simp only [Puts, hagrees]

theorem Step.leaves_congr (h : e.Agrees f) : step.Leaves e content ↔ step.Leaves f content := by
  have hagrees (g : Entry) : g.Agrees e ↔ g.Agrees f := ⟨(·.trans h), (·.trans h.symm)⟩
  cases step <;> simp only [Leaves, hagrees]

/-- Entries that agree hold the same. -/
theorem Held.congr (hheld : Held steps e content) (h : e.Agrees f) : Held steps f content := by
  obtain ⟨before, step, after, hsteps, hputs, hleaves⟩ := hheld
  exact ⟨before, step, after, hsteps, (Step.puts_congr h).mp hputs,
    fun later hlater => (Step.leaves_congr h).mp (hleaves later hlater)⟩

/-- What is held was put there by a step with an entry that agrees. -/
theorem Held.exists_agrees (hheld : Held steps e content) :
    ∃ step ∈ steps, ∃ f ∈ step.entry?, f.Agrees e := by
  obtain ⟨before, step, after, rfl, hputs, _⟩ := hheld
  refine ⟨step, by simp, ?_⟩
  cases step with
  | set f result => exact ⟨f, rfl, hputs.1⟩
  | spoil f => exact ⟨f, rfl, hputs.1⟩
  | get | clear => exact hputs.elim

theorem not_held_nil (e : Entry) (content : Option Json) : ¬ Held [] e content := by
  rintro ⟨before, step, after, h, _⟩
  exact List.append_ne_nil_of_right_ne_nil before (List.cons_ne_nil step after) h.symm

theorem held_concat_iff : Held (steps ++ [step]) e content ↔
    step.Puts e content ∨ Held steps e content ∧ step.Leaves e content := by
  constructor
  · rintro ⟨before, put, after, h, hputs, hleaves⟩
    rcases List.eq_nil_or_concat after with rfl | ⟨after, last, rfl⟩
    · obtain ⟨_, hlast⟩ := List.append_inj' h rfl
      cases hlast
      exact .inl hputs
    · rw [List.concat_eq_append] at hleaves h
      rw [← List.cons_append, ← List.append_assoc] at h
      obtain ⟨hsteps, hlast⟩ := List.append_inj' h rfl
      cases hlast
      exact .inr ⟨⟨before, put, after, hsteps, hputs,
        fun later hlater => hleaves later (List.mem_append_left _ hlater)⟩,
        hleaves _ (List.mem_append_right _ (List.mem_singleton_self _))⟩
  · rintro (hputs | ⟨⟨before, put, after, rfl, hputs, hleaves⟩, hleft⟩)
    · exact ⟨steps, step, [], rfl, hputs, fun _ h => nomatch h⟩
    · refine ⟨before, put, after ++ [step], by simp, hputs, fun later hlater => ?_⟩
      rcases List.mem_append.mp hlater with hlater | hlater
      · exact hleaves later hlater
      · rwa [List.mem_singleton.mp hlater]

end

/-! ## What is looked up -/

section
variable (s : Store) (c : Text) (d : Json)

theorem get_fst : (s.get c d).1 = (s.file? (fileName c d)).join := by
  unfold get
  dsimp only
  cases s.file? (fileName c d) with
  | none => rfl
  | some content => cases content <;> rfl

theorem get_snd_of_unreadable (h : s.file? (fileName c d) = some none) :
    (s.get c d).2 = s.remove (fileName c d) := by
  simp only [get, h]

theorem get_snd_of_ne (h : s.file? (fileName c d) ≠ some none) : (s.get c d).2 = s := by
  unfold get
  dsimp only
  cases hfile : s.file? (fileName c d) with
  | none => rfl
  | some content =>
    cases content with
    | none => exact absurd hfile h
    | some result => rfl

end

/-! ## What one step does to the files -/

/-- A component name of word characters. -/
def IsWord (t : Text) : Prop := ∀ c ∈ t, Text.isWordChar c = true

theorem IsWord.not_mem {t : Text} (h : IsWord t) {c : Char} (hc : Text.isWordChar c = false) :
    c ∉ t := by
  intro hmem
  rw [h c hmem] at hc
  cases hc

/-- The name of an entry can be stored: the component is a word, and the name is not too long. -/
structure Entry.Sound (e : Entry) : Prop where
  word : IsWord e.component
  short : Text.byteLength e.name ≤ maxNameLength

theorem Entry.sound_of_plain {e : Entry} (hword : IsWord e.component)
    (hplain : ∀ c ∈ e.component, Text.isPlain c = true)
    (hlen : e.component.length + 32 ≤ maxNameLength) : e.Sound :=
  ⟨hword, by rwa [name, byteLength_fileName, Text.byteLength_of_plain hplain]⟩

/-- What no word has and a file name does not add is in no name. -/
theorem Entry.not_mem_name {e : Entry} (h : IsWord e.component) {c : Char}
    (hc : Text.isWordChar c = false) (hplain : Text.isPlain c = false) : c ∉ e.name := by
  intro hmem
  rcases mem_fileName hmem with hmem | hmem
  · exact h.not_mem hc hmem
  · rw [hmem] at hplain
    cases hplain

theorem Entry.Sound.storable {e : Entry} (h : e.Sound) : storable e.name = true := by
  have hslash : '/' ∉ e.name := not_mem_name h.word rfl rfl
  simpa [Store.storable, hslash] using h.short

theorem Entry.Sound.write_eq_put {e : Entry} (h : e.Sound) (s : Store) (content : Option Json) :
    s.write e.name content = .ok (s.put e.name content) :=
  Store.write_eq_put (not_mem_name h.word rfl rfl) h.storable s content

/-- The files of a store are those of some entries, and have what these hold. -/
structure Records (entries : List Entry) (steps : List Step) (s : Store) : Prop where
  file? : ∀ e ∈ entries, ∀ content, s.file? e.name = some content ↔ Held steps e content
  named : ∀ file ∈ s.files, ∃ e ∈ entries, e.name = file.1

namespace Records

variable {steps : List Step} {step : Step} {s : Store}

theorem start (entries : List Entry) : Records entries [] {} where
  file? e _ content := by
    simpa [Store.file?] using not_held_nil e content
  named _ h := nomatch h

theorem named_keep (h : Records entries steps s) (test : Text → Bool) :
    ∀ file ∈ (s.keep test).files, ∃ e ∈ entries, e.name = file.1 :=
  fun file hfile => h.named file (List.mem_of_mem_filter hfile)

/-- A step that puts something under one entry, and leaves what is under the others. -/
theorem put (h : Records entries steps s) (hcoll : NoCollisions entries) (hf : f ∈ entries)
    {content : Option Json}
    (hputs : ∀ e c, step.Puts e c ↔ f.Agrees e ∧ c = content)
    (hleaves : ∀ e c, step.Leaves e c ↔ ¬ f.Agrees e) :
    Records entries (steps ++ [step]) (s.put f.name content) where
  file? e he c := by
    rw [held_concat_iff, hputs, hleaves]
    by_cases hagrees : f.Agrees e
    · rw [hagrees.name_eq, file?_put_self]
      simp [hagrees, eq_comm]
    · rw [file?_put_of_ne s content (hcoll.name_ne he hf hagrees), h.file? e he]
      simp [hagrees]
  named file hfile := by
    rcases List.mem_cons.mp hfile with rfl | hfile
    · exact ⟨f, hf, rfl⟩
    · exact h.named_keep _ file hfile

theorem clear (s : Store) (entries : List Entry) (steps : List Step) :
    Records entries (steps ++ [.clear]) s.clear.2 where
  file? e _ c := by
    rw [held_concat_iff]
    simp [Store.clear, Store.file?, Step.Puts, Step.Leaves]
  named _ h := nomatch h

/-- What can be read stays, and what cannot be read is dropped where it was asked for. -/
theorem get (h : Records entries steps s) (hcoll : NoCollisions entries) (hf : f ∈ entries) :
    Records entries (steps ++ [.get f]) (s.get f.component f.data).2 := by
  have hheld (e : Entry) (c : Option Json) : Held (steps ++ [.get f]) e c ↔
      Held steps e c ∧ (f.Agrees e → c ≠ none) := by
    rw [held_concat_iff]
    exact or_iff_right id
  by_cases hfile : s.file? f.name = some none
  · rw [get_snd_of_unreadable s _ _ hfile]
    refine ⟨fun e he c => ?_, h.named_keep _⟩
    rw [hheld]
    by_cases hagrees : f.Agrees e
    · change (s.remove f.name).file? e.name = some c ↔ _
      have hnone : Held steps e c → c = none := by
        intro hc
        rw [← h.file? e he, ← hagrees.name_eq, hfile] at hc
        exact (Option.some_inj.mp hc).symm
      rw [← hagrees.name_eq, file?_remove_self]
      exact iff_of_false (fun h => nomatch h) fun hc => hc.2 hagrees (hnone hc.1)
    · change (s.remove f.name).file? e.name = some c ↔ _
      rw [file?_remove_of_ne s (hcoll.name_ne he hf hagrees), h.file? e he]
      exact (and_iff_left fun h => absurd h hagrees).symm
  · rw [get_snd_of_ne s _ _ hfile]
    refine ⟨fun e he c => ?_, h.named⟩
    rw [hheld, h.file? e he]
    refine (and_iff_left_of_imp fun hc hagrees => ?_).symm
    rintro rfl
    rw [← h.file? e he, ← hagrees.name_eq] at hc
    exact hfile hc

/-- A step with an entry that can be stored succeeds, and does to the files what it does to the
entries. -/
theorem next (h : Records entries steps s) (hcoll : NoCollisions entries)
    (hsound : ∀ e ∈ entries, e.Sound) (hstep : ∀ e ∈ step.entry?, e ∈ entries) :
    ∃ s', step.run s = .ok s' ∧ Records entries (steps ++ [step]) s' := by
  cases step with
  | set f result =>
    have hf := hstep f rfl
    exact ⟨_, (hsound f hf).write_eq_put s _, h.put hcoll hf (fun _ _ => Iff.rfl) fun _ _ => Iff.rfl⟩
  | get f => exact ⟨_, rfl, h.get hcoll (hstep f rfl)⟩
  | clear => exact ⟨_, rfl, .clear s entries steps⟩
  | spoil f =>
    have hf := hstep f rfl
    exact ⟨_, (hsound f hf).write_eq_put s _, h.put hcoll hf (fun _ _ => Iff.rfl) fun _ _ => Iff.rfl⟩

end Records

/-! ## Runs -/

theorem runSteps_concat {steps : List Step} {s : Store} (h : runSteps steps = .ok s) (step : Step) :
    runSteps (steps ++ [step]) = step.run s := by
  unfold runSteps at h ⊢
  rw [List.foldlM_append, h]
  exact bind_pure (step.run s)

theorem exists_runSteps (hcoll : NoCollisions entries) (hsound : ∀ e ∈ entries, e.Sound)
    (steps : List Step) (hsteps : ∀ step ∈ steps, ∀ e ∈ step.entry?, e ∈ entries) :
    ∃ s, runSteps steps = .ok s ∧ Records entries steps s := by
  induction steps using List.reverseRecOn with
  | nil => exact ⟨{}, rfl, .start entries⟩
  | append_singleton steps step ih =>
    obtain ⟨hbefore, hlast⟩ := List.forall_mem_append.mp hsteps
    obtain ⟨s, hrun, hrecords⟩ := ih hbefore
    obtain ⟨s', hstep, hnext⟩ := hrecords.next hcoll hsound (hlast step (List.mem_singleton_self _))
    exact ⟨s', (runSteps_concat hrun step).trans hstep, hnext⟩

/-! ## Counting -/

/-- A list of the entries with a property, each of them once. -/
structure Lists (live : List Entry) (p : Entry → Prop) : Prop where
  holds : ∀ e ∈ live, p e
  complete : ∀ e, p e → ∃ f ∈ live, f.Agrees e
  apart : live.Pairwise fun e f => ¬ e.Agrees f

theorem mem_files_of_file? {s : Store} {name : Text} {content : Option Json}
    (h : s.file? name = some content) : name ∈ s.files.map Prod.fst := by
  obtain ⟨before, after, hfiles, _⟩ := List.lookup_eq_some_iff.mp h
  rw [hfiles]
  simp

theorem exists_file?_of_mem {s : Store} {name : Text} (h : name ∈ s.files.map Prod.fst) :
    ∃ content, s.file? name = some content := by
  obtain ⟨file, hfile, rfl⟩ := List.mem_map.mp h
  exact Option.isSome_iff_exists.mp (List.lookup_isSome_iff.mpr ⟨file, hfile, beq_self_eq_true _⟩)

/-- Entries with given names. -/
theorem exists_map_name : ∀ {names : List Text}, (∀ n ∈ names, ∃ e ∈ entries, e.name = n) →
    ∃ live : List Entry, live.map Entry.name = names ∧ ∀ e ∈ live, e ∈ entries
  | [], _ => ⟨[], rfl, fun _ h => nomatch h⟩
  | n :: names, h => by
    obtain ⟨⟨e, he, hname⟩, hrest⟩ := List.forall_mem_cons.mp h
    obtain ⟨live, hnames, hlive⟩ := exists_map_name hrest
    exact ⟨e :: live, by rw [List.map_cons, hname, hnames], List.forall_mem_cons.mpr ⟨he, hlive⟩⟩

/-- The files of a store are those of the entries that hold something. -/
theorem Records.exists_live {steps : List Step} {s : Store} (h : Records entries steps s)
    (hcoll : NoCollisions entries)
    (hsteps : ∀ step ∈ steps, ∀ e ∈ step.entry?, e ∈ entries) :
    ∃ live : List Entry, live.map Entry.name = s.files.map Prod.fst ∧ (∀ e ∈ live, e ∈ entries) ∧
      Lists live fun e => ∃ content, Held steps e content := by
  have hnamed : ∀ n ∈ s.files.map Prod.fst, ∃ e ∈ entries, e.name = n := by
    intro n hn
    obtain ⟨file, hfile, rfl⟩ := List.mem_map.mp hn
    exact h.named file hfile
  obtain ⟨live, hlive, hmem⟩ := exists_map_name hnamed
  refine ⟨live, hlive, hmem, ?_, ?_, ?_⟩
  · intro e he
    have hname : e.name ∈ s.files.map Prod.fst := hlive ▸ List.mem_map_of_mem he
    obtain ⟨content, hcontent⟩ := exists_file?_of_mem hname
    exact ⟨content, (h.file? e (hmem e he) content).mp hcontent⟩
  · -- the entry may be written in another way than the one that was put there
    rintro e ⟨content, hheld⟩
    obtain ⟨step, hstep, f, hentry, hagrees⟩ := hheld.exists_agrees
    have hf : f ∈ entries := hsteps step hstep f hentry
    have hfile := (h.file? f hf content).mpr (hheld.congr hagrees.symm)
    obtain ⟨g, hg, hname⟩ := List.mem_map.mp (hlive ▸ mem_files_of_file? hfile)
    exact ⟨g, hg, ((hcoll.name_eq_iff (hmem g hg) hf).mp hname).trans hagrees⟩
  · have hnodup := s.nodup_names
    rw [← hlive, List.nodup_iff_pairwise_ne, List.pairwise_map] at hnodup
    exact hnodup.imp fun hne hagrees => hne hagrees.name_eq

/-- **A store is a finite map.** After any steps with components that are words and names that are not
too long, a result is found exactly if it was stored last under that component and data, up to the
order of fields, and was neither cleared nor spoiled since. What was spoiled and cannot be read is
gone once it was asked for. The files are as many as the entries that hold something, and clearing
gives their number. -/
theorem store_is_map (entries : List Entry) (hsound : ∀ e ∈ entries, e.Sound)
    (hcoll : NoCollisions entries) (steps : List Step)
    (hsteps : ∀ step ∈ steps, ∀ e ∈ step.entry?, e ∈ entries) :
    ∃ s, runSteps steps = .ok s ∧
      (∀ e ∈ entries, ∀ result,
        (s.get e.component e.data).1 = some result ↔ Held steps e (some result)) ∧
      (∀ e ∈ entries, Held steps e none →
        (s.get e.component e.data).2.file? e.name = none) ∧
      ∃ live, Lists live (fun e => ∃ content, Held steps e content) ∧ s.size = live.length ∧
        s.clear.1 = live.length := by
  obtain ⟨s, hrun, hrecords⟩ := exists_runSteps hcoll hsound steps hsteps
  obtain ⟨live, hnames, _, hlive⟩ := hrecords.exists_live hcoll hsteps
  have hsize : s.size = live.length := by
    have := congrArg List.length hnames
    rw [List.length_map, List.length_map] at this
    exact this.symm
  refine ⟨s, hrun, fun e he result => ?_, fun e he hheld => ?_, live, hlive, hsize, hsize⟩
  · rw [get_fst, Option.join_eq_some_iff, ← hrecords.file? e he]
    rfl
  · have hfile := (hrecords.file? e he none).mpr hheld
    rw [get_snd_of_unreadable s _ _ hfile]
    exact file?_remove_self s e.name

/-! A result is stored, the file of another one spoiled, and then a result is stored for the data of the
first with the fields in another order. -/

def fields : Json := .object [("a".toList, .int 1), ("b".toList, .int 2)]

def turnedFields : Json := .object [("b".toList, .int 2), ("a".toList, .int 1)]

def intentEntry (data : Json) : Entry := ⟨"intent".toList, data⟩

theorem sound_intentEntry (data : Json) : (intentEntry data).Sound := by
  have hword : IsWord "intent".toList := List.all_eq_true.mp (by decide +kernel)
  exact Entry.sound_of_plain hword (List.all_eq_true.mp rfl) (show 6 + 32 ≤ maxNameLength by decide)

theorem turnedFields_same : turnedFields.Same fields := .of_perm (.swap ..) (by decide)

theorem digested_fields :
    (intentEntry fields).digested = "intent:\x7b\"a\": 1, \"b\": 2\x7d".toList := by
  have horder : Json.inOrder [("a".toList, Json.int 1), ("b".toList, .int 2)] =
      [("a".toList, .int 1), ("b".toList, .int 2)] := List.mergeSort_of_pairwise (by decide)
  simp only [intentEntry, Entry.digested, digested, fields, Json.sorted_object_eq, horder]
  decide +kernel

theorem noCollisions_intentEntry :
    NoCollisions [intentEntry fields, intentEntry .null, intentEntry turnedFields] := by
  have hkernel : shown "intent:\x7b\"a\": 1, \"b\": 2\x7d".toList ≠ shown "intent:null".toList := by
    decide +kernel
  have hshown : shown (intentEntry fields).digested ≠ shown (intentEntry .null).digested :=
    ne_of_eq_of_ne (congrArg shown digested_fields) hkernel
  have hturned : (intentEntry turnedFields).digested = (intentEntry fields).digested :=
    Entry.Agrees.digested_eq ⟨rfl, turnedFields_same⟩
  simp only [NoCollisions, List.forall_mem_cons, hturned]
  simp [hshown, hshown.symm]

theorem later_result_is_found : ∃ s,
    runSteps [.set (intentEntry fields) (.int 1), .spoil (intentEntry .null),
      .set (intentEntry turnedFields) (.int 3)] = .ok s ∧
    (s.get "intent".toList fields).1 = some (.int 3) ∧
    (s.get "intent".toList .null).2.file? (intentEntry .null).name = none := by
  obtain ⟨s, hrun, hget, hdropped, _⟩ := store_is_map
    [intentEntry fields, intentEntry .null, intentEntry turnedFields]
    (by simp [sound_intentEntry]) noCollisions_intentEntry
    [.set (intentEntry fields) (.int 1), .spoil (intentEntry .null),
      .set (intentEntry turnedFields) (.int 3)] (by simp [Step.entry?])
  refine ⟨s, hrun, (hget (intentEntry fields) (by simp) (.int 3)).mpr ?_,
    hdropped (intentEntry .null) (by simp) ?_⟩
  · exact ⟨[_, _], _, [], rfl, ⟨⟨rfl, turnedFields_same⟩, rfl⟩, fun _ h => nomatch h⟩
  · refine ⟨[_], _, [_], rfl, ⟨.refl _, rfl⟩, fun later hlater => ?_⟩
    rw [List.mem_singleton.mp hlater]
    rintro ⟨_, hdata⟩
    cases hdata

end TexSplice.Store
