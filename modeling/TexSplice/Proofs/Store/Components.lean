import TexSplice.Proofs.Store.Entries
import TexSplice.Proofs.Text.Lines
import TexSplice.Proofs.Text.Patterns

/-! # The files of a component

A component's files are found by a pattern, which stands for its own and also for those of every
component whose name goes on after an underscore. The breakdown by components reads each name from the
right, where only digits stand behind the last underscore, and is right about all of them. So a
component is cleared and counted alone exactly if nothing is stored under one that goes on so. -/
namespace TexSplice.Store

/-! ## Names -/

/-- An entry with a file that is taken for one of a component. -/
def Entry.TakenFor (c : Text) (e : Entry) : Prop := e.component = c ∨ c ++ ['_'] <+: e.component

instance (c : Text) : DecidablePred (Entry.TakenFor c) :=
  fun e => inferInstanceAs (Decidable (e.component = c ∨ c ++ ['_'] <+: e.component))

theorem Entry.name_eq (e : Entry) :
    e.name = opening ++ (e.component ++ '_' :: (shown e.digested ++ suffix)) :=
  fileName_eq e.component e.data

theorem underscore_not_mem_shown (t : Text) : '_' ∉ shown t := by
  have hdigits : ∀ d < 16, '_' ≠ Text.hexDigit d := by decide
  intro h
  obtain ⟨d, hd, hc⟩ := exists_hexDigit_of_mem_shown h
  exact hdigits d hd hc

/-- What stands before the last underscore, and what may stand before any. -/
theorem exists_append_underscore_iff {c d y : Text} (hy : '_' ∉ y) :
    (∃ x, d ++ '_' :: y = c ++ '_' :: x) ↔ d = c ∨ c ++ ['_'] <+: d := by
  constructor
  · rintro ⟨x, h⟩
    rcases List.append_eq_append_iff.mp h with ⟨between, hc, hbetween⟩ | ⟨between, hd, hbetween⟩
    · cases between with
      | nil => exact .inl (by rw [hc, List.append_nil])
      | cons a between =>
        -- the underscore after c would stand behind the last one
        refine absurd ?_ hy
        rw [(List.cons.inj hbetween).2]
        exact List.mem_append_right _ List.mem_cons_self
    · cases between with
      | nil => exact .inl (by rw [hd, List.append_nil])
      | cons a between =>
        rw [(List.cons.inj hbetween).1]
        exact .inr ⟨between, by rw [hd, List.append_assoc, List.singleton_append]⟩
  · rintro (rfl | ⟨z, rfl⟩)
    · exact ⟨y, rfl⟩
    · exact ⟨z ++ '_' :: y, by simp⟩

theorem componentOf_name (e : Entry) : componentOf e.name = e.component := by
  have hbehind : ∀ c ∈ (shown e.digested ++ suffix).reverse, (c != '_') = true := by
    intro c hc
    rw [bne_iff_ne]
    rintro rfl
    rcases List.mem_append.mp (List.mem_reverse.mp hc) with h | h
    · exact underscore_not_mem_shown _ h
    · exact absurd h (by decide)
  rw [componentOf, Entry.name_eq, List.drop_left, List.reverse_append, List.reverse_cons,
    List.append_assoc, List.dropWhile_append_of_pos hbehind]
  simp

/-! ## The pattern -/

section
variable {c : Text}

/-- The pattern that the files of a component are found by. -/
def pattern (c : Text) : Text := opening ++ c ++ "_*".toList ++ suffix

theorem pattern_eq (c : Text) : pattern c = (opening ++ (c ++ ['_'])) ++ '*' :: suffix := by
  simp [pattern]

theorem IsWord.isLiteral (hc : IsWord c) : ∀ a ∈ c, Text.isLiteral a = true := by
  intro a ha
  have hne {b : Char} (hb : Text.isWordChar b = false) : a ≠ b := by
    rintro rfl
    exact hc.not_mem hb ha
  simp only [Text.isLiteral, Bool.and_eq_true, bne_iff_ne]
  exact ⟨⟨hne rfl, hne rfl⟩, hne rfl⟩

theorem fitsPattern_name_iff (hc : IsWord c) (e : Entry) :
    Text.fitsPattern (pattern c) e.name = true ↔ e.TakenFor c := by
  have hbefore : ∀ a ∈ opening ++ (c ++ ['_']), Text.isLiteral a = true := by
    simp only [List.forall_mem_append]
    exact ⟨List.all_eq_true.mp rfl, hc.isLiteral, List.all_eq_true.mp rfl⟩
  rw [pattern_eq, Text.fitsPattern_star_iff hbefore (List.all_eq_true.mp rfl), Entry.TakenFor,
    ← exists_append_underscore_iff (underscore_not_mem_shown e.digested)]
  refine exists_congr fun x => ?_
  have hleft : e.name = opening ++ ((e.component ++ '_' :: shown e.digested) ++ suffix) := by
    simp [Entry.name_eq]
  have hright : opening ++ (c ++ ['_']) ++ (x ++ suffix) =
      opening ++ ((c ++ '_' :: x) ++ suffix) := by
    simp
  rw [hleft, hright, List.append_cancel_left_eq, List.append_cancel_right_eq]

theorem slash_not_mem_pattern (hc : IsWord c) : '/' ∉ pattern c := by
  simp only [pattern, List.mem_append, not_or]
  exact ⟨⟨⟨by decide, hc.not_mem rfl⟩, by decide⟩, by decide⟩

/-- A name that fits is longer than the pattern. -/
theorem storable_pattern (hc : IsWord c) {e : Entry} (h : e.Sound) (htaken : e.TakenFor c) :
    storable (pattern c) = true := by
  have hcomponent : Text.byteLength c ≤ Text.byteLength e.component := by
    rcases htaken with hsame | ⟨z, hz⟩
    · rw [hsame]
    · rw [← hz, List.append_assoc, Text.byteLength_append]
      exact Nat.le_add_right ..
  have hpattern : Text.byteLength (pattern c) = 11 + Text.byteLength c + 2 + 4 := by
    simp only [pattern, Text.byteLength_append]
    rfl
  have hshort := h.short
  rw [Entry.name, byteLength_fileName] at hshort
  have : Text.byteLength (pattern c) ≤ maxNameLength := by omega
  simpa [storable, slash_not_mem_pattern hc] using this

theorem star_twice_not_infix (hc : IsWord c) : ¬ ['*', '*'] <:+: pattern c := by
  intro h
  have hword : c.count '*' = 0 := List.count_eq_zero.mpr (hc.not_mem rfl)
  have hcount : (pattern c).count '*' = 1 := by
    simp only [pattern, List.count_append, hword]
    rfl
  have := h.sublist.count_le '*'
  rw [hcount] at this
  exact absurd this (by decide)

theorem pathParts_pattern (hc : IsWord c) : ∀ part ∈ pathParts (pattern c), part = pattern c := by
  have hpieces : Text.pieces (· == '/') (pattern c) = [pattern c] :=
    Text.pieces_of_not_mem (slash_not_mem_pattern hc)
  intro part hpart
  have hmem := List.mem_of_mem_filter hpart
  rwa [hpieces, List.mem_singleton] at hmem

end

/-! ## What is found -/

section
variable {s : Store} {c : Text}

theorem filesOf_eq (hc : IsWord c)
    (hnamed : ∀ name ∈ s.names, ∃ e : Entry, e.Sound ∧ e.name = name) :
    s.filesOf c = .ok (s.names.filter (Text.fitsPattern (pattern c))) := by
  have hparts : ¬ ((pathParts (pattern c)).any fun part =>
      Text.includes part ['*', '*'] && part != ['*', '*']) = true := by
    intro h
    obtain ⟨part, hpart, hbad⟩ := List.any_eq_true.mp h
    rw [pathParts_pattern hc part hpart, Bool.and_eq_true, Text.includes_iff] at hbad
    exact star_twice_not_infix hc hbad.1
  refine (if_neg hparts).trans ?_
  change (if (!storable (pattern c)) = true then Except.ok [] else _) = _
  cases hstorable : storable (pattern c) with
  | true => rfl
  | false =>
    refine congrArg Except.ok (List.filter_eq_nil_iff.mpr ?_).symm
    intro name hname hfits
    obtain ⟨e, hsound, rfl⟩ := hnamed name hname
    rw [storable_pattern hc hsound ((fitsPattern_name_iff hc e).mp hfits)] at hstorable
    cases hstorable

theorem breakdown_lookup (s : Store) (c : Text) :
    (s.breakdown.lookup c).getD 0 = (s.names.map componentOf).count c := by
  by_cases hmem : c ∈ s.names.map componentOf
  · rw [breakdown, List.lookup_graph _ (List.mem_eraseDups.mpr hmem), Option.getD_some]
  · have hnone : s.breakdown.lookup c = none := by
      rw [List.lookup_eq_none_iff]
      intro p hp
      obtain ⟨d, hd, rfl⟩ := List.mem_map.mp hp
      refine bne_iff_ne.mpr ?_
      rintro rfl
      exact hmem (List.mem_eraseDups.mp hd)
    rw [hnone, List.count_eq_zero.mpr hmem, Option.getD_none]

end

/-! ## Stores that were only filled -/

def setSteps (sets : List (Entry × Json)) : List Step := sets.map fun p => .set p.1 p.2

/-- What could be stored: what has no name that is too long. -/
def storedOf (sets : List (Entry × Json)) : List (Entry × Json) :=
  sets.filter fun p => storable p.1.name

section
variable {sets : List (Entry × Json)} {e : Entry} {content : Option Json}

/-- What was stored is held, and nothing else is. -/
theorem exists_held_setSteps_iff :
    (∃ content, Held (setSteps sets) e content) ↔ ∃ p ∈ sets, p.1.Agrees e := by
  constructor
  · rintro ⟨content, hheld⟩
    obtain ⟨step, hstep, f, hf, hagrees⟩ := hheld.exists_agrees
    obtain ⟨p, hp, rfl⟩ := List.mem_map.mp hstep
    cases hf
    exact ⟨p, hp, hagrees⟩
  · rintro ⟨p, hp, hagrees⟩
    induction sets using List.reverseRecOn with
    | nil => cases hp
    | append_singleton sets last ih =>
      have hsteps : setSteps (sets ++ [last]) = setSteps sets ++ [.set last.1 last.2] :=
        List.map_append
      simp only [hsteps, held_concat_iff]
      by_cases hlast : last.1.Agrees e
      · exact ⟨some last.2, .inl ⟨hlast, rfl⟩⟩
      · have hp : p ∈ sets := by
          rcases List.mem_append.mp hp with hp | hp
          · exact hp
          · rw [List.mem_singleton.mp hp] at hagrees
            exact absurd hagrees hlast
        obtain ⟨content, hheld⟩ := ih hp
        exact ⟨content, .inr ⟨hheld, hlast⟩⟩

theorem exists_result_of_held (h : Held (setSteps sets) e content) :
    ∃ result, content = some result := by
  obtain ⟨before, step, after, hsteps, hputs, _⟩ := h
  have hstep : step ∈ setSteps sets := by
    rw [hsteps]
    exact List.mem_append_right _ List.mem_cons_self
  obtain ⟨p, _, rfl⟩ := List.mem_map.mp hstep
  exact ⟨p.2, hputs.2⟩

/-- What has too long a name leaves the store as it was. -/
theorem runSteps_storedOf (hwords : ∀ p ∈ sets, IsWord p.1.component) :
    runSteps (setSteps sets) = runSteps (setSteps (storedOf sets)) := by
  unfold runSteps
  generalize ({} : Store) = s
  induction sets generalizing s with
  | nil => rfl
  | cons p sets ih =>
    obtain ⟨hword, hwords⟩ := List.forall_mem_cons.mp hwords
    cases hstorable : storable p.1.name with
    | true =>
      have hstored : storedOf (p :: sets) = p :: storedOf sets := List.filter_cons_of_pos hstorable
      rw [hstored]
      exact bind_congr fun s => ih hwords s
    | false =>
      have hstored : storedOf (p :: sets) = storedOf sets :=
        List.filter_cons_of_neg (by simpa using hstorable)
      have hsame : (Step.set p.1 p.2).run s = .ok s := by
        change s.write p.1.name _ = _
        rw [write_eq_ite (Entry.not_mem_name hword rfl rfl), hstorable]
        rfl
      rw [hstored, ← ih hwords s]
      exact congrArg (· >>= _) hsame

end

/-- A store that results were stored in one after the other, with the entries that it has. -/
structure Filled (sets : List (Entry × Json)) (s : Store) (live : List Entry) : Prop where
  run : runSteps (setSteps sets) = .ok s
  lists : Lists live fun e => ∃ p ∈ storedOf sets, p.1.Agrees e
  names : live.map Entry.name = s.files.map Prod.fst
  sound : ∀ e ∈ live, e.Sound
  found : ∀ e ∈ live, ∃ result, (s.get e.component e.data).1 = some result

theorem exists_filled {sets : List (Entry × Json)} (hwords : ∀ p ∈ sets, IsWord p.1.component)
    (hcoll : NoCollisions (sets.map Prod.fst)) : ∃ s live, Filled sets s live := by
  have hsub : ∀ e ∈ (storedOf sets).map Prod.fst, e ∈ sets.map Prod.fst :=
    fun e he => (List.filter_sublist.map Prod.fst).subset he
  have hcoll : NoCollisions ((storedOf sets).map Prod.fst) :=
    fun e he f hf => hcoll e (hsub e he) f (hsub f hf)
  have hsound : ∀ e ∈ (storedOf sets).map Prod.fst, e.Sound := by
    intro e he
    obtain ⟨p, hp, rfl⟩ := List.mem_map.mp he
    obtain ⟨hmem, hstorable⟩ := List.mem_filter.mp hp
    rw [storable, Bool.and_eq_true, decide_eq_true_iff] at hstorable
    exact ⟨hwords p hmem, hstorable.2⟩
  have hsteps : ∀ step ∈ setSteps (storedOf sets), ∀ e ∈ step.entry?,
      e ∈ (storedOf sets).map Prod.fst := by
    intro step hstep e he
    obtain ⟨p, hp, rfl⟩ := List.mem_map.mp hstep
    cases he
    exact List.mem_map_of_mem hp
  obtain ⟨s, hrun, hrecords⟩ := exists_runSteps hcoll hsound _ hsteps
  obtain ⟨live, hnames, hmem, hlists⟩ := hrecords.exists_live hcoll hsteps
  refine ⟨s, live, (runSteps_storedOf hwords).trans hrun, ?_, hnames,
    fun e he => hsound e (hmem e he), fun e he => ?_⟩
  · simpa only [exists_held_setSteps_iff] using hlists
  · obtain ⟨content, hheld⟩ := hlists.holds e he
    obtain ⟨result, rfl⟩ := exists_result_of_held hheld
    refine ⟨result, ?_⟩
    rw [get_fst, Option.join_eq_some_iff]
    exact (hrecords.file? e (hmem e he) _).mpr hheld

namespace Filled

variable {sets : List (Entry × Json)} {s : Store} {live : List Entry} {c : Text}

theorem perm_names (h : Filled sets s live) : s.names.Perm (live.map Entry.name) := by
  rw [h.names]
  exact List.mergeSort_perm ..

theorem filesOf_eq (h : Filled sets s live) (hc : IsWord c) :
    s.filesOf c = .ok (s.names.filter (Text.fitsPattern (pattern c))) := by
  refine Store.filesOf_eq hc fun name hname => ?_
  obtain ⟨e, he, hname⟩ := List.mem_map.mp (h.perm_names.mem_iff.mp hname)
  exact ⟨e, h.sound e he, hname⟩

theorem length_filter_names (h : Filled sets s live) (hc : IsWord c) :
    (s.names.filter (Text.fitsPattern (pattern c))).length =
      live.countP fun e => e.TakenFor c := by
  rw [← List.countP_eq_length_filter, h.perm_names.countP_eq, List.countP_map]
  refine List.countP_congr fun e _ => ?_
  rw [Function.comp_apply, fitsPattern_name_iff hc, decide_eq_true_iff]

theorem breakdown_eq (h : Filled sets s live) (c : Text) :
    (s.breakdown.lookup c).getD 0 = live.countP fun e => e.component = c := by
  rw [breakdown_lookup, List.count, List.countP_map, h.perm_names.countP_eq, List.countP_map]
  refine List.countP_congr fun e _ => ?_
  rw [Function.comp_apply, Function.comp_apply, componentOf_name, beq_iff_eq, decide_eq_true_iff]

theorem count_eq (h : Filled sets s live) (hc : IsWord c) :
    s.count c = .ok (live.countP fun e => e.TakenFor c) := by
  rw [count, h.filesOf_eq hc, Except.map, h.length_filter_names hc]

/-- Clearing a component removes the files that are taken for its own, and no others. -/
theorem exists_clearComponent (h : Filled sets s live) (hc : IsWord c) :
    ∃ s', s.clearComponent c = .ok (live.countP fun e => e.TakenFor c, s') ∧
      ∀ e ∈ live, s'.file? e.name = if e.TakenFor c then none else s.file? e.name := by
  refine ⟨_, by rw [clearComponent, h.filesOf_eq hc, Except.map, h.length_filter_names hc], ?_⟩
  intro e he
  have hname : e.name ∈ s.names := h.perm_names.mem_iff.mpr (List.mem_map_of_mem he)
  rw [file?_keep]
  by_cases htaken : e.TakenFor c
  · have hfits := (fitsPattern_name_iff hc e).mpr htaken
    simp [htaken, hname, hfits]
  · have hfits := mt (fitsPattern_name_iff hc e).mp htaken
    simp [htaken, hfits]

end Filled

/-! ## A component by itself -/

/-- A component is counted and cleared by itself: the count is the one of the breakdown, and what is
removed are the entries of the component. -/
structure Isolates (s : Store) (live : List Entry) (c : Text) : Prop where
  counted : s.count c = .ok ((s.breakdown.lookup c).getD 0)
  cleared : ∃ s', s.clearComponent c = .ok (live.countP fun e => e.component = c, s') ∧
    (∀ e ∈ live, e.component = c → s'.file? e.name = none) ∧
    ∀ e ∈ live, e.component ≠ c → (s'.get e.component e.data).1 = (s.get e.component e.data).1

theorem Filled.isolates_iff {sets : List (Entry × Json)} {s : Store} {live : List Entry} {c : Text}
    (h : Filled sets s live) (hc : IsWord c) :
    Isolates s live c ↔ ∀ e ∈ live, ¬ c ++ ['_'] <+: e.component := by
  obtain ⟨s', hclear, hfiles⟩ := h.exists_clearComponent hc
  constructor
  · -- an entry of a longer component is found before, and gone after
    intro hisolates e he hlonger
    obtain ⟨s'', hclear', _, hkept⟩ := hisolates.cleared
    obtain ⟨_, rfl⟩ := Prod.mk.inj (Except.ok.inj (hclear.symm.trans hclear'))
    have hne : e.component ≠ c := by
      intro hsame
      have := hlonger.length_le
      rw [hsame, List.length_append, List.length_singleton] at this
      omega
    obtain ⟨result, hfound⟩ := h.found e he
    have hgone := hfiles e he
    rw [if_pos (.inr hlonger), Entry.name] at hgone
    have hkept := hkept e he hne
    rw [hfound, get_fst, hgone] at hkept
    cases hkept
  · intro hnone
    have htaken : ∀ e ∈ live, (e.TakenFor c ↔ e.component = c) :=
      fun e he => or_iff_left (hnone e he)
    have hcount : (live.countP fun e => e.TakenFor c) = live.countP fun e => e.component = c :=
      List.countP_congr fun e he => by simp only [htaken e he]
    refine ⟨?_, s', ?_, fun e he hsame => ?_, fun e he hne => ?_⟩
    · rw [h.count_eq hc, h.breakdown_eq, hcount]
    · rw [hclear, hcount]
    · rw [hfiles e he, if_pos (.inl hsame)]
    · have hfile := hfiles e he
      rw [if_neg (mt (htaken e he).mp hne)] at hfile
      rw [get_fst, get_fst]
      exact congrArg Option.join hfile

/-- **A component is cleared and counted by itself exactly if no entry's component goes on from it after
an underscore.** After results were stored under any components that are words, those that could be
stored are found. The breakdown has the number of entries of a component; but its count, and what
clearing it removes, are those of its entries together with all of components that go on so. -/
theorem isolates_iff_none_longer (sets : List (Entry × Json))
    (hwords : ∀ p ∈ sets, IsWord p.1.component) (hcoll : NoCollisions (sets.map Prod.fst)) {c : Text}
    (hc : IsWord c) :
    ∃ s live, Filled sets s live ∧
      (s.breakdown.lookup c).getD 0 = (live.countP fun e => e.component = c) ∧
      s.count c = .ok (live.countP fun e => e.TakenFor c) ∧
      (∃ s', s.clearComponent c = .ok (live.countP fun e => e.TakenFor c, s') ∧
        ∀ e ∈ live, s'.file? e.name = if e.TakenFor c then none else s.file? e.name) ∧
      (Isolates s live c ↔ ∀ e ∈ live, ¬ c ++ ['_'] <+: e.component) := by
  obtain ⟨s, live, h⟩ := exists_filled hwords hcoll
  exact ⟨s, live, h, h.breakdown_eq c, h.count_eq hc, h.exists_clearComponent hc, h.isolates_iff hc⟩

/-! One result is stored under a component, and one under a component that goes on from it. -/

def shorterEntry : Entry := ⟨"a".toList, .int 1⟩

def longerEntry : Entry := ⟨"a_b".toList, .int 1⟩

def twoSets : List (Entry × Json) := [(shorterEntry, .int 1), (longerEntry, .int 2)]

theorem isWord_shorterEntry : IsWord shorterEntry.component := List.all_eq_true.mp (by decide +kernel)

theorem isWord_longerEntry : IsWord longerEntry.component := List.all_eq_true.mp (by decide +kernel)

theorem isWord_twoSets : ∀ p ∈ twoSets, IsWord p.1.component := by
  simp only [twoSets, List.forall_mem_cons]
  exact ⟨isWord_shorterEntry, isWord_longerEntry, nofun⟩

theorem noCollisions_twoSets : NoCollisions (twoSets.map Prod.fst) := by
  have hshown : shown shorterEntry.digested ≠ shown longerEntry.digested := by decide +kernel
  simp [NoCollisions, twoSets, hshown, hshown.symm]

theorem longer_component_is_isolated :
    ∃ s live, Filled twoSets s live ∧ Isolates s live "a_b".toList := by
  obtain ⟨s, live, h, _, _, _, hiff⟩ :=
    isolates_iff_none_longer twoSets isWord_twoSets noCollisions_twoSets isWord_longerEntry
  refine ⟨s, live, h, hiff.mpr fun e he hlonger => ?_⟩
  obtain ⟨p, hp, hagrees⟩ := h.lists.holds e he
  have hcomponents : ∀ p ∈ twoSets, ¬ longerEntry.component ++ ['_'] <+: p.1.component := by decide
  rw [← hagrees.component] at hlonger
  exact hcomponents p (List.mem_of_mem_filter hp) hlonger

/-- Clearing the first component takes the second one along. -/
theorem shorter_component_is_not_isolated :
    (∀ p ∈ twoSets, IsWord p.1.component) ∧ NoCollisions (twoSets.map Prod.fst) ∧
      IsWord "a".toList ∧ ∃ s live, Filled twoSets s live ∧ ¬ Isolates s live "a".toList ∧
        (s.get "a_b".toList (.int 1)).1 ≠ none ∧
        ∃ s', s.clearComponent "a".toList = .ok (live.countP fun e => e.TakenFor "a".toList, s') ∧
          (s'.get "a_b".toList (.int 1)).1 = none := by
  obtain ⟨s, live, h⟩ := exists_filled isWord_twoSets noCollisions_twoSets
  have hsound : longerEntry.Sound :=
    Entry.sound_of_plain isWord_longerEntry (List.all_eq_true.mp rfl) (by decide)
  have hstored : (longerEntry, .int 2) ∈ storedOf twoSets :=
    List.mem_filter.mpr ⟨by simp [twoSets], hsound.storable⟩
  obtain ⟨e, he, hagrees⟩ := h.lists.complete longerEntry ⟨_, hstored, .refl _⟩
  have hlonger : "a".toList ++ ['_'] <+: e.component := by
    rw [hagrees.component]
    decide
  have hget (s : Store) : (s.get "a_b".toList (.int 1)).1 = (s.file? e.name).join := by
    rw [get_fst, hagrees.name_eq]
    rfl
  obtain ⟨result, hfound⟩ := h.found e he
  rw [get_fst] at hfound
  obtain ⟨s', hclear, hfiles⟩ := h.exists_clearComponent isWord_shorterEntry
  have hgone := hfiles e he
  rw [if_pos (.inr hlonger)] at hgone
  refine ⟨isWord_twoSets, noCollisions_twoSets, isWord_shorterEntry, s, live, h,
    fun hisolates => (h.isolates_iff isWord_shorterEntry).mp hisolates e he hlonger, ?_, s', hclear, ?_⟩
  · rw [hget]
    exact fun hnone => Option.some_ne_none result (hfound.symm.trans hnone)
  · rw [hget, hgone]
    rfl

end TexSplice.Store
