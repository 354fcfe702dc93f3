import TexSplice.Apply.Basic

/-! # Which strategy wins, and what each one writes

The patch of a request is what the winning strategy made, and no strategy before it could act.
What a strategy makes is read off here once, so that no later proof opens a strategy again. -/
namespace TexSplice.Request

variable {r : Request} {p : Patch}

/-! ## What the events are of -/

theorem stage_of_mem_usableSelection {e : Event} (h : e ∈ r.usableSelection.1) :
    e.stage = "selection".toList := by
  unfold usableSelection at h
  split at h
  · cases h
  · split at h
    · cases h
    · split at h
      · cases h
      · rw [List.mem_singleton.mp h]
        rfl

theorem stage_of_mem_deleteUnnamed {e : Event} (h : e ∈ r.deleteUnnamed.1) :
    e.stage = "selection".toList := by
  unfold deleteUnnamed at h
  split at h
  · cases h
  · split at h
    · cases h
    · cases hu : r.usableSelection with
      | mk events selection =>
        rw [hu] at h
        refine stage_of_mem_usableSelection (r := r) ?_
        rw [hu]
        cases selection <;> exact h

theorem stage_of_mem_editFound {target : Text} {b : Boundary} {e : Event}
    (h : e ∈ (r.editFound target b).1) : e.stage = "section".toList := by
  have hadd (h : e ∈ (r.addTo target b).1) : e.stage = "section".toList := by
    unfold addTo at h
    dsimp only at h
    split at h
    · rw [List.mem_singleton.mp h]
      rfl
    · cases h
  unfold editFound replaceWhole at h
  cases ha : r.intent.action with
  | add | expand =>
    rw [ha] at h
    exact hadd h
  | delete | replace | fix | improve =>
    rw [ha] at h
    cases h

theorem stage_of_mem_editMissing {target : Text} {e : Event} (h : e ∈ (r.editMissing target).1) :
    e.stage = "section".toList := by
  unfold editMissing create at h
  split at h
  · split at h
    · rw [List.mem_singleton.mp h]
      rfl
    · cases h
  · cases h

theorem stage_of_obstacle? {target : Text} {e : Event} (h : r.obstacle? target = some e) :
    e.stage = "section".toList := by
  unfold obstacle? at h
  cases ha : r.intent.action with
  | delete | fix | improve =>
    rw [ha] at h
    dsimp only at h
    split at h <;> cases h
    rfl
  | add | expand | replace =>
    rw [ha] at h
    cases h

theorem stage_search (o : Outline) (target : Text) (found : Option Boundary) :
    (Event.search o target found).stage = "locate".toList := by
  cases found <;> rfl

/-- What is told of the named section: what stood against looking for it, whether it was found, and
how it was then edited or written. -/
theorem mem_editSection {e : Event} (h : e ∈ r.editSection.1) :
    ∃ target, Intent.named? r.intent.target = some target ∧
      (r.obstacle? target = some e ∨
        e = Event.search r.outline target (r.outline.boundary? r.document target) ∨
        (∃ b, r.outline.boundary? r.document target = some b ∧ e ∈ (r.editFound target b).1) ∨
        (r.outline.boundary? r.document target = none ∧ e ∈ (r.editMissing target).1)) := by
  unfold editSection at h
  cases hn : Intent.named? r.intent.target with
  | none => simp [hn] at h
  | some target =>
    refine ⟨target, rfl, ?_⟩
    cases ho : r.obstacle? target with
    | some event =>
      simp only [hn, ho, List.mem_singleton] at h
      exact .inl (congrArg some h.symm)
    | none =>
      cases hb : r.outline.boundary? r.document target with
      | some b =>
        simp only [hn, ho, hb, List.mem_cons] at h
        exact .inr (h.imp_right fun h => .inl ⟨b, rfl, h⟩)
      | none =>
        simp only [hn, ho, hb, List.mem_cons] at h
        exact .inr (h.imp_right fun h => .inr ⟨rfl, h⟩)

theorem stage_of_mem_editSection {e : Event} (h : e ∈ r.editSection.1) :
    e.stage = "locate".toList ∨ e.stage = "section".toList := by
  obtain ⟨target, _, ho | rfl | ⟨b, _, hfound⟩ | ⟨_, hmissing⟩⟩ := mem_editSection h
  · exact .inr (stage_of_obstacle? ho)
  · exact .inl (stage_search ..)
  · exact .inr (stage_of_mem_editFound hfound)
  · exact .inr (stage_of_mem_editMissing hmissing)

/-- Strategies tell of sections and selections; whether they could act is told by others. -/
theorem stage_of_mem_attempt {s : Strategy} {e : Event} (h : e ∈ (r.attempt s).1) :
    e.stage = "locate".toList ∨ e.stage = "section".toList ∨ e.stage = "selection".toList := by
  cases s with
  | namedSection => exact (stage_of_mem_editSection h).imp_right .inl
  | deletion => exact .inr (.inr (stage_of_mem_deleteUnnamed h))
  | selection => exact .inr (.inr (stage_of_mem_usableSelection h))
  | cursor | documentStart => cases h

/-! ## The first strategy that can act -/

/-- The events by which one can tell which strategies were passed over and which one acted. -/
def outcomes (events : List Event) : List Event := events.filter fun e => e.stage = "apply".toList

theorem outcomes_append (l l' : List Event) : outcomes (l ++ l') = outcomes l ++ outcomes l' :=
  List.filter_append ..

theorem outcomes_skipped (s : Strategy) (l : List Event) :
    outcomes (.skipped s :: l) = .skipped s :: outcomes l := List.filter_cons_of_pos rfl

theorem outcomes_attempt (r : Request) (s : Strategy) : outcomes (r.attempt s).1 = [] := by
  refine List.filter_eq_nil_iff.mpr fun e he => ?_
  rcases stage_of_mem_attempt he with h | h | h <;> rw [h] <;> decide

theorem firstOf_spec (r : Request) : ∀ l : List Strategy,
    (r.attempt (r.firstOf l).2.1).2 = some (r.firstOf l).2.2 ∧
      ∃ before after, l ++ [.documentStart] = before ++ (r.firstOf l).2.1 :: after ∧
        (∀ s ∈ before, (r.attempt s).2 = none) ∧
        outcomes (r.firstOf l).1 = before.map .skipped
  | [] => ⟨rfl, [], [], rfl, fun _ h => (nomatch h), rfl⟩
  | s :: rest => by
    obtain ⟨hwin, before, after, hl, hnone, hskipped⟩ := firstOf_spec r rest
    have hsilent := r.outcomes_attempt s
    cases hs : r.attempt s with
    | mk events patch =>
      rw [hs] at hsilent
      cases patch with
      | some patch =>
        refine ⟨by simp [firstOf, hs], [], rest ++ [.documentStart], by simp [firstOf, hs], ?_, ?_⟩
        · exact fun _ h => nomatch h
        · simpa [firstOf, hs] using hsilent
      | none =>
        simp only [firstOf, hs]
        refine ⟨hwin, s :: before, after, by rw [List.cons_append, hl, List.cons_append], ?_, ?_⟩
        · intro u hu
          rcases List.mem_cons.mp hu with rfl | hu
          · rw [hs]
          · exact hnone u hu
        · rw [outcomes_append, hsilent, outcomes_skipped, hskipped]
          rfl

theorem attempt_strategy (r : Request) :
    (r.attempt r.apply.strategy).2 = some r.apply.patch :=
  (r.firstOf_spec [.namedSection, .deletion, .selection, .cursor]).1

theorem attempt_before (r : Request) :
    ∃ before after, Strategy.all = before ++ r.apply.strategy :: after ∧
      ∀ s ∈ before, (r.attempt s).2 = none := by
  obtain ⟨_, before, after, hall, hnone, _⟩ :=
    r.firstOf_spec [.namedSection, .deletion, .selection, .cursor]
  exact ⟨before, after, hall, hnone⟩

/-- A strategy that can act is not passed over: none after it wins. -/
theorem idxOf_strategy_le {s : Strategy} (h : (r.attempt s).2 ≠ none) :
    Strategy.all.idxOf r.apply.strategy ≤ Strategy.all.idxOf s := by
  obtain ⟨before, after, hall, hnone⟩ := r.attempt_before
  have hs : s ∉ before := fun hs => h (hnone s hs)
  have hwin : (before ++ r.apply.strategy :: after).idxOf r.apply.strategy ≤ before.length := by
    rw [List.idxOf_append]
    split
    · exact Nat.le_of_lt (List.idxOf_lt_length_of_mem ‹_›)
    · have hzero : (r.apply.strategy :: after).idxOf r.apply.strategy = 0 := List.idxOf_cons_self
      omega
  have hlater : before.length ≤ (before ++ r.apply.strategy :: after).idxOf s := by
    rw [List.idxOf_append, if_neg hs]
    exact Nat.le_add_left ..
  rw [hall]
  exact Nat.le_trans hwin hlater

/-! ## The named section -/

def located? (r : Request) : Option Boundary :=
  (Intent.named? r.intent.target).bind fun name => r.outline.boundary? r.document name

/-- A section is edited only if it is named and nothing stands against it; then it was found and
is edited, or was not found and is written. -/
theorem editSection_eq_some (h : r.editSection.2 = some p) :
    ∃ target, Intent.named? r.intent.target = some target ∧ r.obstacle? target = none ∧
      ((∃ b, r.located? = some b ∧ (r.editFound target b).2 = some p) ∨
        (r.located? = none ∧ (r.editMissing target).2 = some p)) := by
  unfold editSection at h
  unfold located?
  cases hn : Intent.named? r.intent.target with
  | none => simp [hn] at h
  | some target =>
    cases ho : r.obstacle? target with
    | some event => simp [hn, ho] at h
    | none =>
      refine ⟨target, rfl, ho, ?_⟩
      simp only [hn, ho] at h
      simp only [Option.bind_some]
      cases hb : r.outline.boundary? r.document target with
      | some b => exact .inl ⟨b, rfl, by simpa [hb] using h⟩
      | none => exact .inr ⟨rfl, by simpa [hb] using h⟩

theorem located?_eq_some {b : Boundary} (h : r.located? = some b) :
    b.frame = Frame.around b.found.heading.title r.document (r.outline.sectionSpan b.found) := by
  obtain ⟨name, _, hb⟩ := Option.bind_eq_some_iff.mp h
  obtain ⟨⟨s, tier⟩, _, rfl⟩ := Option.map_eq_some_iff.mp hb
  rfl

theorem editFound_inserts {target : Text} {b : Boundary} (hi : r.intent.action.inserts = true)
    (h : (r.editFound target b).2 = some p) :
    ∃ content, content ≠ [] ∧ content = Reply.stripHeading r.content (some b.found.heading) ∧
      p = .ofEdit (b.frame.add content r.intent.placement) := by
  have hadd : (r.editFound target b).2 = (r.addTo target b).2 := by
    unfold editFound
    cases ha : r.intent.action <;> simp_all [Action.inserts]
  rw [hadd] at h
  simp only [addTo] at h
  split at h
  · cases h
  · rename_i hne
    cases h
    exact ⟨_, by simpa using hne, rfl, rfl⟩

/-- Any other action takes a section that was found out, or puts the content in its place. -/
theorem editFound_replaces {target : Text} {b : Boundary} (hi : r.intent.action.inserts = false)
    (h : (r.editFound target b).2 = some p) :
    p = .ofEdit (if r.intent.action = .delete then b.frame.delete else b.frame.replace r.content) := by
  unfold editFound replaceWhole at h
  cases ha : r.intent.action <;> simp_all [Action.inserts]

/-- A section that was not found is written if the action inserts, the intent asks for it and the
reply has content. -/
theorem editMissing_eq_some {target : Text} (h : (r.editMissing target).2 = some p) :
    r.intent.action.inserts = true ∧ r.intent.creates = true ∧ r.content ≠ [] ∧
      p = .ofEdit (r.outline.create r.document (Reply.withHeading r.content target) target) := by
  unfold editMissing create at h
  split at h
  · rename_i hi
    split at h
    · rename_i hc
      cases h
      obtain ⟨hc, hne⟩ := Bool.and_eq_true_iff.mp hc
      exact ⟨hi, hc, by simpa using hne, rfl⟩
    · cases h
  · cases h

/-- Whether the named section is edited or written: a deletion has to be confirmed, a mended
section has to come with its heading, an addition has to add something, and only an addition can
do without a section that is there. -/
def editsSection (r : Request) : Bool :=
  match r.intent.action with
  | .delete => Reply.confirmsDeletion r.reply && r.located?.isSome
  | .replace => r.located?.isSome
  | .fix | .improve => Reply.startsWithHeading r.content && r.located?.isSome
  | .add | .expand =>
    match r.located? with
    | some b => !(Reply.stripHeading r.content (some b.found.heading)).isEmpty
    | none => (Intent.named? r.intent.target).isSome && r.intent.creates && !r.content.isEmpty

theorem isSome_editFound (r : Request) (target : Text) (b : Boundary) :
    (r.editFound target b).2.isSome = (!r.intent.action.inserts ||
      !(Reply.stripHeading r.content (some b.found.heading)).isEmpty) := by
  unfold editFound replaceWhole addTo
  cases r.intent.action <;> simp only [Action.inserts] <;> try rfl
  all_goals cases (Reply.stripHeading r.content (some b.found.heading)).isEmpty <;> rfl

theorem isSome_editMissing (r : Request) (target : Text) :
    (r.editMissing target).2.isSome =
      (r.intent.action.inserts && (r.intent.creates && !r.content.isEmpty)) := by
  unfold editMissing create
  cases r.intent.action.inserts <;> cases r.intent.creates && !r.content.isEmpty <;> rfl

/-- Nothing stands against an addition or a replacement, a deletion has to be confirmed, and a
mended section has to come with its heading. -/
theorem isNone_obstacle? (r : Request) (target : Text) :
    (r.obstacle? target).isNone = match r.intent.action with
      | .delete => Reply.confirmsDeletion r.reply
      | .fix | .improve => Reply.startsWithHeading r.content
      | .add | .expand | .replace => true := by
  unfold obstacle?
  cases r.intent.action with
  | delete => cases Reply.confirmsDeletion r.reply <;> rfl
  | fix | improve => cases Reply.startsWithHeading r.content <;> rfl
  | add | expand | replace => rfl

theorem isSome_editSection (r : Request) : r.editSection.2.isSome = r.editsSection := by
  unfold editSection editsSection located?
  cases hn : Intent.named? r.intent.target with
  | none => cases r.intent.action <;> simp
  | some target =>
    have obstacle := r.isNone_obstacle? target
    have found := r.isSome_editFound target
    have missing := r.isSome_editMissing target
    cases ho : r.obstacle? target with
    | some event =>
      rw [ho] at obstacle
      cases ha : r.intent.action <;> simp_all
    | none =>
      rw [ho] at obstacle
      cases hb : r.outline.boundary? r.document target with
      | some b => cases ha : r.intent.action <;> simp_all [Action.inserts]
      | none => cases ha : r.intent.action <;> simp_all [Action.inserts]

/-- The named section is dealt with first, so nothing else is done where it can be edited. -/
theorem strategy_eq_namedSection_iff (r : Request) :
    r.apply.strategy = .namedSection ↔ r.editsSection = true := by
  rw [← isSome_editSection]
  constructor
  · intro hs
    have hwin := r.attempt_strategy
    rw [hs] at hwin
    exact Option.isSome_of_eq_some hwin
  · intro hp
    have hfirst := r.idxOf_strategy_le (s := .namedSection) (Option.isSome_iff_ne_none.mp hp)
    revert hfirst
    cases r.apply.strategy <;> decide

/-! ## Selection and cursor -/

/-- The selection, if it is not empty and lies within the document. -/
def usable? (r : Request) : Option Span :=
  r.selection.filter fun s => !s.isEmpty && s.fits r.document

theorem usableSelection_eq (r : Request) : r.usableSelection.2 = r.usable? := by
  unfold usableSelection usable?
  cases r.selection with
  | none => rfl
  | some s => cases he : s.isEmpty <;> cases hf : s.fits r.document <;> simp [Option.filter, he, hf]

theorem usable?_eq_some {s : Span} (h : r.usable? = some s) :
    r.selection = some s ∧ s.start < s.stop ∧ s.stop ≤ r.document.length := by
  obtain ⟨hs, hu⟩ := Option.filter_eq_some_iff.mp h
  obtain ⟨he, hf⟩ := Bool.and_eq_true_iff.mp hu
  have := s.start_le_stop
  simp only [Span.isEmpty, Span.fits, Bool.not_eq_true', beq_eq_false_iff_ne,
    decide_eq_true_eq] at he hf
  exact ⟨hs, by omega, hf⟩

/-- Without a named section a deletion that the reply does not contradict takes out the selection,
or everything. -/
theorem deleteUnnamed_eq_some (h : r.deleteUnnamed.2 = some p) :
    r.intent.action = .delete ∧ Intent.named? r.intent.target = none ∧
      (Text.allBlank r.reply = true ∨ Reply.confirmsDeletion r.reply = true) ∧
      p = match r.usable? with
        | some s => .ofSpan r.document s []
        | none => .clear := by
  unfold deleteUnnamed at h
  split at h
  · cases h
  · rename_i hc
    split at h
    · cases h
    · rename_i hr
      simp only [Bool.or_eq_true, bne_iff_ne, Option.isSome_iff_ne_none, not_or,
        Classical.not_not] at hc
      refine ⟨hc.1, hc.2, ?_, ?_⟩
      · cases hb : Text.allBlank r.reply <;> simp_all
      · rw [← usableSelection_eq]
        cases hu : r.usableSelection with
        | mk events selection =>
          simp only [hu] at h
          cases selection <;> simp_all

theorem replaceSelection_eq (r : Request) :
    r.replaceSelection.2 = r.usable?.map fun s => .ofSpan r.document s r.content := by
  rw [← usableSelection_eq]
  rfl

end TexSplice.Request
