import TexSplice.Proofs.Apply.Fallback
import TexSplice.Proofs.Session.Steps

/-! # What a selection confines

A session with a selection asks for the selected text only, but the reply goes to the named
section first. So the selection confines the change exactly where the reply is no edit of a
section; an edit of a section is confined to that section instead, wherever the selection is. -/
namespace TexSplice
open Text (solid)

/-- Two texts are the same before and after a span of the first. -/
def SameOutside (s : Span) (t u : Text) : Prop := ∃ x, u = t.take s.start ++ x ++ t.drop s.stop

theorem SameOutside.length_le {s : Span} {t u : Text} (h : SameOutside s t u)
    (hs : s.start ≤ t.length) : s.start + (t.length - s.stop) ≤ u.length := by
  obtain ⟨x, rfl⟩ := h
  simp only [List.length_append, List.length_take, List.length_drop]
  omega

namespace Request

variable {r : Request}

/-! ## Requests -/

theorem sameOutside_selection {sel : Span} (hu : r.usable? = some sel)
    (he : r.editsSection = false) : SameOutside sel r.document r.apply.patch.document := by
  have hs : r.apply.strategy ≠ .namedSection := by
    rw [ne_eq, strategy_eq_namedSection_iff, he]
    exact Bool.false_ne_true
  obtain ⟨place, hplace, _, hp⟩ := attempt_eq_some (fun h => hs h.1) r.attempt_strategy
  rw [place?_strategy_of_usable hu hs] at hplace
  cases hplace
  rw [hp]
  exact ⟨_, rfl⟩

/-- A patch of the named section leaves alone all that is outside the section, or all of the
document if the section was written anew. -/
def PatchesSection (r : Request) (p : Patch) : Prop :=
  match r.located? with
  | some b => SameOutside (r.outline.sectionSpan b.found) r.document p.document
  | none => solid (p.range.replace p.document []) = solid r.document

theorem patchesSection (he : r.editsSection = true) : r.PatchesSection r.apply.patch := by
  have hwin := r.attempt_strategy
  rw [(strategy_eq_namedSection_iff r).mpr he] at hwin
  unfold PatchesSection
  cases hi : r.intent.action.inserts with
  | false =>
    obtain ⟨place, hplace, _, hp⟩ := attempt_eq_some (by simp [hi]) hwin
    obtain ⟨b, hb, rfl⟩ := Option.map_eq_some_iff.mp hplace
    rw [hb, hp]
    exact ⟨_, rfl⟩
  | true =>
    obtain ⟨target, _, _, ⟨b, hb, hp⟩ | ⟨hb, _⟩⟩ := editSection_eq_some hwin
    · obtain ⟨content, _, _, hp⟩ := editFound_inserts hi hp
      obtain ⟨x, hx⟩ := b.frame.exists_document_add content r.intent.placement
      rw [hb, hp]
      refine ⟨x, hx.trans ?_⟩
      rw [located?_eq_some hb]
      rfl
    · rw [hb]
      exact solid_remainder_editSection hi hwin

end Request

namespace Session

variable {σ : Type} {t : Task} {sel : Span}

/-! ## Sessions -/

theorem Task.usable?_request (hsel : t.selection = some sel) (hne : sel.isEmpty = false)
    (hfits : sel.fits t.document = true) (reply : Text) :
    (t.request reply).usable? = some sel := by
  simp [Request.usable?, request, hsel, Option.filter, hne, hfits]

/-- With a selection the prompt shows the selected text and asks for no other. -/
theorem Task.prompt_of_selection (hsel : t.selection = some sel) (hne : sel.isEmpty = false)
    (hfits : sel.fits t.document = true) :
    t.prompt = .ok (Prompt.aboutSelection t.instruction (sel.cut t.document) t.intent.action ++
      ['\n', '\n'] ++ Prompt.rules t.intent.action t.intent.target true) := by
  have hcut : sel.cut t.document ≠ [] := by
    have := sel.start_le_stop
    simp only [Span.isEmpty, Span.fits, beq_eq_false_iff_ne, decide_eq_true_eq] at hne hfits
    refine List.ne_nil_of_length_pos ?_
    simp only [Span.cut, Text.slice, List.length_drop, List.length_take]
    omega
  have hselected : Prompt.selected t.document (some sel) = sel.cut t.document := by
    simp [Prompt.selected, hne, hfits]
  simp [prompt_eq, known, Brief.prompt, Prompt.Ask.prompt, Prompt.Ask.subject,
    Prompt.Ask.selectedText, hsel, hselected, List.isEmpty_eq_false_iff.mpr hcut, Except.map,
    Prompt.Ask.body]

/-- A generator that answers with text at once has given the reply. -/
theorem Task.reply_of_answer {g : Generator σ} {policy : Policy} {prompt reply : Text} {s s' : σ}
    (hp : t.prompt = .ok prompt) (hpolicy : 0 < policy.maxAttempts)
    (hg : g prompt s = (.ok (some reply), s')) (hb : Text.allBlank reply = false) :
    t.reply g policy s = (.ok reply, s') := by
  obtain ⟨left, hleft⟩ : ∃ left, policy.maxAttempts.toNat = left + 1 :=
    ⟨policy.maxAttempts.toNat - 1, by omega⟩
  simp [t.reply_of_prompt hp, hleft, ask, hg, hb]

theorem Desk.run_of_reply {d : Desk σ} {g : Generator σ} {policy : Policy} {reply : Text}
    (hreply : (t.reply g policy d.generator).1 = .ok reply) :
    (d.run g policy t).1 = .ok (t.succeed policy (idOf (d.count + 1)) reply) := by
  simp [run_eq, hreply]

/-- **A selection confines a session, unless the named section is edited.** The prompt asks for
the selected text only. The change stays within the selection for every reply that is no edit of
the section which the instruction names. For one that is, the section takes the place of the
selection: the change stays within the section that was found, or it adds one and takes nothing
but blanks away. -/
theorem run_with_selection (d : Desk σ) (g : Generator σ) (policy : Policy) (t : Task) (sel : Span)
    (reply : Text) (hsel : t.selection = some sel) (hne : sel.isEmpty = false)
    (hfits : sel.fits t.document = true)
    (hreply : (t.reply g policy d.generator).1 = .ok reply) :
    t.prompt = .ok (Prompt.aboutSelection t.instruction (sel.cut t.document) t.intent.action ++
      ['\n', '\n'] ++ Prompt.rules t.intent.action t.intent.target true) ∧
    ∃ o a, (d.run g policy t).1 = .ok o ∧ o.reply? = some reply ∧ o.applied? = some a ∧
      let r := t.request reply
      (r.editsSection = false → SameOutside sel t.document a.patch.document) ∧
      (r.editsSection = true → a.strategy = .namedSection ∧ r.PatchesSection a.patch) := by
  have hu := Task.usable?_request hsel hne hfits reply
  refine ⟨Task.prompt_of_selection hsel hne hfits, _, (t.request reply).apply,
    Desk.run_of_reply hreply, rfl, rfl, ?_, ?_⟩
  · intro he
    exact Request.sameOutside_selection hu he
  · intro he
    exact ⟨(Request.strategy_eq_namedSection_iff _).mpr he, Request.patchesSection he⟩

/-- The instruction names no section, so the reply stands in the place of the selected word. -/
theorem run_with_selection_of_word :
    let t : Task := ⟨"one two".toList, "fix it".toList, some (Span.sized 4 3), none⟩
    let g : Generator Unit := fun _ s => (.ok (some "three".toList), s)
    ∃ o a, ((Desk.mk () 0 []).run g {} t).1 = .ok o ∧ o.reply? = some "three".toList ∧
      o.applied? = some a ∧ SameOutside (Span.sized 4 3) t.document a.patch.document := by
  intro t g
  have hsel : t.selection = some (Span.sized 4 3) := rfl
  have hp := Task.prompt_of_selection hsel rfl rfl
  have hreply : t.reply g {} () = (.ok "three".toList, ()) :=
    Task.reply_of_answer hp (by decide) rfl rfl
  have he : (t.request "three".toList).editsSection = false := by decide +kernel
  obtain ⟨_, o, a, ho, hr, ha, hconfined, _⟩ :=
    run_with_selection ⟨(), 0, []⟩ g {} t (Span.sized 4 3) _ hsel rfl rfl (congrArg Prod.fst hreply)
  exact ⟨o, a, ho, hr, ha, hconfined he⟩

/-- A selection alone does not confine a session: here the instruction names the section that the
selected word stands in, and the heading before the word is lost with it. -/
theorem run_past_selection :
    let t : Task :=
      ⟨"\\section{results}\nab\ncd".toList, "replace results".toList, some (Span.sized 18 2), none⟩
    let g : Generator Unit := fun _ s => (.ok (some "x".toList), s)
    ∃ o a, ((Desk.mk () 0 []).run g {} t).1 = .ok o ∧ o.reply? = some "x".toList ∧
      o.applied? = some a ∧ ¬ SameOutside (Span.sized 18 2) t.document a.patch.document := by
  intro t g
  have hsel : t.selection = some (Span.sized 18 2) := rfl
  have hp := Task.prompt_of_selection hsel rfl rfl
  have hreply : t.reply g {} () = (.ok "x".toList, ()) :=
    Task.reply_of_answer hp (by decide) rfl rfl
  have hdocument : (t.request "x".toList).apply.patch.document = "x".toList := by decide +kernel
  refine ⟨_, (t.request "x".toList).apply, Desk.run_of_reply (congrArg Prod.fst hreply), rfl, rfl,
    fun h => ?_⟩
  have hlen := h.length_le (by decide)
  rw [hdocument] at hlen
  exact absurd hlen (by decide)

end Session

end TexSplice
