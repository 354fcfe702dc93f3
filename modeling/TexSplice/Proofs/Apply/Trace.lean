import TexSplice.Apply.Guarded
import TexSplice.Proofs.Apply.Keeps
import TexSplice.Proofs.Splice.Accounting
import TexSplice.Proofs.Target.Tiling

/-! # Every request is carried out, and its trace is true

Nothing that could be refused on the way from an instruction to a new document ever is: an outline
made afresh fits its text, a section that was found starts where its frame says, and the start of the
document can always be written to. The range of the patch lies in the new document, and the trace tells
every strategy that was passed over, in order, and then the one that acted. -/
namespace TexSplice

open Outline (ofText)

/-! ## Ranges -/

namespace Patch

/-- A patch whose range lies within its document. -/
def Fits (p : Patch) : Prop := p.range.stop ≤ p.document.length

theorem fits_ofSpan {t : Text} {s : Span} (content : Text) (hs : s.start ≤ t.length) :
    (ofSpan t s content).Fits := by
  simp only [Fits, ofSpan, Span.sized, Span.replace, List.length_append, List.length_take]
  omega

theorem fits_ofEdit {e : Edit} {t written : Text} (h : e.Accounts t written) : (ofEdit e).Fits := by
  have hfits := h.fits
  rwa [Span.fits, decide_eq_true_eq] at hfits

theorem moved_zero (p : Patch) : p.moved 0 = .ok p := by
  rw [moved, Span.moved?_zero]

end Patch

namespace Request

variable {r : Request} {p : Patch}

/-- Whatever strategy acts, the range of its patch lies in the new document. -/
theorem fits_attempt {s : Strategy} (h : (r.attempt s).2 = some p) : p.Fits := by
  by_cases hs : s = .namedSection ∧ r.intent.action.inserts = true
  · obtain ⟨rfl, hi⟩ := hs
    obtain ⟨target, _, _, ⟨b, _, hp⟩ | ⟨_, hp⟩⟩ := editSection_eq_some h
    · obtain ⟨content, _, _, rfl⟩ := editFound_inserts hi hp
      exact Patch.fits_ofEdit ((SectionEdit.add content _).accounts_run b.frame)
    · obtain ⟨_, _, _, rfl⟩ := editMissing_eq_some hp
      exact Patch.fits_ofEdit (accounts_create ..)
  · obtain ⟨place, _, hle, rfl⟩ := attempt_eq_some hs h
    exact Patch.fits_ofSpan _ hle

/-! ## Nothing is refused -/

/-- A section that was found starts where its frame does, so its range stays where it is. -/
theorem editGuarded_some {target : Text} {b : Boundary}
    (h : r.outline.boundary? r.document target = some b) :
    r.editGuarded target (some b) = .ok (r.editFound target b) := by
  obtain ⟨hmem, hframe⟩ := Outline.boundary?_eq_some h
  have hstart : b.frame.start = b.found.span.start := by
    rw [hframe]
    exact Frame.start_around _ (Outline.sectionStop_le_length hmem)
  simp only [editGuarded, hstart, Int.sub_self, Patch.moved_zero]
  rcases r.editFound target b with ⟨events, _ | patch⟩ <;> rfl

theorem editSectionGuarded_eq (r : Request) : r.editSectionGuarded r.outline = .ok r.editSection := by
  have hlocate (target : Text) :
      r.outline.locate r.document target = .ok (r.outline.boundary? r.document target) :=
    Outline.locate_ofText r.document target
  unfold editSectionGuarded editSection
  cases Intent.named? r.intent.target with
  | none => rfl
  | some target =>
    cases ho : r.obstacle? target with
    | some event => simp only [ho]
    | none =>
      simp only [ho, hlocate]
      cases hb : r.outline.boundary? r.document target with
      | none => rfl
      | some b =>
        change (r.editGuarded target (some b) >>= _) = _
        rw [editGuarded_some hb]
        rfl

theorem attemptGuarded_eq (r : Request) (s : Strategy) :
    r.attemptGuarded r.outline s = .ok (r.attempt s) := by
  cases s with
  | namedSection => exact r.editSectionGuarded_eq
  | deletion | selection | cursor | documentStart =>
    simp only [attemptGuarded, Patch.moved_zero]
    split
    · rename_i heq
      rw [heq]
    · rename_i heq
      rw [heq]
      rfl

/-- The start of the document can always be written to. -/
theorem firstGuarded_eq (r : Request) : ∀ l : List Strategy,
    r.firstGuarded r.outline (l ++ [.documentStart]) = .ok (r.firstOf l)
  | [] => by
    simp only [List.nil_append, firstGuarded, attemptGuarded_eq]
    rfl
  | s :: rest => by
    have ih := firstGuarded_eq r rest
    simp only [List.cons_append, firstGuarded, firstOf, attemptGuarded_eq, ih]
    rcases r.attempt s with ⟨events, _ | patch⟩ <;> rfl

theorem applyGuarded_eq (r : Request) : r.applyGuarded r.outline = .ok r.apply := by
  have hfirst := r.firstGuarded_eq [.namedSection, .deletion, .selection, .cursor]
  have hall : [.namedSection, .deletion, .selection, .cursor] ++ [.documentStart] = Strategy.all := rfl
  rw [hall] at hfirst
  rw [applyGuarded, hfirst]
  rfl

theorem carryOut_eq (instruction document : Text) (reply : Option Text) (selection : Option Span)
    (cursor : Option Int) (intent : Option Intent) :
    carryOut instruction document reply selection cursor intent =
      .ok (ofInstruction instruction document (reply.getD []) selection cursor intent).apply := by
  rw [carryOut, Outline.read_eq]
  exact applyGuarded_eq (ofInstruction instruction document (reply.getD []) selection cursor intent)

/-- Every strategy that was passed over is told, in order, and then the one that acted. -/
theorem exists_outcomes (r : Request) :
    ∃ before after, Strategy.all = before ++ r.apply.strategy :: after ∧
      outcomes r.apply.trace =
        before.map .skipped ++ [.applied r.apply.strategy r.apply.patch.range] := by
  obtain ⟨_, before, after, hall, _, hskipped⟩ :=
    r.firstOf_spec [.namedSection, .deletion, .selection, .cursor]
  have htrace : r.apply.trace = [.classified r.intent] ++
      (r.firstOf [.namedSection, .deletion, .selection, .cursor]).1 ++
        [.applied r.apply.strategy r.apply.patch.range] := rfl
  refine ⟨before, after, hall, ?_⟩
  rw [htrace, outcomes_append, outcomes_append, hskipped]
  rfl

end Request

/-! ## The whole way -/

/-- **Every request is carried out, and its trace is true.** Nothing is refused on the way, whatever the
instruction, the reply, the selection, the cursor and the intent are. The range of the patch lies in
the new document. The trace starts with the intent; of the outcomes of strategies it tells first that
those before the one reported were passed over, in order, and last that this one acted, and where. -/
theorem request_is_carried_out (instruction document : Text) (reply : Option Text)
    (selection : Option Span) (cursor : Option Int) (intent : Option Intent) :
    ∃ a, Request.carryOut instruction document reply selection cursor intent = .ok a ∧
      a.patch.range.start ≤ a.patch.range.stop ∧ a.patch.range.stop ≤ a.patch.document.length ∧
      a.trace.head? = some (.classified a.intent) ∧
      a.trace.getLast? = some (.applied a.strategy a.patch.range) ∧
      ∃ before after, Strategy.all = before ++ a.strategy :: after ∧
        a.trace.filter (fun e => e.stage = "apply".toList) =
          before.map .skipped ++ [.applied a.strategy a.patch.range] := by
  let r := Request.ofInstruction instruction document (reply.getD []) selection cursor intent
  exact ⟨r.apply, Request.carryOut_eq .., r.apply.patch.range.start_le_stop,
    Request.fits_attempt r.attempt_strategy, rfl,
    List.getLast?_concat (l := Event.classified r.intent :: _), r.exists_outcomes⟩

end TexSplice
