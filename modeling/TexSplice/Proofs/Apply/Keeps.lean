import TexSplice.Proofs.Apply.Strategy
import TexSplice.Proofs.Splice.Insert
import TexSplice.Proofs.Target.Bounds

/-! # No text is lost

Whatever strategy wins, its patch puts content in the place of ONE span of the document and
copies the rest, or it adds to the document and takes nothing but blanks away. The range of the
patch is where the content stands in the new document. -/
namespace TexSplice
open Text (solid)

namespace Request

variable {r : Request} {p : Patch}

/-- The span of the document that a strategy writes over: the section that was found, the
selection, the place of the cursor, the start of the document or all of it. -/
def place? (r : Request) : Strategy → Option Span
  | .namedSection => r.located?.map fun b => r.outline.sectionSpan b.found
  | .deletion => some (r.usable?.getD (Span.sized 0 r.document.length))
  | .selection => r.usable?
  | .cursor => r.cursor.map fun c => Span.empty (max 0 (min c (r.document.length : Int))).toNat
  | .documentStart => some (Span.empty 0)

/-- Whether a strategy takes text out and puts nothing in its place. -/
def takesOut (r : Request) : Strategy → Bool
  | .namedSection => r.intent.action == .delete
  | .deletion => true
  | .selection | .cursor | .documentStart => false

theorem place?_cursor (r : Request) :
    r.place? .cursor = r.cursor.map fun c => Span.empty (r.clampedCursor c) := by
  have hclamp (c : Int) : (max 0 (min c (r.document.length : Int))).toNat = r.clampedCursor c := by
    simp only [clampedCursor]
    omega
  simp only [place?, hclamp]

/-! ## Additions to a section -/

/-- An addition to the named section, or a new section, only inserts. -/
theorem solid_remainder_editSection (hi : r.intent.action.inserts = true)
    (h : r.editSection.2 = some p) : solid (p.range.replace p.document []) = solid r.document := by
  obtain ⟨target, _, _, ⟨b, hb, hp⟩ | ⟨_, hp⟩⟩ := editSection_eq_some h
  · obtain ⟨content, _, _, rfl⟩ := editFound_inserts hi hp
    have := Frame.solid_remainder_add b.frame content r.intent.placement
    rwa [located?_eq_some hb, Frame.text_around, ← located?_eq_some hb] at this
  · obtain ⟨_, _, _, rfl⟩ := editMissing_eq_some hp
    exact Outline.solid_remainder_create r.outline r.document _ target

/-! ## Patches in the place of a span -/

/-- The patch of an edit that puts content in the place of a frame's middle part. -/
theorem ofEdit_rebuild_around (name t content : Text) (s : Span) (change : Change)
    (hs : s.start ≤ t.length) :
    Patch.ofEdit ((Frame.around name t s).rebuild [] content [] change) =
      .ofSpan t s content := by
  simp [Patch.ofEdit, Patch.ofSpan, Frame.rebuild, Frame.around, Span.replace, hs]

theorem sectionSpan_stop_le {b : Boundary} (hb : r.located? = some b) :
    (r.outline.sectionSpan b.found).stop ≤ r.document.length := by
  obtain ⟨name, _, hb⟩ := Option.bind_eq_some_iff.mp hb
  exact Outline.sectionStop_le_length (Outline.boundary?_eq_some hb).1

theorem sectionSpan_start_le {b : Boundary} (hb : r.located? = some b) :
    (r.outline.sectionSpan b.found).start ≤ r.document.length :=
  Nat.le_trans (r.outline.sectionSpan b.found).start_le_stop (sectionSpan_stop_le hb)

/-- A strategy that does not insert into a section puts its content, or nothing, in the place of
its span. -/
theorem attempt_eq_some {s : Strategy} (hs : ¬(s = .namedSection ∧ r.intent.action.inserts = true))
    (h : (r.attempt s).2 = some p) :
    ∃ place, r.place? s = some place ∧ place.start ≤ r.document.length ∧
      p = .ofSpan r.document place (if r.takesOut s = true then [] else r.content) := by
  cases s with
  | namedSection =>
    have hi : r.intent.action.inserts = false := by simpa using hs
    obtain ⟨target, _, _, ⟨b, hb, hp⟩ | ⟨_, hp⟩⟩ := editSection_eq_some h
    · refine ⟨r.outline.sectionSpan b.found, by simp [place?, hb], sectionSpan_start_le hb, ?_⟩
      rw [editFound_replaces hi hp, located?_eq_some hb]
      have hle := sectionSpan_start_le hb
      by_cases hd : r.intent.action = .delete
      · simp only [hd, takesOut, if_true, beq_self_eq_true]
        exact ofEdit_rebuild_around _ _ _ _ _ hle
      · simp only [hd, takesOut, if_false, beq_iff_eq]
        exact ofEdit_rebuild_around _ _ _ _ _ hle
    · rw [(editMissing_eq_some hp).1] at hi
      cases hi
  | deletion =>
    obtain ⟨_, _, _, hp⟩ := deleteUnnamed_eq_some h
    cases hu : r.usable? with
    | some sel =>
      obtain ⟨_, hlt, hle⟩ := usable?_eq_some hu
      refine ⟨sel, by simp [place?, hu], by omega, ?_⟩
      rw [hp, hu]
      rfl
    | none =>
      refine ⟨Span.sized 0 r.document.length, by simp [place?, hu], Nat.zero_le _, ?_⟩
      rw [hp, hu]
      simp [takesOut, Patch.clear, Patch.ofSpan, Span.replace, Span.sized, Span.empty]
  | selection =>
    rw [attempt, replaceSelection_eq] at h
    obtain ⟨sel, hu, rfl⟩ := Option.map_eq_some_iff.mp h
    obtain ⟨_, hlt, hle⟩ := usable?_eq_some hu
    exact ⟨sel, hu, by omega, rfl⟩
  | cursor =>
    obtain ⟨c, hc, rfl⟩ := Option.map_eq_some_iff.mp h
    refine ⟨Span.empty (r.clampedCursor c), by rw [place?_cursor, hc, Option.map_some], ?_, rfl⟩
    exact Nat.min_le_right ..
  | documentStart =>
    cases h
    exact ⟨Span.empty 0, rfl, Nat.zero_le _, rfl⟩

end Request

/-- **No request loses text.** An addition to a section, or a new one, takes away nothing but
blanks. Any other patch replaces one span, the section, the selection, the place of the cursor,
the start or all of the document, by what its range holds afterwards: nothing for a deletion, and
else the content of the reply. -/
theorem apply_keeps_text (instruction document reply : Text) (selection : Option Span)
    (cursor : Option Int) (intent : Option Intent) :
    let r := Request.ofInstruction instruction document reply selection cursor intent
    let a := r.apply
    let written := a.patch.range.cut a.patch.document
    (a.strategy = .namedSection ∧ a.intent.action.inserts = true →
      solid (a.patch.range.replace a.patch.document []) = solid document) ∧
    (¬(a.strategy = .namedSection ∧ a.intent.action.inserts = true) →
      ∃ place, r.place? a.strategy = some place ∧ a.patch.range.start = place.start ∧
        a.patch.document = document.take place.start ++ written ++ document.drop place.stop ∧
        written = if r.takesOut a.strategy = true then [] else r.content) := by
  intro r a written
  have hwin : (r.attempt a.strategy).2 = some a.patch := r.attempt_strategy
  constructor
  · rintro ⟨hs, hi⟩
    rw [hs] at hwin
    exact Request.solid_remainder_editSection hi hwin
  · intro hs
    obtain ⟨place, hplace, hle, hp⟩ := Request.attempt_eq_some hs hwin
    have hw : written = if r.takesOut a.strategy = true then [] else r.content := by
      simp only [written, hp]
      exact Span.cut_replace _ hle
    refine ⟨place, hplace, by rw [hp]; rfl, ?_, hw⟩
    rw [hw, hp]
    rfl

end TexSplice
