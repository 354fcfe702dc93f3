import TexSplice.Proofs.Apply.Keeps

/-! # What becomes of a reply that no section takes

A reply that edits no section either deletes or falls to the selection, and without a selection that
can be used it is inserted. Which of these happens is decided here from the request alone, so that
later proofs speak of requests and not of the order of the strategies. -/
namespace TexSplice.Request

variable {r : Request}

/-- A selection that can be used is used unless the named section is edited. -/
theorem place?_strategy_of_usable {sel : Span} (hu : r.usable? = some sel)
    (hs : r.apply.strategy ≠ .namedSection) : r.place? r.apply.strategy = some sel := by
  have hact : (r.attempt .selection).2 ≠ none := by
    rw [attempt, replaceSelection_eq, hu]
    exact Option.some_ne_none _
  have hle := r.idxOf_strategy_le hact
  cases hw : r.apply.strategy with
  | namedSection => exact absurd hw hs
  | deletion => simp [place?, hu]
  | selection => exact hu
  | cursor | documentStart =>
    rw [hw] at hle
    exact absurd hle (by decide)

/-! ## Deletions without a section -/

theorem isSome_deleteUnnamed (r : Request) :
    r.deleteUnnamed.2.isSome = (r.intent.action == .delete &&
      (Intent.named? r.intent.target).isNone &&
      (Text.allBlank r.reply || Reply.confirmsDeletion r.reply)) := by
  unfold deleteUnnamed
  cases hd : r.intent.action == .delete with
  | false => simp [bne, hd]
  | true =>
    cases Intent.named? r.intent.target with
    | some target => simp
    | none =>
      cases hr : Text.allBlank r.reply || Reply.confirmsDeletion r.reply with
      | false => simp_all [bne]
      | true =>
        have hreply : (!Text.allBlank r.reply && !Reply.confirmsDeletion r.reply) = false := by
          rw [← Bool.not_or, hr, Bool.not_true]
        simp only [bne, hd, hreply]
        cases r.usableSelection.2 <;> rfl

/-- A deletion that names no section is carried out unless the reply says something else than that
it was done. -/
theorem strategy_eq_deletion_iff (r : Request) :
    r.apply.strategy = .deletion ↔ r.intent.action = .delete ∧
      Intent.named? r.intent.target = none ∧
      (Text.allBlank r.reply = true ∨ Reply.confirmsDeletion r.reply = true) := by
  constructor
  · intro hs
    have hwin := r.attempt_strategy
    rw [hs] at hwin
    obtain ⟨hd, hn, hr, _⟩ := deleteUnnamed_eq_some hwin
    exact ⟨hd, hn, hr⟩
  · rintro ⟨hd, hn, hr⟩
    have hact : (r.attempt .deletion).2 ≠ none := by
      rw [← Option.isSome_iff_ne_none, attempt, isSome_deleteUnnamed, hd, hn]
      simpa using hr
    have hsection : r.apply.strategy ≠ .namedSection := by
      rw [ne_eq, strategy_eq_namedSection_iff]
      simp [editsSection, located?, hd, hn]
    have hle := r.idxOf_strategy_le hact
    revert hle hsection
    cases r.apply.strategy <;> decide

/-! ## Selection and insertion -/

/-- Where a reply is inserted: at the cursor, moved into the document, or at the start. -/
def insertionPoint (r : Request) : Nat := (r.cursor.map r.clampedCursor).getD 0

theorem insertionPoint_le (r : Request) : r.insertionPoint ≤ r.document.length := by
  unfold insertionPoint
  cases r.cursor with
  | none => exact Nat.zero_le _
  | some c => exact Nat.min_le_right ..

/-- What a reply that falls to neither a section nor a deletion is put in the place of: the
selection if it can be used, and nothing otherwise. -/
def fallbackSpan (r : Request) : Span := r.usable?.getD (Span.empty r.insertionPoint)

theorem start_fallbackSpan_le (r : Request) : r.fallbackSpan.start ≤ r.document.length := by
  unfold fallbackSpan
  cases hu : r.usable? with
  | none => exact r.insertionPoint_le
  | some sel =>
    obtain ⟨_, hlt, hle⟩ := usable?_eq_some hu
    exact Nat.le_of_lt (Nat.lt_of_lt_of_le hlt hle)

theorem place?_of_fallback (hs : r.apply.strategy ≠ .namedSection)
    (hd : r.apply.strategy ≠ .deletion) : r.place? r.apply.strategy = some r.fallbackSpan := by
  unfold fallbackSpan
  cases hu : r.usable? with
  | some sel => exact place?_strategy_of_usable hu hs
  | none =>
    cases hw : r.apply.strategy with
    | namedSection => exact absurd hw hs
    | deletion => exact absurd hw hd
    | selection =>
      have hwin := r.attempt_strategy
      rw [hw, attempt, replaceSelection_eq, hu] at hwin
      cases hwin
    | cursor =>
      have hwin := r.attempt_strategy
      rw [hw] at hwin
      obtain ⟨c, hc, _⟩ := Option.map_eq_some_iff.mp hwin
      simp [place?_cursor, insertionPoint, hc]
    | documentStart =>
      have hcursor : r.cursor = none := by
        -- with a cursor the strategy before the last could act
        refine Option.eq_none_iff_forall_ne_some.mpr fun c hc => ?_
        have hact : (r.attempt .cursor).2 ≠ none := by simp [attempt, hc]
        have hle := r.idxOf_strategy_le hact
        rw [hw] at hle
        exact absurd hle (by decide)
      simp [place?, insertionPoint, hcursor]

/-- A reply that falls to neither a section nor a deletion takes the place of the selection, or is
inserted. -/
theorem patch_of_fallback (hs : r.apply.strategy ≠ .namedSection)
    (hd : r.apply.strategy ≠ .deletion) :
    r.apply.patch = .ofSpan r.document r.fallbackSpan r.content := by
  obtain ⟨place, hplace, _, hp⟩ := attempt_eq_some (fun h => hs h.1) r.attempt_strategy
  rw [place?_of_fallback hs hd] at hplace
  cases hplace
  have hkept : r.takesOut r.apply.strategy = false := by
    revert hs hd
    cases r.apply.strategy <;> simp [takesOut]
  rw [hp, hkept, if_neg Bool.false_ne_true]

end TexSplice.Request
