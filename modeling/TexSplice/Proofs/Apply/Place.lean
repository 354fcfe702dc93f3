import TexSplice.Proofs.Apply.Keeps

/-! # The one place that a patch writes to

An addition, too, puts text in the place of a single span: what it adds, with the line feeds around
it, in the place of the blanks that it trims. So every patch is the document up to some place, the text
that it wrote there, and the rest of the document. -/
namespace TexSplice

/-- A patch puts `x` in the place of one span of a document. It names as its range what it wrote, and
with nothing but blanks around it that is `x`. -/
structure Patch.WritesOver (p : Patch) (t : Text) (place : Span) (x : Text) : Prop where
  fits : place.stop ≤ t.length
  document : p.document = place.replace t x
  written : ∃ lead tail, Text.allBlank lead = true ∧ Text.allBlank tail = true ∧
    x = lead ++ p.range.cut p.document ++ tail ∧ p.range.start = place.start + lead.length

namespace Patch

/-- A patch in the place of a span that lies in the document. -/
theorem writesOver_ofSpan {t : Text} {s : Span} (content : Text) (hs : s.stop ≤ t.length) :
    (ofSpan t s content).WritesOver t s content := by
  refine ⟨hs, rfl, [], [], rfl, rfl, ?_, rfl⟩
  rw [List.append_nil, List.nil_append]
  exact (Span.cut_replace content (Nat.le_trans s.start_le_stop hs)).symm

/-- A patch made of the parts of a document around what it writes over. -/
theorem exists_writesOver_of_parts {p : Patch} {t : Text} (a m z lead content tail : Text)
    (hlead : Text.allBlank lead = true) (htail : Text.allBlank tail = true) (ht : t = a ++ m ++ z)
    (hdocument : p.document = a ++ lead ++ content ++ tail ++ z)
    (hrange : p.range = Span.sized (a ++ lead).length content.length) :
    ∃ place x, p.WritesOver t place x := by
  refine ⟨Span.sized a.length m.length, lead ++ content ++ tail, ?_, ?_, lead, tail, hlead, htail,
    ?_, ?_⟩
  · simp [ht, Span.sized]
  · rw [hdocument, ht, Span.replace_sized_append]
    simp only [List.append_assoc]
  · rw [hdocument, hrange, List.append_assoc _ tail, Span.cut_sized_append]
  · simp [hrange, Span.sized]

end Patch

/-! ## Additions -/

theorem Frame.exists_writesOver_add (f : Frame) (content : Text) (placement : Placement) :
    ∃ place x, (Patch.ofEdit (f.add content placement)).WritesOver f.text place x := by
  cases placement with
  | beginning =>
    -- the content and a line feed before and behind it take the place of the one after the heading
    obtain ⟨l, z, hmiddle, hl, hz⟩ := Text.exists_firstLine f.middle
    have hfirst : Text.firstLine f.middle = (l, z.drop 1) := by
      rw [hmiddle, Text.firstLine_append hl hz]
    have hz : z = z.take 1 ++ z.drop 1 := (List.take_append_drop 1 z).symm
    refine Patch.exists_writesOver_of_parts (f.before ++ l) (z.take 1) (z.drop 1 ++ f.after) ['\n']
      (Text.trim content) ['\n'] rfl rfl ?_ ?_ ?_
    · rw [text, hmiddle]
      conv_lhs => rw [hz]
      simp only [List.append_assoc]
    · simp [Patch.ofEdit, add, hfirst, rebuild]
    · simp [Patch.ofEdit, add, hfirst, rebuild]
  | ending =>
    obtain ⟨b, _, hb⟩ := Text.exists_trimEnd f.middle
    refine Patch.exists_writesOver_of_parts (f.before ++ Text.trimEnd f.middle) b f.after ['\n']
      (Text.trim content) [] rfl rfl ?_ ?_ ?_
    · rw [text]
      conv_lhs => rw [hb]
      simp only [List.append_assoc]
    · simp [Patch.ofEdit, add, rebuild]
    · simp [Patch.ofEdit, add, rebuild]

theorem Outline.exists_writesOver_create (o : Outline) (t content name : Text) :
    ∃ place x, (Patch.ofEdit (o.create t content name)).WritesOver t place x := by
  unfold create
  cases o.finishes.head? with
  | some finish =>
    obtain ⟨lead, hlead, hparagraph⟩ := Text.exists_paragraphBefore (t.take finish.span.start)
    obtain ⟨b, _, hb⟩ := Text.exists_trimEnd (t.take finish.span.start)
    refine Patch.exists_writesOver_of_parts (Text.trimEnd (t.take finish.span.start)) b
      (t.drop finish.span.start) lead (Text.trim content) separator hlead rfl ?_ ?_ ?_
    · rw [← hb, List.take_append_drop]
    · simp [Patch.ofEdit, hparagraph]
    · simp [Patch.ofEdit, hparagraph]
  | none =>
    obtain ⟨lead, hlead, hparagraph⟩ := Text.exists_paragraphBefore t
    obtain ⟨b, _, hb⟩ := Text.exists_trimEnd t
    refine Patch.exists_writesOver_of_parts (Text.trimEnd t) b [] lead (Text.trim content) [] hlead
      rfl ?_ ?_ ?_
    · rw [← hb, List.append_nil]
    · simp [Patch.ofEdit, hparagraph]
    · simp [Patch.ofEdit, hparagraph]

/-! ## Requests -/

namespace Request

variable {r : Request}

/-- No strategy writes past the end of the document. -/
theorem stop_place?_le {s : Strategy} {place : Span} (h : r.place? s = some place) :
    place.stop ≤ r.document.length := by
  cases s with
  | namedSection =>
    obtain ⟨b, hb, rfl⟩ := Option.map_eq_some_iff.mp h
    exact sectionSpan_stop_le hb
  | deletion =>
    cases h
    cases hu : r.usable? with
    | some sel => exact (usable?_eq_some hu).2.2
    | none => exact Nat.le_of_eq (Nat.zero_add _)
  | selection => exact (usable?_eq_some h).2.2
  | cursor =>
    rw [place?_cursor] at h
    obtain ⟨c, _, rfl⟩ := Option.map_eq_some_iff.mp h
    exact Nat.min_le_right ..
  | documentStart =>
    cases h
    exact Nat.zero_le _

theorem exists_writesOver_editSection {p : Patch} (hi : r.intent.action.inserts = true)
    (h : r.editSection.2 = some p) : ∃ place x, p.WritesOver r.document place x := by
  obtain ⟨target, _, _, ⟨b, hb, hp⟩ | ⟨_, hp⟩⟩ := editSection_eq_some h
  · obtain ⟨content, _, _, rfl⟩ := editFound_inserts hi hp
    have := b.frame.exists_writesOver_add content r.intent.placement
    rwa [located?_eq_some hb, Frame.text_around, ← located?_eq_some hb] at this
  · obtain ⟨_, _, _, rfl⟩ := editMissing_eq_some hp
    exact r.outline.exists_writesOver_create r.document _ target

/-- Every request changes one place of its document. -/
theorem exists_writesOver (r : Request) :
    ∃ place x, r.apply.patch.WritesOver r.document place x := by
  have hwin := r.attempt_strategy
  by_cases hs : r.apply.strategy = .namedSection ∧ r.intent.action.inserts = true
  · rw [hs.1] at hwin
    exact exists_writesOver_editSection hs.2 hwin
  · obtain ⟨place, hplace, _, hp⟩ := attempt_eq_some hs hwin
    rw [hp]
    exact ⟨place, _, Patch.writesOver_ofSpan _ (stop_place?_le hplace)⟩

end Request

end TexSplice
