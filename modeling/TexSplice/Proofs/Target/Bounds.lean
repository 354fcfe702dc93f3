import TexSplice.Proofs.Outline.Places
import TexSplice.Target.Boundary

/-! # The bounds of a section

A section found in a text starts where a line begins, holds its whole heading line, and stops
where a line ends. Its end lies before the next section, or before the first line after it at
which the document's own text ends. -/
namespace TexSplice

namespace Outline

variable {t : Text} {s : Section}

/-! ## Sections among the elements -/

theorem mem_sections {o : Outline} : s ∈ o.sections ↔ s.element ∈ o.elements := by
  rw [sections, List.mem_filterMap]
  constructor
  · rintro ⟨⟨mark, line, span⟩, he, hs⟩
    unfold Element.section? at hs
    split at hs
    · rename_i h hm
      cases hs
      simp only at hm
      exact hm ▸ he
    · cases hs
  · intro h
    exact ⟨s.element, h, rfl⟩

theorem mem_finishes {o : Outline} {e : Element} :
    e ∈ o.finishes ↔ e ∈ o.elements ∧ e.isFinish = true := List.mem_filter

/-- Where the elements of a text are those of two others, the second moved, so are its sections. -/
theorem sections_append {o p q : Outline} {n k : Nat}
    (h : q.elements = o.elements ++ p.elements.map (Element.shifted n k)) :
    q.sections = o.sections ++ p.sections.map (Section.shifted n k) := by
  rw [sections, h, List.filterMap_append, List.filterMap_map, sections, sections, List.map_filterMap]
  congr 1
  refine List.filterMap_congr fun e _ => ?_
  cases hm : e.mark <;> simp [Element.section?, Element.shifted, Section.shifted, hm]

theorem sections_append_of_opensLine {a : Text} (ha : Text.OpensLine a) (b : Text) :
    ∃ n, (ofText (a ++ b)).sections =
      (ofText a).sections ++ (ofText b).sections.map (Section.shifted n a.length) :=
  (elements_append_of_opensLine ha b).imp fun _ => sections_append

theorem sections_append_of_closesLine (a : Text) {z : Text} (hz : Text.ClosesLine z) :
    ∃ n, (ofText (a ++ z)).sections =
      (ofText a).sections ++ (ofText (z.drop 1)).sections.map (Section.shifted n (a.length + 1)) :=
  (elements_append_of_closesLine a hz).imp fun _ => sections_append

theorem pairwise_sections (t : Text) :
    (ofText t).sections.Pairwise fun s u => s.span.stop < u.span.start := by
  refine (pairwise_elements t).filterMap _ fun e f h s hs u hu => ?_
  have span_eq : ∀ {e : Element} {s : Section}, e.section? = some s → s.span = e.span := by
    intro e s h
    unfold Element.section? at h
    split at h
    · cases h; rfl
    · cases h
  rwa [span_eq hs, span_eq hu]

theorem start_le_of_sections_cons {rest : List Section} (h : (ofText t).sections = s :: rest)
    {u : Section} (hu : u ∈ (ofText t).sections) : s.span.start ≤ u.span.start := by
  have hp := pairwise_sections t
  rw [h] at hu hp
  rcases List.mem_cons.mp hu with rfl | hmem
  · exact Nat.le_refl _
  · have := (List.pairwise_cons.mp hp).1 u hmem
    have := s.span.start_le_stop
    omega

theorem start_le_of_sections_concat {rest : List Section}
    (h : (ofText t).sections = rest ++ [s]) {u : Section} (hu : u ∈ (ofText t).sections) :
    u.span.start ≤ s.span.start := by
  have hp := pairwise_sections t
  rw [h] at hu hp
  rcases List.mem_append.mp hu with hmem | hmem
  · have := (List.pairwise_append.mp hp).2.2 u hmem s List.mem_cons_self
    have := u.span.start_le_stop
    omega
  · rw [List.mem_singleton.mp hmem]

theorem pairwise_finishes (t : Text) :
    (ofText t).finishes.Pairwise fun e f => e.span.stop < f.span.start :=
  (pairwise_elements t).filter _

/-- Of two elements that are not the same one stops before the other starts. -/
theorem eq_or_stop_lt_start {e f : Element} (he : e ∈ (ofText t).elements)
    (hf : f ∈ (ofText t).elements) :
    e = f ∨ e.span.stop < f.span.start ∨ f.span.stop < e.span.start := by
  have hpairs := pairwise_elements t
  refine List.Pairwise.forall_of_forall_of_flip
    (R := fun e f => e = f ∨ e.span.stop < f.span.start ∨ f.span.stop < e.span.start)
    (fun _ _ => .inl rfl) (hpairs.imp fun h => .inr (.inl h)) (hpairs.imp fun h => .inr (.inr h)) he hf

/-- Of two elements the one that starts first also stops before the other starts. -/
theorem stop_lt_start {e f : Element} (he : e ∈ (ofText t).elements)
    (hf : f ∈ (ofText t).elements) (h : e.span.start < f.span.start) :
    e.span.stop < f.span.start := by
  have := e.span.start_le_stop
  have := f.span.start_le_stop
  rcases eq_or_stop_lt_start he hf with rfl | hlt | hlt <;> omega

/-- Behind an element that does not start the text a line feed stands before its line. -/
theorem closesLine_drop {e : Element} (he : e ∈ (ofText t).elements) (h : 0 < e.span.start) :
    Text.ClosesLine (t.drop (e.span.start - 1)) := by
  obtain ⟨before, line, after, st⟩ := exists_standsIn he
  rw [st.text, st.span]
  rcases st.opens with rfl | ⟨b, rfl⟩
  · simp [st.span, Span.sized] at h
  · rw [Span.sized, List.length_append, List.length_singleton, Nat.add_sub_cancel]
    simpa using Text.closesLine_cons (line ++ after)

/-! ## The neighbours of a section -/

/-- What follows the first section equal to `s` in a list is the head of what stands behind it. -/
theorem following?_append {pre post : List Section} (h : s ∉ pre) :
    following? s (pre ++ s :: post) = post.head? := by
  induction pre with
  | nil => simp [following?]
  | cons x pre ih =>
    obtain ⟨hx, hpre⟩ := not_or.mp (mt List.mem_cons.mpr h)
    rw [List.cons_append, following?, if_neg (Ne.symm hx), ih hpre]

/-- The section after `s` is the one that stands behind it among the sections. -/
theorem nextSection?_eq {pre post : List Section} (h : (ofText t).sections = pre ++ s :: post) :
    (ofText t).nextSection? s = post.head? := by
  have hs : s ∉ pre := fun hmem => by
    have hp := pairwise_sections t
    rw [h] at hp
    have := (List.pairwise_append.mp hp).2.2 s hmem s List.mem_cons_self
    have := s.span.start_le_stop
    omega
  rw [nextSection?, h, following?_append hs]

theorem nextSection?_eq_some {n : Section} (hs : s ∈ (ofText t).sections)
    (h : (ofText t).nextSection? s = some n) :
    n ∈ (ofText t).sections ∧ s.span.stop < n.span.start := by
  obtain ⟨pre, post, hsplit⟩ := List.append_of_mem hs
  rw [nextSection?_eq hsplit] at h
  obtain ⟨post, rfl⟩ := List.head?_eq_some_iff.mp h
  have hp := pairwise_sections t
  rw [hsplit] at hp ⊢
  refine ⟨by simp, ?_⟩
  exact (List.pairwise_cons.mp (List.pairwise_append.mp hp).2.1).1 n List.mem_cons_self

theorem finishAfter?_eq_some {o : Outline} {offset : Int} {e : Element}
    (h : o.finishAfter? offset = some e) : e ∈ o.finishes ∧ offset < e.span.start :=
  ⟨List.mem_of_find?_eq_some h, by simpa using List.find?_some h⟩

/-- No line that ends the document's own text stands between an offset and the first after it. -/
theorem finishAfter?_le {offset : Int} {e f : Element}
    (h : (ofText t).finishAfter? offset = some e) (hf : f ∈ (ofText t).finishes)
    (hlt : offset < f.span.start) : e.span.start ≤ f.span.start := by
  obtain ⟨_, pre, post, hsplit, hpre⟩ := List.find?_eq_some_iff_append.mp h
  have hp := pairwise_finishes t
  rw [hsplit] at hp hf
  rcases List.mem_append.mp hf with hf | hf
  · exact absurd hlt (by simpa using hpre f hf)
  · rcases List.mem_cons.mp hf with rfl | hf
    · exact Nat.le_refl _
    · have := (List.pairwise_cons.mp (List.pairwise_append.mp hp).2.1).1 f hf
      have := e.span.start_le_stop
      omega

/-! ## Where a section stops -/

/-- A section stops right before an element that starts behind its heading line, or at the end of
the text. -/
theorem sectionStop_cases (hs : s ∈ (ofText t).sections) :
    (∃ e ∈ (ofText t).elements, s.span.stop < e.span.start ∧
      (ofText t).sectionStop s = e.span.start - 1) ∨
    (ofText t).sectionStop s = t.length := by
  have hle := s.span.start_le_stop
  have before_element : ∀ e : Element, s.span.stop < e.span.start →
      max (e.span.start - 1) s.span.start = e.span.start - 1 := by
    intro e h; omega
  unfold sectionStop
  cases hn : (ofText t).nextSection? s with
  | some n =>
    obtain ⟨hmem, hlt⟩ := nextSection?_eq_some hs hn
    have he := mem_sections.mp hmem
    exact .inl ⟨n.element, he, hlt, before_element n.element hlt⟩
  | none =>
    cases hf : (ofText t).finishAfter? s.span.start with
    | some e =>
      obtain ⟨hmem, hlt⟩ := finishAfter?_eq_some hf
      have he := (mem_finishes.mp hmem).1
      have hlt := stop_lt_start (mem_sections.mp hs) he (Int.ofNat_lt.mp hlt)
      exact .inl ⟨e, he, hlt, before_element e hlt⟩
    | none =>
      obtain ⟨before, line, after, st⟩ := exists_standsIn (mem_sections.mp hs)
      have hstart : s.span.start = before.length := congrArg Span.start st.span
      refine .inr (Nat.max_eq_left ?_)
      change s.span.start ≤ t.length
      simp [hstart, st.text]

theorem sectionStop_le_length (hs : s ∈ (ofText t).sections) :
    (ofText t).sectionStop s ≤ t.length := by
  rcases sectionStop_cases hs with ⟨e, he, _, hstop⟩ | hstop
  · have := stop_le_length he
    have := e.span.start_le_stop
    omega
  · exact Nat.le_of_eq hstop

theorem stop_le_sectionStop (hs : s ∈ (ofText t).sections) :
    s.span.stop ≤ (ofText t).sectionStop s := by
  obtain ⟨before, line, after, st⟩ := exists_standsIn (mem_sections.mp hs)
  have hstop : s.span.stop = before.length + line.length := congrArg Span.stop st.span
  rcases sectionStop_cases hs with ⟨e, _, hlt, he⟩ | he
  · omega
  · rw [he, hstop, st.text]
    simp

theorem closesLine_drop_sectionStop (hs : s ∈ (ofText t).sections) :
    Text.ClosesLine (t.drop ((ofText t).sectionStop s)) := by
  rcases sectionStop_cases hs with ⟨e, he, hlt, hstop⟩ | hstop
  · rw [hstop]
    exact closesLine_drop he (by omega)
  · rw [hstop, List.drop_length]
    exact Text.closesLine_nil

/-- The end of a section lies before every line behind it that ends the document's own text, if
no section starts behind that line. -/
theorem sectionStop_le {e : Element} (hs : s ∈ (ofText t).sections)
    (he : e ∈ (ofText t).finishes) (hlt : s.span.start < e.span.start)
    (hall : ∀ u ∈ (ofText t).sections, u.span.start < e.span.start) :
    (ofText t).sectionStop s ≤ e.span.start - 1 := by
  refine Nat.max_le.mpr ⟨?_, by omega⟩
  cases hn : (ofText t).nextSection? s with
  | some n =>
    have := hall n (nextSection?_eq_some hs hn).1
    change n.span.start - 1 ≤ _
    omega
  | none =>
    cases hf : (ofText t).finishAfter? s.span.start with
    | some f =>
      have := finishAfter?_le hf he (Int.ofNat_lt.mpr hlt)
      change f.span.start - 1 ≤ _
      omega
    | none =>
      have := List.find?_eq_none.mp hf e he
      simp only [decide_eq_true_eq, Int.ofNat_lt] at this
      exact absurd hlt this

/-! ## The frame around a section -/

theorem mem_of_find?_eq_some {o : Outline} {name : Text} {tier : Tier}
    (h : o.find? name = some (s, tier)) : s ∈ o.sections := by
  unfold find? at h
  dsimp only at h
  split at h
  · cases h
  · obtain ⟨_, _, hf⟩ := List.exists_of_findSome?_eq_some h
    obtain ⟨u, hu, he⟩ := Option.map_eq_some_iff.mp hf
    cases he
    exact List.mem_of_find?_eq_some hu

theorem boundary?_eq_some {o : Outline} {name : Text} {b : Boundary}
    (h : o.boundary? t name = some b) :
    b.found ∈ o.sections ∧
      b.frame = Frame.around b.found.heading.title t (o.sectionSpan b.found) := by
  obtain ⟨⟨s, tier⟩, hf, rfl⟩ := Option.map_eq_some_iff.mp h
  exact ⟨mem_of_find?_eq_some hf, rfl⟩

end Outline

/-- A frame around a section: the text is cut where lines begin and end, and the part in the
middle opens with the heading line. -/
structure Frame.Holds (f : Frame) (t : Text) (h : Heading) : Prop where
  text : f.text = t
  opens : Text.OpensLine f.before
  closes : Text.ClosesLine f.after
  headed : ∃ line rest, f.middle = line ++ rest ∧ '\n' ∉ line ∧ Text.ClosesLine rest ∧
    classify line = some (.heading h)

theorem Frame.holds_around {t : Text} {s : Section} (name : Text)
    (hs : s ∈ (Outline.ofText t).sections) :
    (Frame.around name t ((Outline.ofText t).sectionSpan s)).Holds t s.heading := by
  obtain ⟨before, line, after, st⟩ := Outline.exists_standsIn (Outline.mem_sections.mp hs)
  have hstart : s.span.start = before.length := congrArg Span.start st.span
  have hstop : s.span.stop = before.length + line.length := congrArg Span.stop st.span
  obtain ⟨k, hk⟩ := Nat.exists_eq_add_of_le (Outline.stop_le_sectionStop hs)
  refine ⟨Frame.text_around .., ?_, Outline.closesLine_drop_sectionStop hs, ?_⟩
  · have : (Frame.around name t ((Outline.ofText t).sectionSpan s)).before = before := by
      simp [Frame.around, Outline.sectionSpan, hstart, st.text]
    exact this ▸ st.opens
  · refine ⟨line, after.take k, ?_, st.oneLine, ?_, st.mark⟩
    · simp only [Frame.around, Outline.sectionSpan, Span.cut, Text.slice]
      rw [hk, hstart, hstop, st.text, ← List.length_append, List.take_length_add_append,
        List.append_assoc, List.drop_left]
    · rcases st.closes with rfl | ⟨w, rfl⟩
      · rw [List.take_nil]
        exact Text.closesLine_nil
      · cases k with
        | zero => exact Text.closesLine_nil
        | succ k => exact Text.closesLine_cons _

theorem Boundary.holds {t name : Text} {b : Boundary}
    (h : (Outline.ofText t).boundary? t name = some b) : b.frame.Holds t b.found.heading := by
  obtain ⟨hs, hf⟩ := Outline.boundary?_eq_some h
  rw [hf]
  exact Frame.holds_around _ hs

end TexSplice
