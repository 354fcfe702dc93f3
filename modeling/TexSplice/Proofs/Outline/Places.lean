import TexSplice.Proofs.Outline.Marks

/-! # Where the elements of an outline stand

Each element is a line of the text, found at the offset the outline gives. The elements stand
in order with at least a line feed between them, and the outline of joined texts is the outline
of the first with that of the second moved behind it. -/
namespace TexSplice

def Span.shifted (distance : Nat) (s : Span) : Span :=
  ⟨s.start + distance, s.stop + distance, Nat.add_le_add_right s.start_le_stop _⟩

/-- The element some lines and characters further on. -/
def Element.shifted (lines chars : Nat) (e : Element) : Element :=
  ⟨e.mark, e.line + lines, e.span.shifted chars⟩

/-- The section some lines and characters further on. -/
def Section.shifted (lines chars : Nat) (s : Section) : Section :=
  ⟨s.heading, s.line + lines, s.span.shifted chars⟩

/-- An element is a line of a text, with what stands before and after that line. -/
structure Element.StandsIn (e : Element) (t before line after : Text) : Prop where
  text : t = before ++ line ++ after
  opens : Text.OpensLine before
  oneLine : '\n' ∉ line
  closes : Text.ClosesLine after
  span : e.span = Span.sized before.length line.length
  mark : classify line = some e.mark

namespace Outline

/-! ## Joined texts -/

theorem elementsFrom_shift (rules : List Rule) (n k : Nat) :
    ∀ (ls : List Text) (line offset : Nat),
      elementsFrom rules (line + n) (offset + k) ls =
        (elementsFrom rules line offset ls).map (Element.shifted n k)
  | [], _, _ => rfl
  | l :: ls, line, offset => by
    have ih := elementsFrom_shift rules n k ls (line + 1) (offset + l.length + 1)
    rw [show line + 1 + n = line + n + 1 by omega,
      show offset + l.length + 1 + k = offset + k + l.length + 1 by omega] at ih
    simp only [elementsFrom, ih]
    cases classifyBy rules l with
    | none => rfl
    | some m =>
      simp only [List.map_cons, Element.shifted, Span.shifted, Span.sized, List.cons.injEq,
        Element.mk.injEq, Span.mk.injEq, true_and, and_true]
      omega

theorem length_flatMap_lines (t : Text) :
    ((Text.lines t).flatMap fun l => l ++ ['\n']).length = t.length + 1 := by
  induction t using Text.lineInduction with
  | last l hl => simp [Text.lines_of_not_mem hl]
  | more l t hl ih =>
    rw [Text.lines_append_newline, Text.lines_of_not_mem hl, List.flatMap_append,
      List.length_append, ih]
    simp
    omega

/-- By any rules the elements of two texts with a line feed between them are those of the first and
those of the second, as far on as the first one and the line feed reach. -/
theorem elementsFrom_append_newline (rules : List Rule) (a b : Text) :
    elementsFrom rules 0 0 (Text.lines (a ++ '\n' :: b)) =
      elementsFrom rules 0 0 (Text.lines a) ++
        (elementsFrom rules 0 0 (Text.lines b)).map
          (Element.shifted (Text.lines a).length (a.length + 1)) := by
  have h := elementsFrom_shift rules (Text.lines a).length (a.length + 1) (Text.lines b) 0 0
  rw [Text.lines_append_newline, elementsFrom_append, length_flatMap_lines, h]

theorem elements_append_newline (a b : Text) :
    (ofText (a ++ '\n' :: b)).elements =
      (ofText a).elements ++
        (ofText b).elements.map (Element.shifted (Text.lines a).length (a.length + 1)) :=
  elementsFrom_append_newline Rule.all a b

theorem mem_elements_append {a b : Text} {e : Element} :
    e ∈ (ofText (a ++ '\n' :: b)).elements ↔
      e ∈ (ofText a).elements ∨ ∃ f ∈ (ofText b).elements,
        f.shifted (Text.lines a).length (a.length + 1) = e := by
  rw [elements_append_newline, List.mem_append, List.mem_map]

/-! ## Lines and order -/

/-- An element of some lines is the mark of the first or an element of the others. -/
theorem mem_elementsFrom_cons {rules : List Rule} {e : Element} {line offset : Nat} {l : Text}
    {ls : List Text} :
    e ∈ elementsFrom rules line offset (l :: ls) ↔
      (∃ m, classifyBy rules l = some m ∧ e = ⟨m, line, Span.sized offset l.length⟩) ∨
        e ∈ elementsFrom rules (line + 1) (offset + l.length + 1) ls := by
  rw [elementsFrom]
  cases classifyBy rules l <;> simp

theorem exists_of_mem_elementsFrom {t : Text} {e : Element} :
    ∀ {line offset : Nat}, e ∈ elementsFrom Rule.all line offset (Text.lines t) →
      ∃ a l z, t = a ++ l ++ z ∧ Text.OpensLine a ∧ '\n' ∉ l ∧ Text.ClosesLine z ∧
        e.line = line + a.count '\n' ∧ e.span = Span.sized (offset + a.length) l.length ∧
        classify l = some e.mark := by
  induction t using Text.lineInduction with
  | last l hl =>
    intro line offset h
    rw [Text.lines_of_not_mem hl] at h
    obtain ⟨m, hm, rfl⟩ | h := mem_elementsFrom_cons.mp h
    · exact ⟨[], l, [], by simp, Text.opensLine_nil, hl, Text.closesLine_nil, rfl, rfl, hm⟩
    · simp [elementsFrom] at h
  | more l t hl ih =>
    intro line offset h
    rw [Text.lines_append_newline, Text.lines_of_not_mem hl] at h
    obtain ⟨m, hm, rfl⟩ | h := mem_elementsFrom_cons.mp h
    · exact ⟨[], l, '\n' :: t, by simp, Text.opensLine_nil, hl, Text.closesLine_cons t, rfl, rfl, hm⟩
    · obtain ⟨a, m, z, rfl, ha, hm, hz, hn, hs, hc⟩ := ih h
      refine ⟨l ++ ['\n'] ++ a, m, z, by simp, (Text.opensLine_concat l).append ha, hm, hz, ?_, ?_, hc⟩
      · have hcount : (l ++ ['\n'] ++ a).count '\n' = 1 + a.count '\n' := by
          rw [List.count_append, List.count_append, List.count_eq_zero_of_not_mem hl,
            List.count_singleton_self, Nat.zero_add]
        rw [hn, hcount, ← Nat.add_assoc]
      · have hlen : (l ++ ['\n'] ++ a).length = l.length + 1 + a.length := by simp; omega
        rw [hs, hlen, ← Nat.add_assoc, ← Nat.add_assoc]

theorem exists_standsIn {t : Text} {e : Element} (h : e ∈ (ofText t).elements) :
    ∃ before line after, e.StandsIn t before line after := by
  obtain ⟨a, l, z, ht, ha, hl, hz, _, hs, hc⟩ := exists_of_mem_elementsFrom h
  exact ⟨a, l, z, ht, ha, hl, hz, by simpa using hs, hc⟩

theorem stop_le_length {t : Text} {e : Element} (he : e ∈ (ofText t).elements) :
    e.span.stop ≤ t.length := by
  obtain ⟨before, line, after, st⟩ := exists_standsIn he
  rw [st.span, st.text]
  simp [Span.sized]

theorem bounds_of_mem {rules : List Rule} {e : Element} :
    ∀ {ls : List Text} {line offset : Nat}, e ∈ elementsFrom rules line offset ls →
      line ≤ e.line ∧ offset ≤ e.span.start
  | [], _, _, h => by simp [elementsFrom] at h
  | l :: ls, line, offset, h => by
    obtain ⟨m, _, rfl⟩ | h := mem_elementsFrom_cons.mp h
    · exact ⟨Nat.le_refl _, Nat.le_refl _⟩
    · have := bounds_of_mem h
      omega

theorem pairwise_elementsFrom (rules : List Rule) :
    ∀ (ls : List Text) (line offset : Nat),
      (elementsFrom rules line offset ls).Pairwise fun e f =>
        e.line < f.line ∧ e.span.stop < f.span.start
  | [], _, _ => .nil
  | l :: ls, line, offset => by
    have ih := pairwise_elementsFrom rules ls (line + 1) (offset + l.length + 1)
    rw [elementsFrom]
    cases classifyBy rules l with
    | none => exact ih
    | some m =>
      refine .cons (fun f hf => ?_) ih
      have := bounds_of_mem hf
      simp only [Span.sized]
      omega

theorem pairwise_line (t : Text) : (ofText t).elements.Pairwise fun e f => e.line < f.line :=
  (pairwise_elementsFrom ..).imp And.left

/-- The elements stand in order, each on a line of its own. -/
theorem pairwise_elements (t : Text) :
    (ofText t).elements.Pairwise fun e f => e.span.stop < f.span.start :=
  (pairwise_elementsFrom ..).imp And.right

/-! ## Cuts between two lines -/

/-- A line feed at the end of a text ends its last line. -/
theorem elements_concat_newline (a : Text) :
    (ofText (a ++ ['\n'])).elements = (ofText a).elements := by
  rw [elements_append_newline]
  exact List.append_nil _

theorem elements_append_of_opensLine {a : Text} (ha : Text.OpensLine a) (b : Text) :
    ∃ n, (ofText (a ++ b)).elements =
      (ofText a).elements ++ (ofText b).elements.map (Element.shifted n a.length) := by
  rcases ha with rfl | ⟨c, rfl⟩
  · exact ⟨0, (List.map_id' _).symm⟩
  · refine ⟨(Text.lines c).length, ?_⟩
    rw [elements_concat_newline, List.append_assoc, List.singleton_append, elements_append_newline,
      List.length_append]
    rfl

theorem elements_append_of_closesLine (a : Text) {z : Text} (hz : Text.ClosesLine z) :
    ∃ n, (ofText (a ++ z)).elements =
      (ofText a).elements ++ (ofText (z.drop 1)).elements.map (Element.shifted n (a.length + 1)) := by
  rcases hz with rfl | ⟨w, rfl⟩
  · refine ⟨0, ?_⟩
    rw [List.append_nil]
    exact (List.append_nil _).symm
  · exact ⟨_, elements_append_newline a w⟩

/-- The elements of a text stop before the line that it opens. -/
theorem stop_lt_length_of_opensLine {a : Text} (ha : Text.OpensLine a) {e : Element}
    (he : e ∈ (ofText a).elements) : e.span.stop < a.length := by
  rcases ha with rfl | ⟨c, rfl⟩
  · cases he
  · rw [elements_concat_newline] at he
    rw [List.length_append, List.length_singleton]
    exact Nat.lt_succ_of_le (stop_le_length he)

/-- A part that stands between two lines has no elements but those of the whole text. -/
theorem exists_shifted_mem {a m z : Text} {e : Element} (ha : Text.OpensLine a)
    (hz : Text.ClosesLine z) (he : e ∈ (ofText m).elements) :
    ∃ n, e.shifted n a.length ∈ (ofText (a ++ m ++ z)).elements := by
  obtain ⟨n, hn⟩ := elements_append_of_opensLine ha (m ++ z)
  obtain ⟨k, hk⟩ := elements_append_of_closesLine m hz
  refine ⟨n, ?_⟩
  rw [List.append_assoc, hn, hk]
  exact List.mem_append_right _ (List.mem_map_of_mem (List.mem_append_left _ he))

/-- An element of a text with a part that stands between two lines is an element of that part, or
stands before or behind it. -/
theorem mem_elements_parts {a m z : Text} {e : Element} (ha : Text.OpensLine a)
    (hz : Text.ClosesLine z) (he : e ∈ (ofText (a ++ m ++ z)).elements) :
    e.span.stop < a.length ∨ (∃ f ∈ (ofText m).elements, ∃ n, e = f.shifted n a.length) ∨
      a.length + m.length < e.span.start := by
  obtain ⟨n, hn⟩ := elements_append_of_opensLine ha (m ++ z)
  obtain ⟨k, hk⟩ := elements_append_of_closesLine m hz
  rw [List.append_assoc, hn] at he
  rcases List.mem_append.mp he with he | he
  · exact .inl (stop_lt_length_of_opensLine ha he)
  · obtain ⟨f, hf, rfl⟩ := List.mem_map.mp he
    rw [hk] at hf
    rcases List.mem_append.mp hf with hf | hf
    · exact .inr (.inl ⟨f, hf, n, rfl⟩)
    · obtain ⟨g, _, rfl⟩ := List.mem_map.mp hf
      refine .inr (.inr ?_)
      simp only [Element.shifted, Span.shifted]
      omega

end Outline

end TexSplice
