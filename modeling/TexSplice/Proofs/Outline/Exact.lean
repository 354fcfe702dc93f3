import TexSplice.Outline.Reading
import TexSplice.Proofs.Outline.Places
import TexSplice.Proofs.Text.Spans

/-! # Every element is a line

Reading an outline never fails, and what comes out is exact. Each element is ONE line of the text:
its number counts the line feeds before it, and its offsets cut that line out, blanks and all. A line
that carries a mark has one element, with that mark, and any other line has none. -/
namespace TexSplice

open Outline (ofText)

/-- An element is the line of a text that has its number: its offsets cut that line out, from where a
line begins up to where it ends. -/
structure Element.IsLineOf (e : Element) (t : Text) : Prop where
  line : (Text.lines t)[e.line]? = some (e.span.cut t)
  number : (t.take e.span.start).count '\n' = e.line
  opens : e.span.start = 0 ∨ ∃ n, e.span.start = n + 1 ∧ t[n]? = some '\n'
  closes : e.span.stop = t.length ∨ t[e.span.stop]? = some '\n'

namespace Outline

theorem isLineOf_of_mem {t : Text} {e : Element} (he : e ∈ (ofText t).elements) : e.IsLineOf t := by
  obtain ⟨a, l, z, ht, ha, hl, hz, hnumber, hspan, _⟩ := exists_of_mem_elementsFrom he
  rw [Nat.zero_add] at hnumber hspan
  have hstart : e.span.start = a.length := congrArg Span.start hspan
  have hstop : e.span.stop = (a ++ l).length := by
    rw [List.length_append]
    exact congrArg Span.stop hspan
  refine ⟨?_, ?_, ?_, ?_⟩
  · rw [hnumber, hspan, ht, Span.cut_sized_append]
    exact Text.getElem?_lines ha hl hz
  · rw [hnumber, hstart, ht, List.append_assoc, List.take_left]
  · rcases ha with rfl | ⟨b, rfl⟩
    · exact .inl hstart
    · refine .inr ⟨b.length, by rw [hstart, List.length_append, List.length_singleton], ?_⟩
      rw [ht, List.append_assoc, List.append_assoc, List.getElem?_append_right (Nat.le_refl _),
        Nat.sub_self]
      rfl
  · rcases hz with rfl | ⟨w, rfl⟩
    · rw [hstop, ht, List.append_nil]
      exact .inl rfl
    · rw [hstop, ht, List.getElem?_append_right (Nat.le_refl _), Nat.sub_self]
      exact .inr rfl

/-- Among the elements of some lines those with one number are the mark of that line. -/
theorem filter_line_elementsFrom (rules : List Rule) :
    ∀ (ls : List Text) (line offset i : Nat),
      ((elementsFrom rules line offset ls).filter fun e => e.line = line + i).map Element.mark =
        (ls[i]?.bind (classifyBy rules)).toList
  | [], _, _, _ => rfl
  | l :: ls, line, offset, 0 => by
    -- the elements of later lines have higher numbers
    have hlater : ∀ e ∈ elementsFrom rules (line + 1) (offset + l.length + 1) ls, e.line ≠ line := by
      intro e he
      have := (bounds_of_mem he).1
      omega
    rw [elementsFrom]
    cases hm : classifyBy rules l <;> simpa [hm] using hlater
  | l :: ls, line, offset, i + 1 => by
    have ih := filter_line_elementsFrom rules ls (line + 1) (offset + l.length + 1) i
    have hnumber : line + 1 + i = line + (i + 1) := by omega
    rw [hnumber] at ih
    rw [elementsFrom, List.getElem?_cons_succ, ← ih]
    cases classifyBy rules l with
    | none => rfl
    | some m =>
      have hfirst : ¬ line = line + (i + 1) := by omega
      simp only [List.filter_cons, hfirst, decide_false, Bool.false_eq_true, if_false]

end Outline

/-- **An outline is exact.** Reading a text succeeds, and counts its characters and lines. The numbers
of the elements increase, each element is its line, and the elements with the number of a line are
the mark of that line: one if it has a mark, and none if it has not or if there is no such line. -/
theorem outline_is_exact (t : Text) :
    let o := ofText t
    Outline.read t = .ok o ∧ o.length = t.length ∧ o.lineCount = t.count '\n' + 1 ∧
      o.elements.Pairwise (fun e f => e.line < f.line) ∧
      (∀ e ∈ o.elements, e.IsLineOf t) ∧
      ∀ i, (o.elements.filter fun e => e.line = i).map Element.mark =
        ((Text.lines t)[i]?.bind classify).toList := by
  intro o
  refine ⟨Outline.read_eq t, rfl, Text.length_lines t, Outline.pairwise_line t,
    fun e he => Outline.isLineOf_of_mem he, fun i => ?_⟩
  have h := Outline.filter_line_elementsFrom Rule.all (Text.lines t) 0 0 i
  rwa [Nat.zero_add] at h

/-- A heading between blanks is the second line. Its offsets take in the blanks, and the line separator
behind it, which is a blank and ends no line. -/
theorem outline_is_exact_of_blanks :
    let t := "a\n  \\section{A}\u2028\n".toList
    ∃ e ∈ (ofText t).elements, e.line = 1 ∧ e.span.cut t = "  \\section{A}\u2028".toList ∧
      e.IsLineOf t := by
  intro t
  obtain ⟨_, _, _, _, hlines, hmarks⟩ := outline_is_exact t
  have hmark : ((Text.lines t)[1]?.bind classify).toList =
      [.heading ⟨.sec, "A".toList, "a".toList, false⟩] := by decide +kernel
  obtain ⟨e, _, he, _⟩ := List.map_eq_cons_iff.mp ((hmarks 1).trans hmark)
  have hmem : e ∈ (ofText t).elements.filter fun e => e.line = 1 := by rw [he]; exact List.mem_cons_self
  obtain ⟨hmem, hline⟩ := List.mem_filter.mp hmem
  have hline : e.line = 1 := of_decide_eq_true hline
  refine ⟨e, hmem, hline, ?_, hlines e hmem⟩
  have hcut := (hlines e hmem).line
  rw [hline] at hcut
  exact (Option.some_inj.mp hcut).symm

end TexSplice
