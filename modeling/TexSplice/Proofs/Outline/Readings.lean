import TexSplice.Outline.Reading
import TexSplice.Proofs.Outline.Grammar
import TexSplice.Proofs.Outline.Places

/-! # Reading by some rules, and in parts

No line has a mark by two rules, so none takes a line from another: rules that are left out leave out
the marks of their own kind and no others. The order in which the rest are tried, and how often one
is named, cannot be told from an outline.

A text may be cut at any line feed and its parts read by themselves. What they give is put together
by moving the elements behind the cut as many lines and characters on as stand in front of them, so
the cursor that runs over the lines never drifts. Reading by all rules (`read`) is one case. -/
namespace TexSplice

/-! ## By some rules -/

/-- Of the marks of lines, some rules give those of their kinds. -/
theorem classifyBy_eq_filter (rules : List Rule) (l : Text) :
    classifyBy rules l = (classify l).filter fun m => m.rule ∈ rules := by
  refine Option.ext fun m => ?_
  rw [Option.filter_eq_some_iff, decide_eq_true_eq, classify_eq_some_iff, classifyBy_eq_some_iff]
  exact and_comm

namespace Outline

theorem elementsFrom_eq_filter (rules : List Rule) :
    ∀ (ls : List Text) (line offset : Nat),
      elementsFrom rules line offset ls =
        (elementsFrom Rule.all line offset ls).filter fun e => e.mark.rule ∈ rules
  | [], _, _ => rfl
  | l :: ls, line, offset => by
    have ih := elementsFrom_eq_filter rules ls (line + 1) (offset + l.length + 1)
    have hfirst := classifyBy_eq_filter rules l
    rw [classify] at hfirst
    rw [elementsFrom, elementsFrom, hfirst, ih]
    cases classifyBy Rule.all l with
    | none => rfl
    | some m =>
      by_cases hm : m.rule ∈ rules
      · simp [Option.filter, hm]
      · simp [Option.filter, hm]

/-- **An outline by some rules.** Reading a text by some rules, in any order and named any number of
times, succeeds and makes the outline that all rules make, without the elements of kinds that none of
these rules gives. -/
theorem readBy_selects (t : Text) (rules : List Rule) (h : rules ≠ []) :
    ∃ o, read t = .ok o ∧
      readBy rules t = .ok { o with elements := o.elements.filter fun e => e.mark.rule ∈ rules } := by
  have hrules : rules.isEmpty = false := List.isEmpty_eq_false_iff.mpr h
  refine ⟨ofText t, read_eq t, ?_⟩
  rw [readBy_eq, ofTextBy, hrules]
  simp only [Bool.false_eq_true, if_false, elementsFrom_eq_filter rules]
  rfl

/-- Tried alone and before the others, the rule for ends of environments does not take the end of the
document. -/
theorem readBy_selects_ends :
    let t := "\\begin\x7ba\x7d\n\\end\x7ba\x7d\n\\end\x7bdocument\x7d".toList
    let rules := [Rule.closing, .finish, .closing]
    rules ≠ [] ∧ ∃ o, read t = .ok o ∧ o.elements.length = 3 ∧
      readBy rules t = .ok { o with elements := o.elements.filter fun e => e.mark.rule ∈ rules } := by
  intro t rules
  have hrules : rules ≠ [] := List.cons_ne_nil _ _
  obtain ⟨o, ho, hselected⟩ := readBy_selects t rules hrules
  refine ⟨hrules, o, ho, ?_, hselected⟩
  rw [read_eq, Except.ok.injEq] at ho
  rw [← ho]
  decide +kernel

/-! ## In parts -/

/-- **A text is read in parts.** By any rules, reading succeeds on two texts and on the text that they
make with a line feed between them. The elements of that text are those of the first and then those of
the second, moved on by the lines of the first, and by its characters and the line feed. The numbers of
lines add up, and so do those of characters, with the line feed. -/
theorem readBy_append_newline (rules : List Rule) (a b : Text) :
    ∃ o p, readBy rules a = .ok o ∧ readBy rules b = .ok p ∧
      readBy rules (a ++ '\n' :: b) = .ok {
        elements := o.elements ++ p.elements.map (Element.shifted o.lineCount (a.length + 1))
        lineCount := o.lineCount + p.lineCount
        length := o.length + p.length + 1 } := by
  refine ⟨ofTextBy rules a, ofTextBy rules b, readBy_eq rules a, readBy_eq rules b, ?_⟩
  have hlines : (Text.lines (a ++ '\n' :: b)).length =
      (Text.lines a).length + (Text.lines b).length := by
    rw [Text.lines_append_newline, List.length_append]
  have hlength : (a ++ '\n' :: b).length = a.length + b.length + 1 := by
    rw [List.length_append, List.length_cons, Nat.add_assoc]
  rw [readBy_eq, ofTextBy, elementsFrom_append_newline, hlines, hlength]
  rfl

/-- Behind the blank line the environment stands two lines and fourteen characters further on than in
the second part alone. -/
example :
    let places (t : Text) := (read t).toOption.map fun o =>
      o.elements.map fun e => (e.line, e.span.start, e.span.stop)
    places "a\n\\section\x7bA\x7d\n\n\\begin\x7bb\x7d".toList = some [(1, 2, 13), (3, 15, 24)] ∧
      places "\n\\begin\x7bb\x7d".toList = some [(1, 1, 10)] := by
  decide +kernel

end Outline

end TexSplice
