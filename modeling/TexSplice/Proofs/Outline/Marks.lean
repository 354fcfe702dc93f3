import TexSplice.Outline.Basic
import TexSplice.Proofs.Text.Linewise

/-! # The marks of joined texts

The marks of a text are its structure without the places. Texts joined between two lines have
the marks of both, and blanks around a text have none, since a line is trimmed anyway before a rule
looks at it. -/
namespace TexSplice

/-- The structure of a text: the marks of its lines, in order. -/
def Text.marks (t : Text) : List Mark := (Outline.ofText t).marks

/-- A line's mark depends on its trimmed form alone. -/
theorem classify_congr {a b : Text} (h : Text.trim a = Text.trim b) : classify a = classify b := by
  simp only [classify, classifyBy, h]

theorem classify_of_allBlank {l : Text} (h : Text.allBlank l = true) : classify l = none := by
  simp [classify, classifyBy, Text.trim_eq_nil_iff.mpr h]

namespace Text

theorem marks_of_not_mem {l : Text} (h : '\n' ∉ l) : marks l = (classify l).toList := by
  rw [marks, Outline.marks_ofText, lines_of_not_mem h, List.filterMap_cons, List.filterMap_nil]
  cases classify l <;> rfl

@[simp] theorem marks_nil : marks [] = [] := marks_of_not_mem List.not_mem_nil

theorem marks_append_newline (a b : Text) : marks (a ++ '\n' :: b) = marks a ++ marks b := by
  simp only [marks, Outline.marks_ofText, lines_append_newline, List.filterMap_append]

@[simp] theorem marks_cons_newline (t : Text) : marks ('\n' :: t) = marks t := by
  simpa using marks_append_newline [] t

theorem marks_append_of_opensLine {a : Text} (ha : OpensLine a) (b : Text) :
    marks (a ++ b) = marks a ++ marks b := by
  rcases ha with rfl | ⟨c, rfl⟩
  · simp
  · have hc : marks (c ++ ['\n']) = marks c := by simpa using marks_append_newline c []
    rw [hc, List.append_assoc, List.singleton_append, marks_append_newline]

theorem marks_append_of_closesLine {z : Text} (a : Text) (hz : ClosesLine z) :
    marks (a ++ z) = marks a ++ marks z := by
  rcases hz with rfl | ⟨w, rfl⟩
  · simp
  · rw [marks_append_newline, marks_cons_newline]

/-! ## Blanks at the ends -/

theorem marks_cons_of_blank {c : Char} (h : isBlank c = true) (t : Text) :
    marks (c :: t) = marks t := by
  by_cases hc : c = '\n'
  · rw [hc, marks_cons_newline]
  · obtain ⟨l, z, rfl, hl, hz⟩ := exists_firstLine t
    have hcl : '\n' ∉ c :: l := by simp [hl, Ne.symm hc]
    rw [← List.cons_append, marks_append_of_closesLine _ hz, marks_append_of_closesLine _ hz,
      marks_of_not_mem hcl, marks_of_not_mem hl, classify_congr (trim_cons_of_blank h l)]

theorem marks_concat_of_blank {c : Char} (h : isBlank c = true) (t : Text) :
    marks (t ++ [c]) = marks t := by
  by_cases hc : c = '\n'
  · subst hc
    simpa using marks_append_newline t []
  · obtain ⟨a, l, rfl, ha, hl⟩ := exists_lastLine t
    have hlc : '\n' ∉ l ++ [c] := by simp [hl, Ne.symm hc]
    rw [List.append_assoc, marks_append_of_opensLine ha, marks_append_of_opensLine ha,
      marks_of_not_mem hlc, marks_of_not_mem hl, classify_congr (trim_concat_of_blank h l)]

theorem linewise_marks : Linewise marks (· ++ ·) where
  append_newline := marks_append_newline
  blanks_append := blanks_append_of_cons marks_cons_of_blank
  append_blanks := append_blanks_of_concat marks_concat_of_blank

/-- The line feed behind the first line carries no mark. -/
theorem marks_firstLine (t : Text) : marks (firstLine t).1 ++ marks (firstLine t).2 = marks t :=
  linewise_marks.firstLine t

end Text

end TexSplice
