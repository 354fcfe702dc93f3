import TexSplice.Text.Basic

/-! # Lines

Only the line feed ends a line. A text of `n` line feeds has `n + 1` lines, the last of which
may be empty, and joining the lines gives the text back. -/
namespace TexSplice.Text

def lines (t : Text) : List Text := pieces (· == '\n') t

def unlines (ls : List Text) : Text := join ['\n'] ls

/-- The first line, and what follows its line feed (nothing if there is none). -/
def firstLine (t : Text) : Text × Text :=
  ((t.takeWhile (· != '\n')), (t.dropWhile (· != '\n')).drop 1)

/-- A text with every kind of line end turned into a line feed: a carriage return with the line
feed after it, or alone. -/
def unifyLineEnds : Text → Text
  | [] => []
  | '\r' :: '\n' :: rest => '\n' :: unifyLineEnds rest
  | '\r' :: rest => '\n' :: unifyLineEnds rest
  | c :: rest => c :: unifyLineEnds rest

theorem return_not_mem_unifyLineEnds (t : Text) : '\r' ∉ unifyLineEnds t := by
  fun_induction unifyLineEnds t with
  | case1 => simp
  | case2 rest ih => simp [ih]
  | case3 rest _ ih => simp [ih]
  | case4 c rest _ hc ih => simp [ih, Ne.symm (a := c) hc]

theorem unifyLineEnds_of_not_mem {t : Text} (h : '\r' ∉ t) : unifyLineEnds t = t := by
  fun_induction unifyLineEnds t <;> simp_all

theorem lines_ne_nil (t : Text) : lines t ≠ [] := pieces_ne_nil _ t

theorem unlines_lines (t : Text) : unlines (lines t) = t := by
  induction t with
  | nil => simp [unlines, lines, pieces, join, List.intercalate]
  | cons c rest ih =>
    cases h : lines rest with
    | nil => exact absurd h (lines_ne_nil rest)
    | cons l ls =>
      rw [h] at ih
      unfold lines at h
      by_cases hc : c = '\n'
      · subst hc
        simp only [lines, pieces, beq_self_eq_true, if_true, h]
        rw [← ih]
        simp [unlines, join, List.intercalate]
      · simp only [lines, pieces, beq_iff_eq, hc, if_false, h, List.modifyHead_cons]
        rw [← ih]
        cases ls <;> simp [unlines, join, List.intercalate]

end TexSplice.Text
