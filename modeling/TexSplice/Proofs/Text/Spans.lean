import TexSplice.Proofs.Text.Trim
import TexSplice.Target.Boundary

/-! # A text around a span

A span cuts a text in three, and the three parts give the text back: all that is said here of
replacing and removing a span comes from that. A span may reach past the end of a text, and then
nothing stands behind it. -/
namespace TexSplice.Span
open Text (solid)
open scoped List

variable (s : Span) (t content : Text)

theorem take_cut_drop : t.take s.start ++ s.cut t ++ t.drop s.stop = t := Frame.text_around [] t s

theorem cut_append_drop : s.cut t ++ t.drop s.stop = t.drop s.start := by
  have h : t.take s.start ++ (s.cut t ++ t.drop s.stop) = t.take s.start ++ t.drop s.start := by
    rw [← List.append_assoc, take_cut_drop, List.take_append_drop]
  exact List.append_cancel_left h

/-- A beginning of a text that holds a span falls in three parts. -/
theorem take_eq_append_cut {n : Nat} (h : s.stop ≤ n) :
    t.take n = t.take s.start ++ s.cut t ++ t.slice s.stop n := by
  have hstart : (t.take n).take s.start = t.take s.start := by
    rw [List.take_take, Nat.min_eq_left (Nat.le_trans s.start_le_stop h)]
  have hcut : s.cut (t.take n) = s.cut t := by
    rw [cut, Text.slice, List.take_take, Nat.min_eq_left h]
    rfl
  rw [← hstart, ← hcut]
  exact (s.take_cut_drop (t.take n)).symm

theorem take_stop : t.take s.stop = t.take s.start ++ s.cut t := by
  have h := s.take_eq_append_cut t (Nat.le_refl _)
  rwa [Text.slice, List.drop_eq_nil_of_le (List.length_take_le ..), List.append_nil] at h

theorem cut_empty (offset : Nat) : (empty offset).cut t = [] := by
  simp [empty, cut, Text.slice]

/-! ## A text in three parts -/

theorem cut_sized_append (a m z : Text) : (sized a.length m.length).cut (a ++ m ++ z) = m := by
  simp [cut, sized, Text.slice, List.drop_take]

theorem replace_sized_append (a m z x : Text) :
    (sized a.length m.length).replace (a ++ m ++ z) x = a ++ x ++ z := by
  simp [replace, sized]

/-! ## What stands outside a span -/

/-- What stands outside a span of a text, in order. -/
def outside (s : Span) (t : Text) : Text := t.take s.start ++ t.drop s.stop

theorem replace_nil : s.replace t [] = s.outside t := by
  rw [replace, outside, List.append_nil]

/-- Taking a span out only takes away. -/
theorem outside_sublist : s.outside t <+ t := by
  have hdrop : t.drop s.stop <+ t.drop s.start :=
    List.drop_sublist_drop_left t s.start_le_stop
  calc s.outside t
    _ <+ t.take s.start ++ t.drop s.start := List.Sublist.append_left hdrop _
    _ = t := List.take_append_drop ..

/-- Behind a span that reaches past the end of a text nothing stands. -/
theorem outside_of_not_fits {s : Span} {t : Text} (h : s.fits t = false) :
    s.outside t = t.take s.start := by
  have hlt : t.length < s.stop := by simpa [fits] using h
  rw [outside, List.drop_eq_nil_of_le (Nat.le_of_lt hlt), List.append_nil]

/-! ## What a replacement keeps -/

/-- What carries anything in a text is still there after a replacement exactly if what was replaced
is found in the new content. -/
theorem solid_sublist_replace_iff :
    solid t <+ solid (s.replace t content) ↔ solid (s.cut t) <+ solid content := by
  have hsolid : solid t = solid (t.take s.start) ++ solid (s.cut t) ++ solid (t.drop s.stop) := by
    rw [← Text.solid_append, ← Text.solid_append, take_cut_drop]
  rw [hsolid, replace, Text.solid_append, Text.solid_append, List.append_sublist_append_right,
    List.append_sublist_append_left]

end TexSplice.Span
