import TexSplice.Proofs.Text.Spans
import TexSplice.Text.Lines

/-! # Places in a file

An offset in a text whose line ends were unified belongs to an offset in the file, which is further on
by one for every carriage return before it that a line feed follows. No such pair stands across the
offset in the file. So unifying the line ends of a file unifies those of its parts, and it changes a
part exactly if there is a carriage return in it. -/
namespace TexSplice

namespace Text

/-- The offset in a file of an offset in its text with unified line ends. -/
def fileOffset : Text → Nat → Nat
  | _, 0 => 0
  | [], _ + 1 => 0
  | '\r' :: '\n' :: rest, n + 1 => fileOffset rest n + 2
  | _ :: rest, n + 1 => fileOffset rest n + 1

theorem fileOffset_mono (t : Text) {m n : Nat} (h : m ≤ n) : fileOffset t m ≤ fileOffset t n := by
  fun_induction fileOffset t n generalizing m with
  | case1 => rw [Nat.le_zero.mp h, fileOffset]
  | case2 => cases m <;> simp [fileOffset]
  | case3 rest n ih =>
    cases m with
    | zero => simp [fileOffset]
    | succ m => simpa [fileOffset] using ih (Nat.le_of_succ_le_succ h)
  | case4 c rest n hpair ih =>
    cases m with
    | zero => simp [fileOffset]
    | succ m => simpa [fileOffset, hpair] using ih (Nat.le_of_succ_le_succ h)

/-- A character that does not begin a pair is unified by itself. -/
theorem unifyLineEnds_cons {c : Char} {t : Text} (h : ∀ w, c = '\r' → t = '\n' :: w → False) :
    unifyLineEnds (c :: t) = (if c = '\r' then '\n' else c) :: unifyLineEnds t := by
  by_cases hc : c = '\r'
  · subst hc
    rw [unifyLineEnds, if_pos rfl]
    exact fun w => h w rfl
  · rw [unifyLineEnds, if_neg hc]
    · exact fun _ he => absurd he hc
    · exact hc

theorem length_unifyLineEnds_le (t : Text) : (unifyLineEnds t).length ≤ t.length := by
  fun_induction unifyLineEnds t <;> simp <;> omega

theorem unifyLineEnds_drop (t : Text) (n : Nat) :
    unifyLineEnds (t.drop (fileOffset t n)) = (unifyLineEnds t).drop n := by
  fun_induction fileOffset t n with
  | case1 => rfl
  | case2 => rfl
  | case3 rest n ih => rwa [unifyLineEnds, List.drop_succ_cons, List.drop_succ_cons,
      List.drop_succ_cons]
  | case4 c rest n hpair ih =>
    rwa [unifyLineEnds_cons hpair, List.drop_succ_cons, List.drop_succ_cons]

theorem unifyLineEnds_take (t : Text) (n : Nat) :
    unifyLineEnds (t.take (fileOffset t n)) = (unifyLineEnds t).take n := by
  fun_induction fileOffset t n with
  | case1 => rfl
  | case2 => rfl
  | case3 rest n ih =>
    rw [unifyLineEnds, List.take_succ_cons, List.take_succ_cons, List.take_succ_cons,
      unifyLineEnds, ih]
  | case4 c rest n hpair ih =>
    have htake : ∀ w, c = '\r' → rest.take (fileOffset rest n) = '\n' :: w → False := by
      intro w hc hw
      refine hpair (w ++ rest.drop (fileOffset rest n)) hc ?_
      rw [← List.cons_append, ← hw, List.take_append_drop]
    rw [unifyLineEnds_cons hpair, List.take_succ_cons, List.take_succ_cons,
      unifyLineEnds_cons htake, ih]

end Text

namespace Span

open Text (unifyLineEnds)

/-- The span of a file that belongs to a span of its text with unified line ends. -/
def inFile (s : Span) (file : Text) : Span :=
  ⟨Text.fileOffset file s.start, Text.fileOffset file s.stop,
    Text.fileOffset_mono file s.start_le_stop⟩

/-- What is put in the place of a span of a file with unified line ends is the file itself around
that place exactly if there is no carriage return outside it. -/
theorem replace_unifyLineEnds_iff (s : Span) (file content : Text) :
    s.replace (unifyLineEnds file) content = (s.inFile file).replace file content ↔
      '\r' ∉ (s.inFile file).outside file := by
  simp only [replace, outside, inFile, ← Text.unifyLineEnds_take, ← Text.unifyLineEnds_drop,
    List.mem_append, not_or]
  generalize file.take (Text.fileOffset file s.start) = front
  generalize file.drop (Text.fileOffset file s.stop) = back
  constructor
  · intro h
    -- unifying lengthens neither part, so both have kept their lengths
    have hlength := congrArg List.length h
    simp only [List.length_append] at hlength
    have hfront := Text.length_unifyLineEnds_le front
    have hback := Text.length_unifyLineEnds_le back
    rw [List.append_assoc, List.append_assoc] at h
    obtain ⟨hf, hrest⟩ := List.append_inj h (by omega)
    have hb := List.append_cancel_left hrest
    refine ⟨?_, ?_⟩
    · rw [← hf]
      exact Text.return_not_mem_unifyLineEnds front
    · rw [← hb]
      exact Text.return_not_mem_unifyLineEnds back
  · rintro ⟨hf, hb⟩
    rw [Text.unifyLineEnds_of_not_mem hf, Text.unifyLineEnds_of_not_mem hb]

end Span

end TexSplice
