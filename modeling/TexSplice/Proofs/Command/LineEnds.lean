import TexSplice.Command.Edit
import TexSplice.Proofs.Apply.Place
import TexSplice.Proofs.Text.LineEnds

/-! # What becomes of a file's line ends

The text of a file comes to the edit with its line ends unified, and what the edit leaves is written
to the output as it is. So around the place that the edit wrote to the output is the file WITHOUT its
carriage returns, those with a line feed behind them and those alone, and with everything else. -/
namespace TexSplice.Command

/-- **Which files an edit keeps outside the place that it writes to.** A reply at hand is put in the
place of one span of the file's text, and the output is that text around it with unified line ends. It
is the file itself around the same place exactly if there is no carriage return outside it. -/
theorem replay_keeps_file_iff {job : EditJob} (hfile : job.toFile = true) (file reply : Text)
    (writeFloat : Nat → Text) :
    let a := job.replay file reply
    let output := ((Summary.ofApplied a).outcome job writeFloat).output
    (∃ place x, a.patch.WritesOver (Text.unifyLineEnds file) place x) ∧
      ∀ (place : Span) (x : Text), a.patch.WritesOver (Text.unifyLineEnds file) place x →
        let s := place.inFile file
        output = some (Text.unifyLineEnds (file.take s.start) ++ x ++
          Text.unifyLineEnds (file.drop s.stop)) ∧
        (output = some (s.replace file x) ↔ '\r' ∉ s.outside file) := by
  intro a output
  have houtput : output = some a.patch.document := if_pos hfile
  refine ⟨Request.exists_writesOver _, fun place x hplace => ?_⟩
  intro s
  rw [houtput, hplace.document, Option.some_inj, Option.some_inj]
  refine ⟨?_, place.replace_unifyLineEnds_iff file x⟩
  simp only [s, Span.inFile, Text.unifyLineEnds_take, Text.unifyLineEnds_drop]
  rfl

/-- The only carriage return of a file is in the selection. -/
theorem replay_of_selected_line_end :
    let job : EditJob := ⟨"improve".toList, some (Span.sized 1 1), none, true, false⟩
    let a := job.replay "a\r\nb".toList "x".toList
    ((Summary.ofApplied a).outcome job fun _ => []).output =
      some ((Span.sized 1 2).replace "a\r\nb".toList "x".toList) := by
  intro job a
  have hpatch : a.patch =
      .ofSpan (Text.unifyLineEnds "a\r\nb".toList) (Span.sized 1 1) "x".toList := by decide +kernel
  have hplace : a.patch.WritesOver (Text.unifyLineEnds "a\r\nb".toList) (Span.sized 1 1)
      "x".toList := by
    rw [hpatch]
    exact Patch.writesOver_ofSpan _ (by decide)
  have hfile : job.toFile = true := rfl
  obtain ⟨_, hkept⟩ := replay_keeps_file_iff hfile "a\r\nb".toList "x".toList fun _ => []
  exact (hkept _ _ hplace).2.mpr (by decide)

/-- A reply is inserted at the start of a file with a carriage return and a line feed: the output has
the line feed alone, and is not the file around an insertion anywhere. -/
theorem replay_unifies_line_ends :
    let job : EditJob := ⟨"improve".toList, none, some 0, true, false⟩
    let file := "a\r\nb".toList
    let a := job.replay file "x".toList
    let output := ((Summary.ofApplied a).outcome job fun _ => []).output
    a.strategy = .cursor ∧ output = some "xa\nb".toList ∧
      ∀ k, output ≠ some (file.take k ++ "x".toList ++ file.drop k) := by
  intro job file a output
  obtain ⟨hstrategy, houtput⟩ : a.strategy = .cursor ∧ output = some "xa\nb".toList := by
    decide +kernel
  refine ⟨hstrategy, houtput, fun k hk => ?_⟩
  rw [houtput] at hk
  have hlength := congrArg List.length (Option.some_inj.mp hk)
  simp [file] at hlength
  omega

end TexSplice.Command
