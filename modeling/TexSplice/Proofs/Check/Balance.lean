import TexSplice.Proofs.Check.Braces
import TexSplice.Proofs.Splice.Structure

/-! # The balance of an edited document

The count of braces looks one character back, so it does not add up over any two texts that are put
together: a backslash at the end of one hides a brace at the start of the other. But every place at
which an edit cuts or joins texts lies between two lines, or between a text and its closing blanks.
There it does add up, so an edit changes the balance by what it puts in and what it takes out. -/
namespace TexSplice.Check
open Text

variable {brace : Char}

/-! ## Counting line by line -/

/-- Only a backslash right before a text changes what is counted in it. -/
theorem braceCount_of_ne {before : Option Char} (h : before ≠ some '\\') (t : Text) :
    braceCount brace before t = braceCount brace none t := by
  cases t <;> simp [braceCount, h]

theorem braceCount_of_not_mem {t : Text} (h : brace ∉ t) (before : Option Char) :
    braceCount brace before t = 0 := by
  induction t generalizing before with
  | nil => rfl
  | cons c t ih =>
    obtain ⟨hc, ht⟩ := not_or.mp (mt List.mem_cons.mpr h)
    simp [braceCount, Ne.symm hc, ih ht]

theorem braceCount_of_allBlank (hbrace : isBlank brace = false) {b : Text}
    (h : allBlank b = true) (before : Option Char) : braceCount brace before b = 0 := by
  refine braceCount_of_not_mem (fun hmem => ?_) before
  have hblank : isBlank brace = true := List.all_eq_true.mp h brace hmem
  rw [hbrace] at hblank
  cases hblank

theorem linewise_braceCount (hbrace : isBlank brace = false) :
    Linewise (braceCount brace none) (· + ·) where
  append_newline a b := by
    have hne : '\n' ≠ brace := fun h => by rw [← h] at hbrace; cases hbrace
    have hline : braceCount brace (some '\n') b = braceCount brace none b :=
      braceCount_of_ne (by decide) b
    rw [braceCount_append, braceCount, hline]
    simp [hne]
  blanks_append {b} h t := by
    have hlast : b.getLast?.or none ≠ some '\\' := by
      rw [Option.or_none]
      intro hl
      have hblank : isBlank '\\' = true := List.all_eq_true.mp h _ (List.mem_of_getLast? hl)
      exact absurd hblank (by decide)
    rw [braceCount_append, braceCount_of_allBlank hbrace h, braceCount_of_ne hlast, Nat.zero_add]
  append_blanks h t := by
    rw [braceCount_append, braceCount_of_allBlank hbrace h, Nat.add_zero]

/-- The balance of a text is the sum of the balances of its lines. -/
theorem linewise_braceExcess : Linewise braceExcess (· + ·) := by
  have hopen : Linewise (braceCount '{' none) (· + ·) := linewise_braceCount (by decide)
  have hclose : Linewise (braceCount '}' none) (· + ·) := linewise_braceCount (by decide)
  refine ⟨fun a b => ?_, fun h t => ?_, fun h t => ?_⟩
  · simp only [braceExcess, hopen.append_newline, hclose.append_newline]
    omega
  · simp only [braceExcess, hopen.blanks_append h, hclose.blanks_append h]
  · simp only [braceExcess, hopen.append_blanks h, hclose.append_blanks h]

/-! ## Edits -/

section Edits

variable {f : Frame} {t : Text} {h : Heading}

theorem braceExcess_delete (hf : f.Holds t h) :
    braceExcess f.delete.document = braceExcess t - braceExcess f.middle := by
  rw [hf.read_delete linewise_braceExcess, hf.read_text linewise_braceExcess]
  omega

theorem braceExcess_replace (hf : f.Holds t h) (content : Text) :
    braceExcess (f.replace content).document =
      braceExcess t - braceExcess f.middle + braceExcess content := by
  rw [hf.read_replace linewise_braceExcess, hf.read_text linewise_braceExcess]
  omega

theorem braceExcess_add (hf : f.Holds t h) (content : Text) (placement : Placement) :
    braceExcess (f.add content placement).document = braceExcess t + braceExcess content := by
  cases placement with
  | ending =>
    rw [hf.read_add_ending linewise_braceExcess, hf.read_text linewise_braceExcess]
    omega
  | beginning =>
    rw [hf.read_add_beginning linewise_braceExcess, hf.read_text linewise_braceExcess,
      ← linewise_braceExcess.firstLine f.middle]
    omega

theorem braceExcess_create (t content name : Text) :
    braceExcess ((Outline.ofText t).create t content name).document =
      braceExcess t + braceExcess content := by
  rw [linewise_braceExcess.create, ← linewise_braceExcess.bodyEnd t]
  omega

end Edits

/-- **The balance of braces adds up under edits.** A section that is found and taken out takes its
balance with it, content that is put in its place, added to it at either end, or written as a new
section brings its own. So an addition of balanced content to a balanced document is never reported
for its braces. -/
theorem brace_excess_adds_up (t : Text) :
    (∀ (name : Text) (b : Boundary), (Outline.ofText t).boundary? t name = some b →
      (∀ (content : Text) (placement : Placement),
        braceExcess (b.frame.add content placement).document =
          braceExcess t + braceExcess content) ∧
      braceExcess b.frame.delete.document = braceExcess t - braceExcess b.frame.middle ∧
      ∀ content : Text, braceExcess (b.frame.replace content).document =
        braceExcess t - braceExcess b.frame.middle + braceExcess content) ∧
    (∀ content name : Text, braceExcess ((Outline.ofText t).create t content name).document =
      braceExcess t + braceExcess content) ∧
    (braceExcess t = 0 → ∀ content : Text, braceExcess content = 0 →
      let message := "Unbalanced braces".toList
      (∀ (name : Text) (b : Boundary), (Outline.ofText t).boundary? t name = some b →
        ∀ placement : Placement,
          message ∉ (imbalances (b.frame.add content placement).document).map Imbalance.message) ∧
      ∀ name : Text, message ∉
        (imbalances ((Outline.ofText t).create t content name).document).map
          Imbalance.message) := by
  refine ⟨fun name b hb => ?_, braceExcess_create t, fun ht content hc => ⟨?_, ?_⟩⟩
  · have hf := Boundary.holds hb
    exact ⟨braceExcess_add hf, braceExcess_delete hf, braceExcess_replace hf⟩
  · intro name b hb placement hreported
    refine reports_braces_iff.mp hreported ?_
    rw [braceExcess_add (Boundary.holds hb), ht, hc, Int.add_zero]
  · intro name hreported
    refine reports_braces_iff.mp hreported ?_
    rw [braceExcess_create, ht, hc, Int.add_zero]

/-- A group is added to a section whose only line ends with a line break. -/
theorem brace_excess_adds_up_behind_line_break :
    let t := "\\section\x7bA\x7d\\\\".toList
    let content := "\x7bx\x7d".toList
    ∃ b, (Outline.ofText t).boundary? t "a".toList = some b ∧ braceExcess t = 0 ∧
      braceExcess content = 0 ∧
      braceExcess (b.frame.add content .ending).document = 0 ∧
      "Unbalanced braces".toList ∉
        (imbalances (b.frame.add content .ending).document).map Imbalance.message := by
  intro t content
  obtain ⟨b, hb⟩ : ∃ b, (Outline.ofText t).boundary? t "a".toList = some b :=
    Option.isSome_iff_exists.mp (by decide)
  have ht : braceExcess t = 0 := by decide
  have hcontent : braceExcess content = 0 := by decide
  obtain ⟨hedits, _, hreports⟩ := brace_excess_adds_up t
  have hadd := (hedits _ b hb).1 content .ending
  rw [ht, hcontent] at hadd
  exact ⟨b, hb, ht, hcontent, hadd, (hreports ht content hcontent).1 _ b hb .ending⟩

end TexSplice.Check
