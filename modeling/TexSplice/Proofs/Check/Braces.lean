import Mathlib.Data.List.Basic
import Mathlib.Data.List.Induction
import TexSplice.Check

/-! # Braces and the backslashes before them

A brace is escaped if an odd number of backslashes stands right before it, since two backslashes are
a line break of their own. The check of a text looks at one character only, so it takes the braces
right behind a line break for escaped ones as well. What it reports is right unless these braces
alone make up, or cover up, the difference. -/
namespace TexSplice.Check
open Text

/-! ## What the check counts -/

/-- By how much the opening braces that the check counts outnumber the closing ones. -/
def braceExcess (t : Text) : Int := (braceCount '{' none t : Int) - braceCount '}' none t

theorem braceCount_append (brace : Char) (b : Text) : ∀ (before : Option Char) (a : Text),
    braceCount brace before (a ++ b) =
      braceCount brace before a + braceCount brace (a.getLast?.or before) b
  | before, [] => by simp [braceCount]
  | before, c :: a => by
    have ih := braceCount_append brace b (some c) a
    have hlast : (c :: a).getLast?.or before = a.getLast?.or (some c) := by
      rw [List.getLast?_cons]
      cases a.getLast? <;> rfl
    rw [List.cons_append, braceCount, ih, braceCount, hlast, Nat.add_assoc]

theorem braces_mem_imbalances_iff {t : Text} : .braces ∈ imbalances t ↔ braceExcess t ≠ 0 := by
  unfold imbalances braceExcess
  rw [List.mem_append, Ne, Int.sub_eq_zero, Int.ofNat_inj]
  split <;> split <;> simp [*]

theorem Imbalance.message_injective : Function.Injective Imbalance.message := by
  intro i j h
  cases i <;> cases j <;> first | rfl | exact absurd h (by decide)

/-- The message on braces is among those of a text exactly if its braces are found unbalanced. -/
theorem reports_braces_iff {t : Text} :
    "Unbalanced braces".toList ∈ (imbalances t).map Imbalance.message ↔ braceExcess t ≠ 0 := by
  have hmem : Imbalance.braces.message ∈ (imbalances t).map Imbalance.message ↔
      .braces ∈ imbalances t := List.mem_map_of_injective Imbalance.message_injective
  rw [← braces_mem_imbalances_iff, ← hmem]
  rfl

/-! ## Runs of backslashes -/

/-- How many backslashes stand right before an offset. -/
def backslashesBefore (t : Text) (i : Nat) : Nat :=
  ((t.take i).reverse.takeWhile (· == '\\')).length

/-- How often a brace stands right behind a run of backslashes whose length passes a test. -/
def countBehind (brace : Char) (test : Nat → Bool) (t : Text) : Nat :=
  (List.range t.length).countP fun i => t[i]? == some brace && test (backslashesBefore t i)

/-- How often a brace is not escaped: the run of backslashes right before it is even, or empty. -/
def unescapedCount (brace : Char) (t : Text) : Nat := countBehind brace (fun n => n % 2 == 0) t

/-- How often a brace stands right behind a line break: the run is even and not empty. -/
def brokenCount (brace : Char) (t : Text) : Nat :=
  countBehind brace (fun n => n % 2 == 0 && n != 0) t

/-- By how much the opening braces that are not escaped outnumber the closing ones. -/
def unescapedExcess (t : Text) : Int := (unescapedCount '{' t : Int) - unescapedCount '}' t

/-- By how much the opening braces right behind line breaks outnumber the closing ones. -/
def brokenExcess (t : Text) : Int := (brokenCount '{' t : Int) - brokenCount '}' t

variable {brace c : Char} {t : Text}

theorem countBehind_concat (brace : Char) (test : Nat → Bool) (t : Text) (c : Char) :
    countBehind brace test (t ++ [c]) =
      countBehind brace test t + if c == brace && test (backslashesBefore t t.length) then 1 else 0 := by
  have hrun (i : Nat) (hi : i ≤ t.length) :
      backslashesBefore (t ++ [c]) i = backslashesBefore t i := by
    rw [backslashesBefore, List.take_append_of_le_length hi, backslashesBefore]
  have hbefore : (List.range t.length).countP (fun i => (t ++ [c])[i]? == some brace &&
      test (backslashesBefore (t ++ [c]) i)) = countBehind brace test t := by
    refine List.countP_congr fun i hi => ?_
    have hlt := List.mem_range.mp hi
    rw [List.getElem?_append_left hlt, hrun i (Nat.le_of_lt hlt)]
  rw [countBehind, List.length_append, List.length_singleton, List.range_succ, List.countP_append,
    hbefore, List.countP_singleton, List.getElem?_concat_length, hrun _ (Nat.le_refl _)]
  simp

theorem backslashesBefore_length_eq_zero_iff :
    backslashesBefore t t.length = 0 ↔ t.getLast? ≠ some '\\' := by
  rw [backslashesBefore, List.take_length, ← List.head?_reverse]
  cases t.reverse <;> simp [List.takeWhile_cons]

theorem braceCount_eq_countBehind (brace : Char) (t : Text) :
    braceCount brace none t = countBehind brace (fun n => n == 0) t := by
  induction t using List.reverseRecOn with
  | nil => rfl
  | append_singleton t c ih =>
    have hrun : (backslashesBefore t t.length == 0) = (t.getLast? != some '\\') := by
      rw [Bool.eq_iff_iff, beq_iff_eq, backslashesBefore_length_eq_zero_iff, bne_iff_ne]
    rw [braceCount_append, ih, countBehind_concat, hrun]
    simp [braceCount]

theorem countBehind_add_not (brace : Char) (test part : Nat → Bool) (t : Text) :
    countBehind brace (fun n => test n && part n) t +
        countBehind brace (fun n => test n && !part n) t =
      countBehind brace test t := by
  unfold countBehind
  rw [List.countP_eq_countP_filter_add _
      (fun i => t[i]? == some brace && test (backslashesBefore t i))
      fun i => part (backslashesBefore t i),
    List.countP_filter, List.countP_filter]
  simp only [Bool.and_assoc]

/-- A brace that is not escaped is counted unless a line break stands right before it. -/
theorem unescapedCount_eq (brace : Char) (t : Text) :
    unescapedCount brace t = braceCount brace none t + brokenCount brace t := by
  have hzero : (fun n => n % 2 == 0 && n == 0) = fun n : Nat => n == 0 := by
    funext n
    cases n with
    | zero => rfl
    | succ n => exact Bool.and_false _
  rw [braceCount_eq_countBehind, ← hzero]
  exact (countBehind_add_not brace (fun n => n % 2 == 0) (fun n => n == 0) t).symm

theorem unescapedExcess_eq (t : Text) : unescapedExcess t = braceExcess t + brokenExcess t := by
  simp only [unescapedExcess, braceExcess, brokenExcess, unescapedCount_eq]
  omega

/-- **When a report on braces is right.** Braces are reported exactly if those that are not escaped
differ by another number than those right behind line breaks. So the report is right, it tells
whether the opening and the closing braces that are not escaped differ in number, exactly if the
braces behind line breaks are balanced among themselves, or the others are unbalanced with and
without them. -/
theorem brace_report_is_right_iff (t : Text) :
    let reported := "Unbalanced braces".toList ∈ (imbalances t).map Imbalance.message
    (reported ↔ unescapedExcess t ≠ brokenExcess t) ∧
    ((reported ↔ unescapedCount '{' t ≠ unescapedCount '}' t) ↔
      (brokenExcess t ≠ 0 → unescapedExcess t ≠ 0 ∧ unescapedExcess t ≠ brokenExcess t)) := by
  intro reported
  have hreported : reported ↔ unescapedExcess t ≠ brokenExcess t := by
    refine reports_braces_iff.trans ?_
    rw [unescapedExcess_eq]
    omega
  have hcount : unescapedCount '{' t ≠ unescapedCount '}' t ↔ unescapedExcess t ≠ 0 := by
    unfold unescapedExcess
    omega
  refine ⟨hreported, ?_⟩
  rw [hreported, hcount]
  omega

/-- A group behind a line break, as in a table, is balanced and is reported. -/
theorem group_behind_line_break_is_reported :
    let t := "a & b \\\\\x7bc\x7d".toList
    ¬("Unbalanced braces".toList ∈ (imbalances t).map Imbalance.message ↔
      unescapedCount '{' t ≠ unescapedCount '}' t) := by
  decide

end TexSplice.Check
