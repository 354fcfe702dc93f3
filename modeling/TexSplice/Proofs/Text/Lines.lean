import TexSplice.Text.Lines

/-! # Texts joined between two lines

Two texts can be put together without changing a line of either if the first one leaves a new
line open, or the second one closes the line before it. Every place at which an edit cuts a
document is of one of these kinds. -/
namespace TexSplice.Text

/-- After this text a line begins: it is empty, or ends with a line feed. -/
def OpensLine (a : Text) : Prop := a = [] ∨ ∃ b, a = b ++ ['\n']

/-- Before this text a line ends: it is empty, or starts with a line feed. -/
def ClosesLine (z : Text) : Prop := z = [] ∨ ∃ w, z = '\n' :: w

theorem opensLine_nil : OpensLine [] := .inl rfl

theorem opensLine_concat (b : Text) : OpensLine (b ++ ['\n']) := .inr ⟨b, rfl⟩

theorem closesLine_nil : ClosesLine [] := .inl rfl

theorem closesLine_cons (w : Text) : ClosesLine ('\n' :: w) := .inr ⟨w, rfl⟩

/-- What opens a line still does so behind other text that does. -/
theorem OpensLine.append {a b : Text} (ha : OpensLine a) (hb : OpensLine b) :
    OpensLine (a ++ b) := by
  rcases hb with rfl | ⟨c, rfl⟩
  · simpa using ha
  · exact .inr ⟨a ++ c, by simp⟩

theorem OpensLine.drop {a : Text} (ha : OpensLine a) (n : Nat) : OpensLine (a.drop n) := by
  rcases ha with rfl | ⟨b, rfl⟩
  · exact .inl List.drop_nil
  · by_cases h : n ≤ b.length
    · rw [List.drop_append_of_le_length h]
      exact opensLine_concat _
    · exact .inl (List.drop_eq_nil_of_le (by simp; omega))

/-- What closes a line still does so before other text that does. -/
theorem ClosesLine.append {y z : Text} (hy : ClosesLine y) (hz : ClosesLine z) :
    ClosesLine (y ++ z) := by
  rcases hy with rfl | ⟨w, rfl⟩
  · exact hz
  · exact closesLine_cons _

theorem ClosesLine.take {z : Text} (hz : ClosesLine z) (n : Nat) : ClosesLine (z.take n) := by
  rcases hz with rfl | ⟨w, rfl⟩
  · exact .inl List.take_nil
  · cases n with
    | zero => exact closesLine_nil
    | succ n => exact closesLine_cons _

/-! ## The lines of a text -/

theorem lines_append_newline (a b : Text) : lines (a ++ '\n' :: b) = lines a ++ lines b := by
  unfold lines
  exact pieces_append_cons (by rfl) b a

/-- A text without the separator is one piece. -/
theorem pieces_of_not_mem {sep : Char} {t : Text} (h : sep ∉ t) : pieces (· == sep) t = [t] := by
  induction t with
  | nil => rfl
  | cons c t ih =>
    obtain ⟨hc, ht⟩ := not_or.mp (mt List.mem_cons.mpr h)
    have hb : (c == sep) = false := beq_false_of_ne (Ne.symm hc)
    simp [pieces, hb, ih ht]

theorem lines_of_not_mem {l : Text} (h : '\n' ∉ l) : lines l = [l] := pieces_of_not_mem h

/-- There is one line more than there are line feeds. -/
theorem length_lines (t : Text) : (lines t).length = t.count '\n' + 1 := by
  unfold lines
  induction t with
  | nil => rfl
  | cons c t ih =>
    by_cases hc : c = '\n'
    · rw [hc, List.count_cons_self, ← ih]
      rfl
    · rw [List.count_cons_of_ne hc, ← ih]
      simp [pieces, hc]

/-- A text that begins with a line has it as the first of its lines. -/
theorem exists_lines_cons {l z : Text} (hl : '\n' ∉ l) (hz : ClosesLine z) :
    ∃ ls, lines (l ++ z) = l :: ls := by
  rcases hz with rfl | ⟨w, rfl⟩
  · exact ⟨[], by rw [List.append_nil, lines_of_not_mem hl]⟩
  · exact ⟨lines w, by rw [lines_append_newline, lines_of_not_mem hl, List.singleton_append]⟩

/-- The line with a number is the one that has so many line feeds before it. -/
theorem getElem?_lines {a l z : Text} (ha : OpensLine a) (hl : '\n' ∉ l) (hz : ClosesLine z) :
    (lines (a ++ l ++ z))[a.count '\n']? = some l := by
  obtain ⟨ls, hls⟩ := exists_lines_cons hl hz
  rcases ha with rfl | ⟨b, rfl⟩
  · rw [List.nil_append, hls]
    rfl
  · have hcount : (b ++ ['\n']).count '\n' = (lines b).length := by
      rw [length_lines, List.count_append, List.count_singleton_self]
    rw [hcount, List.append_assoc, List.append_assoc, List.singleton_append, lines_append_newline,
      hls, List.getElem?_append_right (Nat.le_refl _), Nat.sub_self, List.getElem?_cons_zero]

theorem unlines_singleton (a : Text) : unlines [a] = a := by
  rw [unlines, join, List.intercalate_singleton]

theorem unlines_cons_cons (a b : Text) (rest : List Text) :
    unlines (a :: b :: rest) = a ++ '\n' :: unlines (b :: rest) := by
  rw [unlines, join, List.intercalate_cons_cons, List.append_assoc, List.singleton_append]
  rfl

theorem unlines_append_cons (m : Text) (post : List Text) :
    ∀ pre : List Text, unlines (pre ++ m :: post) =
      (pre.flatMap fun u => u ++ ['\n']) ++ m ++ post.flatMap fun u => '\n' :: u
  | [] => by
    induction post generalizing m with
    | nil => simp [unlines_singleton]
    | cons n post ih =>
      have ih := ih n
      rw [List.nil_append] at ih ⊢
      rw [unlines_cons_cons, ih]
      simp
  | u :: pre => by
    have hne : pre ++ m :: post ≠ [] := List.append_ne_nil_of_right_ne_nil pre (List.cons_ne_nil m post)
    obtain ⟨v, rest, hv⟩ := List.exists_cons_of_ne_nil hne
    have ih := unlines_append_cons m post pre
    rw [hv] at ih
    rw [List.cons_append, hv, unlines_cons_cons, ih]
    simp

theorem unlines_cons (m : Text) (post : List Text) :
    unlines (m :: post) = m ++ post.flatMap fun u => '\n' :: u :=
  unlines_append_cons m post []

/-- A text begins with a line, behind which the line ends. -/
theorem exists_firstLine (t : Text) : ∃ l z, t = l ++ z ∧ '\n' ∉ l ∧ ClosesLine z := by
  induction t with
  | nil => exact ⟨[], [], rfl, List.not_mem_nil, closesLine_nil⟩
  | cons c t ih =>
    obtain ⟨l, z, rfl, hl, hz⟩ := ih
    by_cases hc : c = '\n'
    · subst hc
      exact ⟨[], _, rfl, List.not_mem_nil, closesLine_cons _⟩
    · exact ⟨c :: l, z, rfl, by simp [hl, Ne.symm hc], hz⟩

/-- A text ends with a line, before which the line begins. -/
theorem exists_lastLine (t : Text) : ∃ a l, t = a ++ l ∧ OpensLine a ∧ '\n' ∉ l := by
  induction t with
  | nil => exact ⟨[], [], rfl, opensLine_nil, List.not_mem_nil⟩
  | cons c t ih =>
    obtain ⟨a, l, rfl, ha, hl⟩ := ih
    rcases ha with rfl | ⟨b, rfl⟩
    · by_cases hc : c = '\n'
      · subst hc
        exact ⟨['\n'], l, rfl, opensLine_concat [], hl⟩
      · exact ⟨[], c :: l, rfl, opensLine_nil, by simp [hl, Ne.symm hc]⟩
    · exact ⟨c :: b ++ ['\n'], l, by simp, opensLine_concat _, hl⟩

/-- To show something of every text, show it of a line, and of a line before any text of which
it holds. -/
@[elab_as_elim]
theorem lineInduction {P : Text → Prop} (last : ∀ l, '\n' ∉ l → P l)
    (more : ∀ l t, '\n' ∉ l → P t → P (l ++ '\n' :: t)) (t : Text) : P t := by
  obtain ⟨l, z, ht, hl, hz⟩ := exists_firstLine t
  rcases hz with rfl | ⟨w, rfl⟩
  · rw [ht, List.append_nil]
    exact last l hl
  · have : w.length < t.length := by simp [ht]; omega
    rw [ht]
    exact more l w hl (lineInduction last more w)
termination_by t.length

theorem not_mem_of_mem_lines {l t : Text} (h : l ∈ lines t) : '\n' ∉ l := by
  induction t using lineInduction with
  | last u hu =>
    rw [lines_of_not_mem hu, List.mem_singleton] at h
    rwa [h]
  | more u t hu ih =>
    rw [lines_append_newline, lines_of_not_mem hu, List.singleton_append, List.mem_cons] at h
    rcases h with rfl | h
    · exact hu
    · exact ih h

theorem firstLine_append {l z : Text} (hl : '\n' ∉ l) (hz : ClosesLine z) :
    firstLine (l ++ z) = (l, z.drop 1) := by
  have hall : ∀ c ∈ l, (c != '\n') = true := fun c hc => by
    simp only [bne_iff_ne]
    exact fun he => hl (he ▸ hc)
  rw [firstLine, List.takeWhile_append_of_pos hall, List.dropWhile_append_of_pos hall]
  rcases hz with rfl | ⟨w, rfl⟩ <;> simp

/-- The line feed behind the first line, if there is one, is in neither part. -/
theorem length_firstLine (t : Text) :
    (firstLine t).1.length + (firstLine t).2.length + (if '\n' ∈ t then 1 else 0) = t.length := by
  obtain ⟨l, z, rfl, hl, hz⟩ := exists_firstLine t
  rw [firstLine_append hl hz]
  rcases hz with rfl | ⟨w, rfl⟩ <;> simp [hl]
  omega

end TexSplice.Text
