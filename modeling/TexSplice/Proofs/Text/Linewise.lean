import TexSplice.Proofs.Text.Lines
import TexSplice.Proofs.Text.Trim

/-! # What is read off a text line by line

The characters of a text that are not blank, its marks and the number of its braces are put together
from what its lines give, and blanks around a text give nothing. These two laws are all that is needed
to read a text in parts, wherever it is cut between two lines, and in its trimmed form. -/
namespace TexSplice.Text

/-- A reading of texts that goes line by line: what stands on either side of a line feed is read by
itself and put together, and blanks before or behind a text do not count. -/
structure Linewise {α : Type} (read : Text → α) (both : α → α → α) : Prop where
  append_newline (a b : Text) : read (a ++ '\n' :: b) = both (read a) (read b)
  blanks_append {b : Text} (h : allBlank b = true) (t : Text) : read (b ++ t) = read t
  append_blanks {b : Text} (h : allBlank b = true) (t : Text) : read (t ++ b) = read t

namespace Linewise

variable {α : Type} {read : Text → α} {both : α → α → α}

theorem cons_newline (hr : Linewise read both) (t : Text) : read ('\n' :: t) = read t :=
  hr.blanks_append (b := ['\n']) rfl t

theorem nil_left (hr : Linewise read both) (t : Text) : both (read []) (read t) = read t := by
  rw [← hr.append_newline, List.nil_append, hr.cons_newline]

theorem nil_right (hr : Linewise read both) (t : Text) : both (read t) (read []) = read t := by
  rw [← hr.append_newline]
  exact hr.append_blanks rfl t

/-- What keeps readings together keeps what is made of them. -/
theorem comp (hr : Linewise read both) {β : Type} {g : α → β} {both' : β → β → β}
    (hg : ∀ x y, g (both x y) = both' (g x) (g y)) : Linewise (fun t => g (read t)) both' where
  append_newline a b := by rw [hr.append_newline, hg]
  blanks_append h t := by rw [hr.blanks_append h]
  append_blanks h t := by rw [hr.append_blanks h]

/-! ## Cuts between two lines -/

theorem append_of_opensLine (hr : Linewise read both) {a : Text} (ha : OpensLine a) (b : Text) :
    read (a ++ b) = both (read a) (read b) := by
  rcases ha with rfl | ⟨c, rfl⟩
  · rw [List.nil_append, hr.nil_left]
  · have hc : read (c ++ ['\n']) = read c := hr.append_blanks rfl c
    rw [hc, List.append_assoc, List.singleton_append, hr.append_newline]

theorem append_of_closesLine (hr : Linewise read both) (a : Text) {z : Text} (hz : ClosesLine z) :
    read (a ++ z) = both (read a) (read z) := by
  rcases hz with rfl | ⟨w, rfl⟩
  · rw [List.append_nil, hr.nil_right]
  · rw [hr.append_newline, hr.cons_newline]

/-- The line feed behind the first line does not count. -/
theorem firstLine (hr : Linewise read both) (t : Text) :
    both (read (firstLine t).1) (read (firstLine t).2) = read t := by
  obtain ⟨l, z, rfl, hl, hz⟩ := exists_firstLine t
  have hdrop : read (z.drop 1) = read z := by
    rcases hz with rfl | ⟨w, rfl⟩
    · rfl
    · exact (hr.cons_newline w).symm
  rw [firstLine_append hl hz, hdrop, hr.append_of_closesLine l hz]

/-! ## Blanks at the ends -/

theorem trimEnd (hr : Linewise read both) (t : Text) : read (trimEnd t) = read t := by
  obtain ⟨b, hb, ht⟩ := exists_trimEnd t
  conv_rhs => rw [ht, hr.append_blanks hb]

theorem trim (hr : Linewise read both) (t : Text) : read (trim t) = read t := by
  obtain ⟨a, b, ha, hb, ht⟩ := exists_trim t
  conv_rhs => rw [ht, hr.append_blanks hb, hr.blanks_append ha]

/-! ## Lines put in -/

/-- What is put in behind the first line is read after it. -/
theorem behindFirstLine (hr : Linewise read both) (t content : Text) :
    read ((Text.firstLine t).1 ++ '\n' :: (Text.trim content ++ '\n' :: (Text.firstLine t).2)) =
      both (read (Text.firstLine t).1) (both (read content) (read (Text.firstLine t).2)) := by
  rw [hr.append_newline, hr.append_newline, hr.trim]

/-- What is put behind the last line is read last. -/
theorem behindLastLine (hr : Linewise read both) (t content : Text) :
    read (Text.trimEnd t ++ '\n' :: Text.trim content) = both (read t) (read content) := by
  rw [hr.append_newline, hr.trimEnd, hr.trim]

end Linewise

theorem linewise_solid : Linewise solid (· ++ ·) where
  append_newline a b := by rw [solid_append, solid_cons_newline]
  blanks_append h t := by rw [solid_append, solid_eq_nil_of_allBlank h, List.nil_append]
  append_blanks h t := by rw [solid_append, solid_eq_nil_of_allBlank h, List.append_nil]

end TexSplice.Text
