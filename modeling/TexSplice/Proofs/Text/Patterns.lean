import TexSplice.Text.Wild

/-! # Patterns with one star

A text with one star in it stands for the texts that start with what is before the star and end with
what is behind it, the two parts side by side. -/
namespace TexSplice.Text

/-- A character that stands for itself in a pattern. -/
def isLiteral (c : Char) : Bool := c != '*' && c != '?' && c != '['

namespace Wild

theorem parse_cons_of_literal {c : Char} (h : isLiteral c = true) (rest : Text) :
    parse 0 (c :: rest) = char c :: parse 0 rest := by
  simp only [isLiteral, Bool.and_eq_true, bne_iff_ne] at h
  obtain ⟨⟨hstar, hmark⟩, hbracket⟩ := h
  rw [parse]
  · exact hstar
  · exact hmark
  · exact hbracket

theorem parse_append_of_literal {part : Text} (h : ∀ c ∈ part, isLiteral c = true) (rest : Text) :
    parse 0 (part ++ rest) = part.map char ++ parse 0 rest := by
  induction part with
  | nil => rfl
  | cons c part ih =>
    obtain ⟨hc, hpart⟩ := List.forall_mem_cons.mp h
    rw [List.cons_append, parse_cons_of_literal hc, ih hpart]
    rfl

theorem mem_suffixes_iff {t y : Text} : y ∈ suffixes t ↔ y <:+ t := by
  induction t with
  | nil => simp [suffixes]
  | cons c t ih => rw [suffixes, List.mem_cons, ih, List.suffix_cons_iff]

variable {ps : List Wild} {t : Text}

theorem fits_nil_iff : fits [] t = true ↔ t = [] := List.isEmpty_iff

theorem fits_run_iff : fits (run :: ps) t = true ↔ ∃ x y, t = x ++ y ∧ fits ps y = true := by
  rw [fits, List.any_eq_true]
  constructor
  · rintro ⟨y, hy, hfits⟩
    obtain ⟨x, hx⟩ := mem_suffixes_iff.mp hy
    exact ⟨x, y, hx.symm, hfits⟩
  · rintro ⟨x, y, ht, hfits⟩
    exact ⟨y, mem_suffixes_iff.mpr ⟨x, ht.symm⟩, hfits⟩

theorem fits_chars_iff (part : Text) :
    fits (part.map char ++ ps) t = true ↔ ∃ y, t = part ++ y ∧ fits ps y = true := by
  induction part generalizing t with
  | nil => simp
  | cons c part ih =>
    cases t with
    | nil => simp [fits]
    | cons d t =>
      rw [List.map_cons, List.cons_append, fits, accepts, Bool.and_eq_true, beq_iff_eq, ih]
      · simp only [List.cons_append, List.cons.injEq, eq_comm, and_assoc, exists_and_left]
      · exact nofun

end Wild

theorem fitsPattern_star_iff {a b t : Text} (ha : ∀ c ∈ a, isLiteral c = true)
    (hb : ∀ c ∈ b, isLiteral c = true) :
    fitsPattern (a ++ '*' :: b) t = true ↔ ∃ x, t = a ++ (x ++ b) := by
  have hparse : Wild.parse 0 (a ++ '*' :: b) = a.map .char ++ .run :: (b.map .char ++ []) := by
    have hend := Wild.parse_append_of_literal hb []
    rw [List.append_nil] at hend
    rw [Wild.parse_append_of_literal ha, Wild.parse, hend, Wild.parse]
  rw [fitsPattern, hparse]
  simp only [Wild.fits_chars_iff, Wild.fits_run_iff, Wild.fits_nil_iff]
  constructor
  · rintro ⟨_, rfl, x, _, rfl, _, rfl, rfl⟩
    exact ⟨x, by rw [List.append_nil]⟩
  · rintro ⟨x, rfl⟩
    exact ⟨_, rfl, x, b, rfl, [], (List.append_nil b).symm, rfl⟩

end TexSplice.Text
