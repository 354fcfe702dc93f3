/-! # Texts

A text is a list of characters, so lengths and offsets count code points and a cut at an
offset is a `take` or a `drop`. Every law about cutting and joining texts is then a law about
lists. -/
namespace TexSplice

/-- A text; the offset `n` stands before its `n`-th character. -/
abbrev Text := List Char

namespace Text

def ofParts (parts : List String) : Text := parts.flatMap String.toList

def byteLength (t : Text) : Nat := (String.ofList t).utf8ByteSize

/-! ## Cutting -/

/-- The characters from offset `start` up to offset `stop`; none if the offsets cross. -/
def slice (t : Text) (start stop : Nat) : Text := (t.take stop).drop start

/-- The pieces between separators. There is one piece more than there are separators, so
the result is never empty. -/
def pieces (sep : Char → Bool) : Text → List Text
  | [] => [[]]
  | c :: rest =>
    if sep c then [] :: pieces sep rest else (pieces sep rest).modifyHead (c :: ·)

/-- What stands before and after the first occurrence of `mark`. -/
def cut? (mark : Text) : Text → Option (Text × Text)
  | [] => if mark.isEmpty then some ([], []) else none
  | c :: rest =>
    if mark.isPrefixOf (c :: rest) then some ([], (c :: rest).drop mark.length)
    else (cut? mark rest).map fun (before, after) => (c :: before, after)

def includes (t mark : Text) : Bool := (cut? mark t).isSome

def startsWithAny (t : Text) (beginnings : List Text) : Bool :=
  beginnings.any fun b => b.isPrefixOf t

def after? (start : Text) (t : Text) : Option Text :=
  if start.isPrefixOf t then some (t.drop start.length) else none

/-- The first offset at which `hit` holds of the character before (none at the beginning) and
the text from there on. The end of the text is not tried. -/
def findOffset? (hit : Option Char → Text → Bool) : Option Char → Text → Option Nat
  | _, [] => none
  | before, c :: rest =>
    if hit before (c :: rest) then some 0 else (findOffset? hit (some c) rest).map (· + 1)

/-! ## Joining -/

def join (sep : Text) (parts : List Text) : Text := List.intercalate sep parts

theorem pieces_ne_nil (sep : Char → Bool) (t : Text) : pieces sep t ≠ [] := by
  induction t with
  | nil => simp [pieces]
  | cons c rest ih =>
    unfold pieces
    split
    · simp
    · cases h : pieces sep rest with
      | nil => exact absurd h ih
      | cons p ps => simp

/-- The pieces of two texts with a separator between them are the pieces of both. -/
theorem pieces_append_cons {sep : Char → Bool} {c : Char} (h : sep c = true) (b : Text) :
    ∀ a : Text, pieces sep (a ++ c :: b) = pieces sep a ++ pieces sep b
  | [] => by simp [pieces, h]
  | x :: a => by
    have ih := pieces_append_cons h b a
    cases hx : pieces sep a with
    | nil => exact absurd hx (pieces_ne_nil sep a)
    | cons p ps =>
      rw [hx] at ih
      by_cases hs : sep x = true <;> simp [pieces, hs, ih, hx]

theorem cut?_eq_append {mark : Text} :
    ∀ {t before after : Text}, cut? mark t = some (before, after) → t = before ++ mark ++ after
  | [], before, after, h => by
    unfold cut? at h
    split at h
    · simp_all
    · simp at h
  | c :: rest, before, after, h => by
    unfold cut? at h
    split at h
    · rename_i hp
      obtain ⟨tail, ht⟩ := List.isPrefixOf_iff_prefix.mp hp
      simp only [Option.some.injEq, Prod.mk.injEq] at h
      obtain ⟨rfl, rfl⟩ := h
      rw [← ht]; simp
    · obtain ⟨⟨b, a⟩, hc, he⟩ := Option.map_eq_some_iff.mp h
      simp only [Prod.mk.injEq] at he
      obtain ⟨rfl, rfl⟩ := he
      simp [cut?_eq_append hc]

theorem includes_iff {t mark : Text} : includes t mark = true ↔ mark <:+: t := by
  unfold includes
  induction t with
  | nil =>
    unfold cut?
    cases mark <;> simp
  | cons c rest ih =>
    unfold cut?
    split
    · rename_i h
      simpa using (List.isPrefixOf_iff_prefix.mp h).isInfix
    · rename_i h
      have h : ¬ mark <+: c :: rest := fun hp => h (List.isPrefixOf_iff_prefix.mpr hp)
      rw [Option.isSome_map, ih, List.infix_cons_iff]
      simp [h]

end Text

end TexSplice
