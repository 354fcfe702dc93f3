import TexSplice.Proofs.Splice.Created

/-! # New sections in the body of a document

A new section is written behind the line that opens the document, unless the document's own text ends
before that line. What closes the text before it gives way to an empty line, so the opening line is
followed by the section as it stands, except for blanks at its end with nothing else behind them. -/
namespace TexSplice

open Outline (ofText)
open scoped List

theorem length_separator : separator.length = 2 := rfl

/-! ## What stands before a new section -/

namespace Text

variable {a line z : Text}

/-- Of a text that has more than blanks the last line keeps the blanks at its end if something that
is not blank stands behind it. -/
theorem paragraphBefore_append_line (h : allBlank line = false) :
    paragraphBefore (a ++ line ++ z) =
      (if allBlank z then a ++ trimEnd line else a ++ line ++ trimEnd z) ++ separator := by
  have hblank : allBlank (a ++ line ++ z) = false := by
    rw [allBlank] at h ⊢
    rw [List.all_append, List.all_append, h, Bool.and_false, Bool.false_and]
  have hkept : (trimEnd (a ++ line ++ z)).isEmpty = false := by
    rw [Bool.eq_false_iff, ne_eq, List.isEmpty_iff, trimEnd_eq_nil_iff, hblank]
    exact Bool.false_ne_true
  have hline : trimEnd (a ++ line) = a ++ trimEnd line := by
    rw [trimEnd_append, h]
    rfl
  rw [paragraphBefore, hkept, if_neg Bool.false_ne_true, trimEnd_append, hline]

/-- What a line has before its closing blanks stands before a paragraph, and an empty line behind
it. -/
theorem exists_paragraphBefore_line (h : allBlank line = false) :
    ∃ w, paragraphBefore (a ++ line ++ z) = a ++ trimEnd line ++ w ++ separator := by
  rw [paragraphBefore_append_line h]
  split
  · exact ⟨[], by rw [List.append_nil]⟩
  · obtain ⟨b, _, hb⟩ := exists_trimEnd line
    refine ⟨b ++ trimEnd z, ?_⟩
    conv_lhs => rw [hb]
    simp only [List.append_assoc]

/-- The blanks that close the line stay too if there are none or something stands behind them. -/
theorem exists_paragraphBefore_whole_line (h : allBlank line = false)
    (hkept : trimEnd line = line ∨ allBlank z = false) :
    ∃ w, paragraphBefore (a ++ line ++ z) = a ++ line ++ w ++ separator := by
  rcases hkept with hline | hz
  · obtain ⟨w, hw⟩ := exists_paragraphBefore_line (a := a) (z := z) h
    exact ⟨w, by rw [hw, hline]⟩
  · exact ⟨trimEnd z, by rw [paragraphBefore_append_line h, hz, if_neg Bool.false_ne_true]⟩

theorem kept_of_prefix_paragraphBefore (h : allBlank line = false) (hl : '\n' ∉ line)
    (hpre : a ++ line <+: paragraphBefore (a ++ line ++ z)) :
    trimEnd line = line ∨ allBlank z = false := by
  rw [paragraphBefore_append_line h] at hpre
  cases hz : allBlank z with
  | false => exact .inr rfl
  | true =>
    obtain ⟨b, _, hb⟩ := exists_trimEnd line
    rw [hz, if_pos rfl, List.append_assoc, List.prefix_append_right_inj] at hpre
    generalize trimEnd line = kept at hb hpre ⊢
    subst hb
    rw [List.prefix_append_right_inj] at hpre
    cases b with
    | nil => exact .inl (List.append_nil kept).symm
    | cons c b =>
      -- the line would go on with a line feed
      obtain ⟨rfl, _⟩ := List.cons_prefix_cons.mp hpre
      exact absurd (List.mem_append_right kept List.mem_cons_self) hl

end Text

/-! ## Where a new section is written -/

/-- What an edit wrote stands behind a line of the old text, up to which nothing has changed. -/
structure Edit.Follows (edit : Edit) (t : Text) (e : Element) : Prop where
  stop_lt : e.span.stop < edit.range.start
  kept : t.take e.span.stop <+: edit.document.take edit.range.start

namespace Outline

theorem allBlank_cut_of_mem {t : Text} {e : Element} (he : e ∈ (ofText t).elements) :
    Text.allBlank (e.span.cut t) = false ∧ '\n' ∉ e.span.cut t := by
  obtain ⟨before, line, after, st⟩ := exists_standsIn he
  have hcut : e.span.cut t = line := by rw [st.text, st.span, Span.cut_sized_append]
  rw [hcut]
  refine ⟨Bool.eq_false_iff.mpr fun hall => ?_, st.oneLine⟩
  have hmark := st.mark
  rw [classify_of_allBlank hall] at hmark
  cases hmark

/-- A line that ends nothing, and before which nothing ends, stands before the end of the document's
own text. -/
theorem stop_le_bodyEnd {t : Text} {e : Element} (he : e ∈ (ofText t).elements)
    (hkind : e.isFinish = false)
    (hfirst : ∀ f ∈ (ofText t).finishes, ¬ f.span.start < e.span.start) :
    e.span.stop ≤ (ofText t).bodyEnd := by
  unfold bodyEnd
  cases hf : (ofText t).finishes.head? with
  | none => exact stop_le_length he
  | some f =>
    have hmem := List.mem_of_head? hf
    obtain ⟨hel, hfinish⟩ := mem_finishes.mp hmem
    have := hfirst f hmem
    have := f.span.start_le_stop
    rcases eq_or_stop_lt_start he hel with rfl | hlt | hlt
    · rw [hfinish] at hkind
      cases hkind
    · exact Nat.le_of_lt hlt
    · omega

end Outline

section
variable {t : Text} {e : Element}

/-- What stands before a new section is the document's own text as a paragraph, with the line of any
element before its end in it. -/
theorem before_create (hstop : e.span.stop ≤ (ofText t).bodyEnd) (content name : Text) :
    let edit := (ofText t).create t content name
    let paragraph := Text.paragraphBefore
      (t.take e.span.start ++ e.span.cut t ++ t.slice e.span.stop (ofText t).bodyEnd)
    edit.document.take edit.range.start = paragraph ∧ edit.range.start = paragraph.length := by
  intro edit paragraph
  obtain ⟨tail, _, hdocument, hrange, _⟩ := exists_create t content name
  rw [e.span.take_eq_append_cut t hstop] at hdocument hrange
  have hstart : edit.range.start = paragraph.length := congrArg Span.start hrange
  refine ⟨?_, hstart⟩
  rw [hstart, hdocument, List.append_assoc]
  exact List.take_left

/-- Such a line stays up to its closing blanks, and an empty line comes before the section. -/
theorem exists_before_create (he : e ∈ (ofText t).elements)
    (hstop : e.span.stop ≤ (ofText t).bodyEnd) (content name : Text) :
    let edit := (ofText t).create t content name
    e.span.start + (Text.trimEnd (e.span.cut t)).length + 2 ≤ edit.range.start ∧
      ∃ w, edit.document.take edit.range.start =
        t.take e.span.start ++ Text.trimEnd (e.span.cut t) ++ w ++ separator := by
  intro edit
  obtain ⟨htake, hstart⟩ := before_create hstop content name
  obtain ⟨w, hw⟩ := Text.exists_paragraphBefore_line (Outline.allBlank_cut_of_mem he).1
  have hlength : (t.take e.span.start).length = e.span.start :=
    List.length_take_of_le (Nat.le_trans e.span.start_le_stop (Outline.stop_le_length he))
  refine ⟨?_, w, htake.trans hw⟩
  rw [hstart, hw]
  simp only [List.length_append, hlength, length_separator]
  omega

/-- All of it stays exactly if nothing was trimmed from it. -/
theorem follows_create_iff (he : e ∈ (ofText t).elements)
    (hstop : e.span.stop ≤ (ofText t).bodyEnd) (content name : Text) :
    ((ofText t).create t content name).Follows t e ↔
      Text.trimEnd (e.span.cut t) = e.span.cut t ∨
        Text.allBlank (t.slice e.span.stop (ofText t).bodyEnd) = false := by
  obtain ⟨hblank, hfeed⟩ := Outline.allBlank_cut_of_mem he
  obtain ⟨htake, hstart⟩ := before_create hstop content name
  constructor
  · intro hfollows
    have hkept := hfollows.kept
    rw [htake, e.span.take_stop] at hkept
    exact Text.kept_of_prefix_paragraphBefore hblank hfeed hkept
  · intro hkept
    obtain ⟨w, hw⟩ :=
      Text.exists_paragraphBefore_whole_line (a := t.take e.span.start) hblank hkept
    rw [hw, ← e.span.take_stop] at htake hstart
    have hlength : (t.take e.span.stop).length = e.span.stop :=
      List.length_take_of_le (Outline.stop_le_length he)
    constructor
    · rw [hstart]
      simp only [List.length_append, hlength, length_separator]
      omega
    · rw [htake, List.append_assoc]
      exact List.prefix_append ..

end

/-- **A new section follows the line that opens the document**, if no line before that one ends the
document's own text. The opening line stays up to its closing blanks, with an empty line between it
and the section. The blanks stay too exactly if there are none or if something that is not blank
stands between the line and the place where the section is written. -/
theorem new_section_follows_opening {t : Text} {e : Element} (he : e ∈ (ofText t).elements)
    (hopening : e.mark = .opening documentName)
    (hfirst : ∀ f ∈ (ofText t).finishes, ¬ f.span.start < e.span.start) (content name : Text) :
    let edit := (ofText t).create t content name
    let line := e.span.cut t
    edit.range.cut edit.document = Text.trim content ∧
      e.span.start + (Text.trimEnd line).length + 2 ≤ edit.range.start ∧
      (∃ w, edit.document.take edit.range.start =
        t.take e.span.start ++ Text.trimEnd line ++ w ++ separator) ∧
      (edit.Follows t e ↔
        Text.trimEnd line = line ∨
          Text.allBlank (t.slice e.span.stop (ofText t).bodyEnd) = false) := by
  intro edit line
  have hstop := Outline.stop_le_bodyEnd he (by rw [Element.isFinish, hopening]) hfirst
  obtain ⟨hstart, hbefore⟩ := exists_before_create he hstop content name
  exact ⟨cut_range_create t content name, hstart, hbefore,
    follows_create_iff he hstop content name⟩

/-- Between the opening line and the bibliography a section is written behind the text that is
there. -/
theorem new_section_follows_opening_of_article :
    let t := "\n\\begin\x7bdocument\x7d\nHi\n\\bibliography\x7brefs\x7d".toList
    let edit := (ofText t).create t "X".toList []
    edit.range.cut edit.document = "X".toList ∧
      edit.Follows t ⟨.opening documentName, 1, Span.sized 1 16⟩ := by
  intro t edit
  have he : ⟨.opening documentName, 1, Span.sized 1 16⟩ ∈ (ofText t).elements := by decide +kernel
  have hfirst : ∀ f ∈ (ofText t).finishes, ¬ f.span.start < 1 := by decide +kernel
  obtain ⟨hcut, _, _, hfollows⟩ := new_section_follows_opening he rfl hfirst "X".toList []
  exact ⟨hcut.trans (by decide), hfollows.mpr (.inl (by decide +kernel))⟩

/-- A style of bibliography that is set before the document is opened has the section before the
opening line, and blanks that close an opening line with nothing behind them are lost. -/
theorem new_section_before_opening :
    (let t :=
      "\\bibliographystyle\x7bplain\x7d\n\\begin\x7bdocument\x7d\nHi\n\\end\x7bdocument\x7d".toList
     ∃ e ∈ (ofText t).elements, e.mark = .opening documentName ∧
       ¬ ((ofText t).create t "X".toList []).Follows t e) ∧
    (let t := "\\begin\x7bdocument\x7d   \n\\end\x7bdocument\x7d".toList
     ∃ e ∈ (ofText t).elements, e.mark = .opening documentName ∧
       ¬ ((ofText t).create t "X".toList []).Follows t e) := by
  constructor
  · intro t
    have he : ⟨.opening documentName, 1, Span.sized 26 16⟩ ∈ (ofText t).elements := by
      decide +kernel
    have hstart : ((ofText t).create t "X".toList []).range.start = 0 := by decide +kernel
    refine ⟨_, he, rfl, fun h => ?_⟩
    have := h.stop_lt
    rw [hstart] at this
    exact Nat.not_lt_zero _ this
  · intro t
    have he : ⟨.opening documentName, 0, Span.sized 0 19⟩ ∈ (ofText t).elements := by
      decide +kernel
    have hstart : ((ofText t).create t "X".toList []).range.start = 18 := by decide +kernel
    refine ⟨_, he, rfl, fun h => ?_⟩
    have := h.stop_lt
    rw [hstart] at this
    exact absurd this (by decide)

end TexSplice
