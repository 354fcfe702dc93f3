import TexSplice.NamedEdit
import TexSplice.Proofs.Layout.Lookup
import TexSplice.Proofs.Text.Trim

/-! # Edits of a layout

An edit of a section writes its document again with other text in one place. If that text is a
section with the same key, the edit is an update of the list of sections, after which every name
means the section with the same number as before. -/
namespace TexSplice

open Outline (ofText)

/-! ## The first line of an edited section -/

namespace Text

theorem firstLine_firstLine_append (t w : Text) :
    (firstLine ((firstLine t).1 ++ '\n' :: w)).1 = (firstLine t).1 := by
  obtain ⟨l, z, rfl, hl, hz⟩ := exists_firstLine t
  rw [firstLine_append hl hz, firstLine_append hl (closesLine_cons w)]

theorem firstLine_append_newline (t w : Text) :
    (firstLine (t ++ '\n' :: w)).1 = (firstLine t).1 := by
  obtain ⟨l, z, rfl, hl, hz⟩ := exists_firstLine t
  have hmore : ClosesLine (z ++ '\n' :: w) := by
    rcases hz with rfl | ⟨v, rfl⟩
    · exact closesLine_cons w
    · exact closesLine_cons _
  rw [List.append_assoc, firstLine_append hl hmore, firstLine_append hl hz]

/-- Blanks at the end of a text do not change what its first line is. -/
theorem classify_firstLine_append_blank {b : Text} (hb : allBlank b = true) (t : Text) :
    classify (firstLine (t ++ b)).1 = classify (firstLine t).1 := by
  obtain ⟨l, z, rfl, hl, hz⟩ := exists_firstLine t
  rcases hz with rfl | ⟨w, rfl⟩
  · -- the text is one line, which goes on into the blanks
    obtain ⟨k, y, rfl, hk, hy⟩ := exists_firstLine b
    have hkb : allBlank k = true := by
      rw [allBlank, List.all_append] at hb
      exact (Bool.and_eq_true_iff.mp hb).1
    have hlk : '\n' ∉ l ++ k := by simp [hl, hk]
    have hmarks := linewise_marks.append_blanks hkb l
    rw [marks_of_not_mem hlk, marks_of_not_mem hl] at hmarks
    rw [List.append_nil, ← List.append_assoc, firstLine_append hlk hy]
    conv_rhs => rw [← List.append_nil l, firstLine_append hl closesLine_nil]
    rw [← @Option.head?_toList _ (classify (l ++ k)), hmarks, Option.head?_toList]
  · rw [List.append_assoc, List.cons_append, firstLine_append_newline, firstLine_append_newline]

theorem classify_firstLine_trimEnd (t : Text) :
    classify (firstLine (trimEnd t)).1 = classify (firstLine t).1 := by
  obtain ⟨b, hb, ht⟩ := exists_trimEnd t
  conv_rhs => rw [ht]
  exact (classify_firstLine_append_blank hb _).symm

end Text

/-! ## Edits that keep a section -/

namespace SectionEdit

/-- What an edit puts in the place of the text of a section. -/
def middle : SectionEdit → Text → Text
  | add content .beginning, t =>
    (Text.firstLine t).1 ++ '\n' :: (Text.trim content ++ '\n' :: (Text.firstLine t).2)
  | add content .ending, t => Text.trimEnd t ++ '\n' :: Text.trim content
  | delete, _ => []
  | replace content, _ => content

theorem document_run (e : SectionEdit) (f : Frame) :
    (e.run f).document = f.before ++ e.middle f.middle ++ f.after := by
  cases e with
  | add content placement => cases placement <;> simp [run, Frame.add, Frame.rebuild, middle]
  | delete => simp [run, Frame.delete, Frame.rebuild, middle]
  | replace content => simp [run, Frame.replace, Frame.rebuild, middle]

/-! ### Additions

What is added stands behind the first line, so the section keeps its heading line, and what is read
off it stands around what is read off the content. -/

theorem classify_firstLine_middle_add (content : Text) (placement : Placement) (t : Text) :
    classify (Text.firstLine ((add content placement).middle t)).1 =
      classify (Text.firstLine t).1 := by
  cases placement with
  | beginning => rw [middle, Text.firstLine_firstLine_append]
  | ending => rw [middle, Text.firstLine_append_newline, Text.classify_firstLine_trimEnd]

theorem exists_read_middle_add {α : Type} {read : Text → α} {both : α → α → α}
    (hr : Text.Linewise read both) (content : Text) (placement : Placement) (t : Text) :
    ∃ x y, read t = both x y ∧
      read ((add content placement).middle t) = both x (both (read content) y) := by
  cases placement with
  | beginning => exact ⟨_, _, (hr.firstLine t).symm, hr.behindFirstLine t content⟩
  | ending =>
    refine ⟨_, _, (hr.nil_right t).symm, ?_⟩
    rw [middle, hr.behindLastLine, hr.nil_right]

theorem headings_middle_add {content : Text} (h : content.headings = []) (placement : Placement)
    (t : Text) : ((add content placement).middle t).headings = t.headings := by
  obtain ⟨x, y, ht, hm⟩ := exists_read_middle_add Text.linewise_headings content placement t
  rw [hm, h, ht, List.nil_append]

theorem hasFinish_middle_add {content : Text} (h : content.hasFinish = false)
    (placement : Placement) (t : Text) :
    ((add content placement).middle t).hasFinish = t.hasFinish := by
  obtain ⟨x, y, ht, hm⟩ := exists_read_middle_add Text.linewise_hasFinish content placement t
  rw [hm, h, ht, Bool.false_or]

/-! ### Edits after which the section is still there -/

/-- The edits that keep a section with some key: lines without a heading are added, or a section
with this key is written in its place. Neither brings a line that ends the document's own text. -/
inductive Keeps (key : Text) : SectionEdit → Prop where
  | add {content : Text} (placement : Placement) (headless : content.headings = [])
      (endless : content.hasFinish = false) : Keeps key (.add content placement)
  | replace {content : Text} {h : Heading}
      (headed : classify (Text.firstLine content).1 = some (.heading h)) (same : h.key = key)
      (alone : content.headings = [h]) (endless : content.hasFinish = false) :
      Keeps key (.replace content)

/-- Such an edit of a section gives a section with the same key. -/
theorem Keeps.exists_block {e : SectionEdit} {b : Block} (he : e.Keeps b.heading.key) :
    ∃ b' : Block, b'.text = e.middle b.text ∧ b'.heading.key = b.heading.key ∧
      (b.text.hasFinish = false → b'.text.hasFinish = false) := by
  cases he with
  | @add content placement headless endless =>
    have headed := (classify_firstLine_middle_add content placement b.text).trans b.headed
    have alone := (headings_middle_add headless placement b.text).trans b.alone
    exact ⟨⟨b.heading, _, headed, alone⟩, rfl, rfl,
      (hasFinish_middle_add endless placement b.text).trans⟩
  | replace headed same alone endless => exact ⟨⟨_, _, headed, alone⟩, rfl, same, fun _ => endless⟩

end SectionEdit

/-! ## One section exchanged -/

namespace Layout

/-- The layout with another section under a number. -/
def set (l : Layout) (i : Nat) (b : Block) : Layout := { l with blocks := l.blocks.set i b }

variable {l : Layout} {i j : Nat} {b b' : Block}

theorem set_comm (l : Layout) (b b' : Block) (h : i ≠ j) :
    (l.set i b).set j b' = (l.set j b').set i b := by
  simp only [set, List.set_comm b b' h]

theorem getElem?_set_self (hb : l.blocks[i]? = some b) (b' : Block) :
    (l.set i b').blocks[i]? = some b' :=
  List.getElem?_set_self (List.getElem?_eq_some_iff.mp hb).1

theorem getElem?_set_of_ne (h : i ≠ j) (hb : l.blocks[j]? = some b) (b' : Block) :
    (l.set i b').blocks[j]? = some b := by
  rw [set, List.getElem?_set_ne h, hb]

theorem set_set_self (hb : l.blocks[i]? = some b) (b' : Block) : (l.set i b').set i b = l := by
  obtain ⟨hlt, rfl⟩ := List.getElem?_eq_some_iff.mp hb
  simp only [set, List.set_set, List.set_getElem_self]

theorem before_set (l : Layout) (i : Nat) (b' : Block) : (l.set i b').before i = l.before i := by
  rw [before, set, List.take_set_of_le (Nat.le_refl i), before]

theorem after_set (l : Layout) (i : Nat) (b' : Block) : (l.set i b').after i = l.after i := by
  rw [after, set, List.drop_set_of_lt (Nat.lt_succ_self i), after]

/-- Only the text of the section itself changes. -/
theorem text_set (hb : l.blocks[i]? = some b) (b' : Block) :
    (l.set i b').text = l.before i ++ b'.text ++ l.after i := by
  rw [text_eq (getElem?_set_self hb b'), before_set, after_set]

theorem keys_set (hb : l.blocks[i]? = some b) (hkey : b'.heading.key = b.heading.key) :
    (l.set i b').keys = l.keys := by
  obtain ⟨hlt, hget⟩ := List.getElem?_eq_some_iff.mp hb
  have hlt : i < (l.blocks.map fun b => b.heading.key).length := by rwa [List.length_map]
  have hmap : (l.blocks.map fun b => b.heading.key)[i] = b.heading.key := by
    rw [List.getElem_map, hget]
  rw [keys, set, List.map_set, hkey, ← hmap, List.set_getElem_self, keys]

/-- Only the last section must not hold a line that ends the document's own text. -/
theorem Valid.set_of_last (hl : l.Valid) (hb : l.blocks[i]? = some b)
    (hend : l.blocks[i + 1]? = none → b'.text.hasFinish = false) : (l.set i b').Valid := by
  refine ⟨hl.lead, fun c hc => ?_, hl.trail⟩
  have hlt := (List.getElem?_eq_some_iff.mp hb).1
  have hlast := hl.last
  rw [Layout.set, List.getLast?_eq_getElem?, List.length_set] at hc
  rw [List.getLast?_eq_getElem?] at hlast
  by_cases hi : i = l.blocks.length - 1
  · rw [← hi, List.getElem?_set_self hlt] at hc
    cases hc
    exact hend (List.getElem?_eq_none (by omega))
  · rw [List.getElem?_set_ne hi] at hc
    exact hlast c hc

theorem Valid.set (hl : l.Valid) (hb : l.blocks[i]? = some b)
    (hend : b.text.hasFinish = false → b'.text.hasFinish = false) : (l.set i b').Valid :=
  hl.set_of_last hb fun hlast => hend (hl.last b (mem_getLast? hb hlast))

/-- An edit of a section that a name means is an update of the list of sections. -/
theorem run_onSection (hl : l.Valid) {name : Text} {tier : Tier}
    (hp : Tier.pick? l.keys name = some (i, tier)) (hb : l.blocks[i]? = some b) {e : SectionEdit}
    (hb' : b'.text = e.middle b.text) :
    ∃ x, ((NamedEdit.onSection name e).run l.text).2 = .edited x ∧ x.document = (l.set i b').text := by
  obtain ⟨s, hs⟩ := boundary?_text hl hp hb
  refine ⟨e.run (l.frame i b), ?_, ?_⟩
  · simp only [NamedEdit.run, hs]
  · rw [SectionEdit.document_run, text_set hb b', hb']
    rfl

end Layout

end TexSplice
