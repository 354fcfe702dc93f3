import TexSplice.Proofs.Target.Tiling

/-! # Documents laid out in sections

A document is what stands before its first heading, the texts of its sections with line feeds
between them, and what ends its own text. `Layout.ofText` takes a document apart like this and
`Layout.text` puts it together. Each undoes the other: a document is the text of its layout, and
what is put together of sections is taken apart into the SAME sections. So an edit that keeps
sections whole is an edit of a list, and what later outlines find can be read off that list. -/
namespace TexSplice

open Outline (ofText)

/-! ## Headings and ends of a text -/

namespace Mark

def heading? : Mark → Option Heading
  | heading h => some h
  | _ => none

def isFinish : Mark → Bool
  | finish _ => true
  | _ => false

end Mark

namespace Text

def headings (t : Text) : List Heading := t.marks.filterMap Mark.heading?

/-- Whether a line of a text ends the document's own text. -/
def hasFinish (t : Text) : Bool := t.marks.any Mark.isFinish

variable {t : Text}

theorem linewise_headings : Linewise headings (· ++ ·) :=
  linewise_marks.comp fun _ _ => List.filterMap_append

theorem linewise_hasFinish : Linewise hasFinish (· || ·) :=
  linewise_marks.comp (g := fun ms => ms.any Mark.isFinish) fun _ _ => List.any_append

theorem headings_eq (t : Text) : t.headings = (ofText t).sections.map Section.heading := by
  rw [headings, marks, Outline.marks, Outline.sections, List.filterMap_map, List.map_filterMap]
  refine List.filterMap_congr fun e _ => ?_
  cases hm : e.mark <;> simp [Element.section?, Mark.heading?, hm]

theorem hasFinish_eq_false_iff : t.hasFinish = false ↔ (ofText t).finishes = [] := by
  rw [hasFinish, marks, Outline.marks, Outline.finishes, List.any_map, List.any_eq_false,
    List.filter_eq_nil_iff]
  refine forall₂_congr fun e _ => ?_
  cases hm : e.mark <;> simp [Element.isFinish, Mark.isFinish, hm]

end Text

/-! ## Blocks -/

/-- The text of one section: the first line is its heading, and no other line is a heading. -/
@[ext] structure Block where
  heading : Heading
  text : Text
  headed : classify (Text.firstLine text).1 = some (.heading heading)
  alone : text.headings = [heading]

theorem Block.exists_section (b : Block) :
    ∃ s, (ofText b.text).sections = [s] ∧ s.heading = b.heading ∧ s.span.start = 0 := by
  obtain ⟨l, z, ht, hl, hz⟩ := Text.exists_firstLine b.text
  have hline : classify l = some (.heading b.heading) := by
    have hb := b.headed
    rwa [ht, Text.firstLine_append hl hz] at hb
  obtain ⟨rest, helements⟩ := Outline.exists_elements_cons hl hz hline
  rw [← ht] at helements
  -- the first element is the section of the heading line, and there is no other section
  have hcons : (ofText b.text).sections =
      ⟨b.heading, 0, Span.sized 0 l.length⟩ :: rest.filterMap Element.section? := by
    rw [Outline.sections, helements]
    rfl
  have halone := b.alone
  rw [Text.headings_eq, hcons, List.map_cons, List.cons_eq_cons, List.map_eq_nil_iff] at halone
  rw [hcons, halone.2]
  exact ⟨_, rfl, rfl, rfl⟩

/-- The text of a section is a block. -/
def Block.ofSection {t : Text} {s : Section} (hs : s ∈ (ofText t).sections) : Block where
  heading := s.heading
  text := ((ofText t).sectionSpan s).cut t
  headed := by
    obtain ⟨line, rest, hmiddle, hl, hz, hm⟩ := (Frame.holds_around [] hs).headed
    have hcut : ((ofText t).sectionSpan s).cut t = line ++ rest := hmiddle
    rwa [hcut, Text.firstLine_append hl hz]
  alone := by
    obtain ⟨u, hu, _, hheading⟩ := Outline.sections_middle_around [] hs
    have hcut : (ofText (((ofText t).sectionSpan s).cut t)).sections = [u] := hu
    rw [Text.headings_eq, hcut, List.map_singleton, hheading]

theorem Trail.closesLine {z : Text} (hz : Trail z) : Text.ClosesLine z := by
  obtain rfl | ⟨w, rfl, _⟩ := hz
  · exact Text.closesLine_nil
  · exact Text.closesLine_cons w

theorem Trail.headings {z : Text} (hz : Trail z) : z.headings = [] := by
  obtain rfl | ⟨w, rfl, hw, _⟩ := hz
  · rfl
  · rw [Text.linewise_headings.cons_newline, Text.headings_eq, hw, List.map_nil]

/-! ## Layouts -/

/-- A document in parts: what stands before its first heading, its sections, and what ends its own
text. -/
@[ext] structure Layout where
  lead : Text
  blocks : List Block
  trail : Text

namespace Layout

def text (l : Layout) : Text := l.lead ++ Text.unlines (l.blocks.map Block.text) ++ l.trail

def before (l : Layout) (i : Nat) : Text :=
  l.lead ++ (l.blocks.take i).flatMap fun b => b.text ++ ['\n']

def after (l : Layout) (i : Nat) : Text :=
  ((l.blocks.drop (i + 1)).flatMap fun b => '\n' :: b.text) ++ l.trail

def headings (l : Layout) : List Heading := l.blocks.map Block.heading

/-- The document in its parts: no heading stands before the first section, the last one does not go
past the end of the document's own text, and none stands behind that. -/
structure Valid (l : Layout) : Prop where
  lead : Lead l.lead
  last : ∀ b ∈ l.blocks.getLast?, b.text.hasFinish = false
  trail : Trail l.trail

variable {l : Layout} {i : Nat} {b : Block}

theorem blocks_eq (hb : l.blocks[i]? = some b) :
    l.blocks = l.blocks.take i ++ b :: l.blocks.drop (i + 1) := by
  obtain ⟨hlt, hget⟩ := List.getElem?_eq_some_iff.mp hb
  rw [← hget, ← List.drop_eq_getElem_cons hlt, List.take_append_drop]

/-- A document around one of its sections. -/
theorem text_eq (hb : l.blocks[i]? = some b) : l.text = l.before i ++ b.text ++ l.after i := by
  rw [text, before, after, blocks_eq hb, List.map_append, List.map_cons, Text.unlines_append_cons,
    List.flatMap_map, List.flatMap_map, ← blocks_eq hb]
  simp only [List.append_assoc]

theorem opensLine_before (hl : l.Valid) (i : Nat) : Text.OpensLine (l.before i) := by
  refine hl.lead.opens.append ?_
  induction l.blocks.take i with
  | nil => exact Text.opensLine_nil
  | cons b bs ih =>
    rw [List.flatMap_cons]
    exact (Text.opensLine_concat _).append ih

theorem closesLine_after (hl : l.Valid) (i : Nat) : Text.ClosesLine (l.after i) := by
  rw [after]
  cases l.blocks.drop (i + 1) with
  | nil => exact hl.trail.closesLine
  | cons b bs => exact Text.closesLine_cons _

/-! ## The sections of a layout's text -/

theorem headings_before (hl : l.Valid) (i : Nat) :
    (l.before i).headings = (l.blocks.take i).map Block.heading := by
  have hlead : l.lead.headings = [] := by rw [Text.headings_eq, hl.lead.sections, List.map_nil]
  rw [before, Text.linewise_headings.append_of_opensLine hl.lead.opens, hlead,
    List.nil_append]
  induction l.blocks.take i with
  | nil => rfl
  | cons b bs ih =>
    have hb : (b.text ++ ['\n']).headings = [b.heading] := by
      rw [Text.linewise_headings.append_blanks rfl, b.alone]
    rw [List.flatMap_cons, Text.linewise_headings.append_of_opensLine (Text.opensLine_concat _), hb,
      ih]
    rfl

theorem headings_text (hl : l.Valid) :
    l.headings = (ofText l.text).sections.map Section.heading := by
  have hlead : l.lead.headings = [] := by rw [Text.headings_eq, hl.lead.sections, List.map_nil]
  rw [← Text.headings_eq, text,
    Text.linewise_headings.append_of_closesLine _ hl.trail.closesLine,
    Text.linewise_headings.append_of_opensLine hl.lead.opens, hlead, hl.trail.headings,
    List.nil_append, List.append_nil, headings]
  induction l.blocks with
  | nil => rfl
  | cons b bs ih =>
    cases bs with
    | nil => rw [List.map_singleton, List.map_singleton, Text.unlines_singleton, b.alone]
    | cons c bs =>
      have hsplit : Text.unlines ((b :: c :: bs).map Block.text) =
          b.text ++ '\n' :: Text.unlines ((c :: bs).map Block.text) := Text.unlines_cons_cons ..
      rw [hsplit, Text.linewise_headings.append_newline, b.alone, ← ih]
      rfl

theorem length_sections_before (hl : l.Valid) (hb : l.blocks[i]? = some b) :
    (ofText (l.before i)).sections.length = i := by
  have hlt : i < l.blocks.length := (List.getElem?_eq_some_iff.mp hb).1
  have h := congrArg List.length (headings_before hl i)
  rw [Text.headings_eq, List.length_map, List.length_map, List.length_take] at h
  omega

theorem sections_trail {z : Text} (hz : Trail z) : (ofText (z.drop 1)).sections = [] := by
  obtain rfl | ⟨w, rfl, hw, _⟩ := hz
  · rfl
  · exact hw

theorem after_eq_cons {next : Block} (hn : l.blocks[i + 1]? = some next) :
    l.after i = '\n' :: (next.text ++ l.after (i + 1)) := by
  obtain ⟨hlt, hget⟩ := List.getElem?_eq_some_iff.mp hn
  rw [after, List.drop_eq_getElem_cons hlt, hget, List.flatMap_cons, after]
  simp only [List.cons_append, List.append_assoc]

theorem after_eq_trail (hn : l.blocks[i + 1]? = none) : l.after i = l.trail := by
  rw [after, List.drop_eq_nil_of_le (List.getElem?_eq_none_iff.mp hn)]
  rfl

/-- The section with a number, in the outline of the document: it starts behind what stands before
it, and the next one, if there is one, behind its text and the line feed. -/
theorem exists_sections_split (hl : l.Valid) (hb : l.blocks[i]? = some b) :
    ∃ s rest, (ofText l.text).sections = (ofText (l.before i)).sections ++ s :: rest ∧
      s.heading = b.heading ∧ s.span.start = (l.before i).length ∧
      match l.blocks[i + 1]? with
      | some _ => ∃ next more, rest = next :: more ∧
          next.span.start = (l.before i).length + b.text.length + 1
      | none => rest = [] := by
  obtain ⟨u, hu, hheading, hstart⟩ := b.exists_section
  obtain ⟨n, hn⟩ := Outline.sections_append_of_closesLine b.text (closesLine_after hl i)
  obtain ⟨k, hk⟩ := Outline.sections_append_of_opensLine (opensLine_before hl i)
    (b.text ++ l.after i)
  rw [← List.append_assoc, ← text_eq hb, hn, hu, List.singleton_append, List.map_cons] at hk
  refine ⟨_, _, hk, hheading, by simp [Section.shifted, Span.shifted, hstart], ?_⟩
  cases hnext : l.blocks[i + 1]? with
  | none =>
    rw [after_eq_trail hnext, sections_trail hl.trail]
    rfl
  | some next =>
    obtain ⟨v, hv, _, hvstart⟩ := next.exists_section
    obtain ⟨j, hj⟩ := Outline.sections_append_of_closesLine next.text (closesLine_after hl (i + 1))
    rw [after_eq_cons hnext, List.drop_succ_cons, List.drop_zero, hj, hv, List.singleton_append]
    refine ⟨_, _, rfl, ?_⟩
    simp only [Section.shifted, Span.shifted, hvstart]
    omega

theorem mem_getLast? (hb : l.blocks[i]? = some b) (hlast : l.blocks[i + 1]? = none) :
    b ∈ l.blocks.getLast? := by
  have hlt := (List.getElem?_eq_some_iff.mp hb).1
  have hle := List.getElem?_eq_none_iff.mp hlast
  have hi : l.blocks.length - 1 = i := by omega
  rw [List.getLast?_eq_getElem?, hi, hb]
  rfl

/-- Nothing in the last section ends the document's own text, so the first line behind its heading
that does so stands behind all of it. -/
theorem lt_start_of_finish (hl : l.Valid) (hb : l.blocks[i]? = some b)
    (hlast : l.blocks[i + 1]? = none) {e : Element} (he : e ∈ (ofText l.text).finishes)
    (hlt : (l.before i).length < e.span.start) :
    (l.before i).length + b.text.length < e.span.start := by
  obtain ⟨hmem, hfinish⟩ := Outline.mem_finishes.mp he
  rw [text_eq hb] at hmem
  rcases Outline.mem_elements_parts (opensLine_before hl i) (closesLine_after hl i) hmem with
    h | ⟨f, hf, n, rfl⟩ | h
  · have := e.span.start_le_stop
    omega
  · have hnone := Text.hasFinish_eq_false_iff.mp (hl.last b (mem_getLast? hb hlast))
    have hfmem : f ∈ (ofText b.text).finishes := Outline.mem_finishes.mpr ⟨hf, hfinish⟩
    rw [hnone] at hfmem
    cases hfmem
  · exact h

/-- The last section goes on up to a line that ends the document's own text, or to the end. -/
theorem sectionStop_last (hl : l.Valid) (hb : l.blocks[i]? = some b)
    (hlast : l.blocks[i + 1]? = none) {s : Section} {front : List Section}
    (hsections : (ofText l.text).sections = front ++ [s])
    (hstart : s.span.start = (l.before i).length) :
    (ofText l.text).sectionStop s = (l.before i).length + b.text.length := by
  have hs : s ∈ (ofText l.text).sections := by simp [hsections]
  have hnone : (ofText l.text).nextSection? s = none := Outline.nextSection?_eq hsections
  have htext := text_eq hb
  rw [after_eq_trail hlast] at htext
  refine Nat.le_antisymm ?_ ?_
  · rw [htext] at hs ⊢
    simpa using hl.trail.sectionStop_le hs
  · unfold Outline.sectionStop
    rw [hnone]
    refine Nat.le_trans ?_ (Nat.le_max_left ..)
    cases hf : (ofText l.text).finishAfter? s.span.start with
    | none =>
      change _ ≤ l.text.length
      simp [htext]
    | some e =>
      obtain ⟨hmem, hlt⟩ := Outline.finishAfter?_eq_some hf
      have := lt_start_of_finish hl hb hlast hmem (by rw [← hstart]; exact Int.ofNat_lt.mp hlt)
      change _ ≤ e.span.start - 1
      omega

/-- The outline of a layout's text finds the layout's sections where they were put. -/
theorem exists_section (hl : l.Valid) (hb : l.blocks[i]? = some b) :
    ∃ s, (ofText l.text).sections[i]? = some s ∧ s.heading = b.heading ∧
      (ofText l.text).sectionSpan s = Span.sized (l.before i).length b.text.length := by
  obtain ⟨s, rest, hsections, hheading, hstart, hrest⟩ := exists_sections_split hl hb
  refine ⟨s, ?_, hheading, ?_⟩
  · rw [hsections, List.getElem?_append_right (length_sections_before hl hb).le,
      length_sections_before hl hb, Nat.sub_self, List.getElem?_cons_zero]
  have hstop : (ofText l.text).sectionStop s = (l.before i).length + b.text.length := by
    cases hnext : l.blocks[i + 1]? with
    | some next =>
      rw [hnext] at hrest
      obtain ⟨next, more, rfl, hn⟩ := hrest
      have := Outline.sectionStop_of_next hsections
      omega
    | none =>
      rw [hnext] at hrest
      subst hrest
      exact sectionStop_last hl hb hnext hsections hstart
  simp only [Outline.sectionSpan, Span.sized, hstart, hstop]

/-! ## The layout of a document -/

/-- A document taken apart. Without a section all of it is the lead. -/
def ofDocument (t : Text) : Layout where
  lead := t.take (((ofText t).sections.head?.map fun s => s.span.start).getD t.length)
  blocks := (ofText t).sections.attach.map fun s => Block.ofSection s.2
  trail := t.drop (((ofText t).sections.getLast?.map (ofText t).sectionStop).getD t.length)

variable {t : Text}

theorem blocks_text_ofDocument (t : Text) :
    (ofDocument t).blocks.map Block.text =
      (ofText t).sections.map fun s => ((ofText t).sectionSpan s).cut t := by
  rw [ofDocument, List.map_map]
  exact List.attach_map_val (f := fun s => ((ofText t).sectionSpan s).cut t)

theorem headings_ofDocument (t : Text) :
    (ofDocument t).headings = (ofText t).sections.map Section.heading := by
  rw [headings, ofDocument, List.map_map]
  exact List.attach_map_val (f := Section.heading)

theorem text_ofDocument (t : Text) : (ofDocument t).text = t := by
  rw [text, blocks_text_ofDocument]
  rcases hsections : (ofText t).sections with _ | ⟨first, rest⟩
  · simp [ofDocument, hsections, Text.unlines, Text.join]
  · obtain ⟨last, hlast⟩ : ∃ last, (first :: rest).getLast? = some last :=
      ⟨_, List.getLast?_eq_some_getLast (List.cons_ne_nil first rest)⟩
    have hsplit : (ofText t).sections = [] ++ first :: rest := hsections
    have hdrop := Outline.drop_start_eq (hsections ▸ hlast) hsplit
    simp only [ofDocument, hsections, hlast, List.head?_cons, Option.map_some, Option.getD_some,
      List.append_assoc]
    rw [← hdrop, List.take_append_drop]

theorem valid_ofDocument (h : (ofText t).sections ≠ []) : (ofDocument t).Valid := by
  obtain ⟨first, rest, hfirst⟩ := List.exists_cons_of_ne_nil h
  obtain ⟨front, last, hlast⟩ := List.eq_nil_or_concat' _ |>.resolve_left h
  have hget : (ofText t).sections.getLast? = some last := by rw [hlast, List.getLast?_concat]
  have hmem : first ∈ (ofText t).sections := hfirst ▸ List.mem_cons_self
  refine ⟨?_, ?_, ?_⟩
  · simp only [ofDocument, hfirst, List.head?_cons, Option.map_some, Option.getD_some]
    exact Lead.take_element (Outline.mem_sections.mp hmem) fun u hu =>
      Outline.start_le_of_sections_cons hfirst hu
  · intro b hb
    have htext := congrArg List.getLast? (blocks_text_ofDocument t)
    have hb : (ofDocument t).blocks.getLast? = some b := hb
    rw [List.getLast?_map, List.getLast?_map, hget, hb, Option.map_some, Option.map_some] at htext
    rw [Option.some_inj.mp htext]
    exact Text.hasFinish_eq_false_iff.mpr (Outline.finishes_middle_around [] hlast)
  · simp only [ofDocument, hget, Option.map_some, Option.getD_some]
    exact Trail.drop_sectionStop hlast

end Layout

end TexSplice
