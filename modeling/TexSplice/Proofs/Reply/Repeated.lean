import TexSplice.Proofs.Outline.Written
import TexSplice.Proofs.Text.Linewise
import TexSplice.Proofs.Text.Nesting
import TexSplice.Reply.Basic

/-! # Content without a repeated heading

If the first line with anything on it opens with a heading command that repeats the heading of the
section, then what is left of the content is all that stands behind the closing brace of that
command, and nothing but that command and blanks is lost. That is the first closing brace. A title with
a group inside ends earlier than that: the rest of the title stays in the content, with a brace that
nothing opens. -/
namespace TexSplice.Reply
open Text

variable {h : Option Heading} {t : Text} {w : WrittenHeading}

/-! ## The repeated heading -/

/-- The heading command that opens the first of some lines with anything on it, if it repeats the
heading of a section. -/
def repeatedIn? (h : Option Heading) (ls : List Text) : Option WrittenHeading :=
  (ls.find? fun l => !allBlank l).bind fun l => (leadingHeading? l).filter fun w => repeats w h

def repeatedHeading? (t : Text) (h : Option Heading) : Option WrittenHeading :=
  repeatedIn? h (lines t)

theorem withoutHeading_blank_append {before : List Text} (hb : ∀ l ∈ before, allBlank l = true)
    (ls : List Text) : withoutHeading h (before ++ ls) = withoutHeading h ls := by
  induction before with
  | nil => rfl
  | cons l before ih =>
    obtain ⟨hl, hb⟩ := List.forall_mem_cons.mp hb
    rw [List.cons_append, withoutHeading, if_pos hl, ih hb]

theorem withoutHeading_cons_of_not_blank {l : Text} (hl : allBlank l = false) (ls : List Text) :
    withoutHeading h (l :: ls) = ((leadingHeading? l).filter fun w => repeats w h).map fun w =>
      if allBlank w.rest then ls else w.rest :: ls := by
  rw [withoutHeading, if_neg (Bool.eq_false_iff.mp hl)]
  cases leadingHeading? l with
  | none => rfl
  | some w =>
    rw [Option.bind_some, Option.filter_some]
    split <;> rfl

/-- It is decided on the first line with anything on it what is left of the lines. -/
theorem exists_withoutHeading_eq {ls : List Text} {l : Text}
    (hfind : (ls.find? fun l => !allBlank l) = some l) (h : Option Heading) :
    ∃ before after, ls = before ++ l :: after ∧ (∀ u ∈ before, allBlank u = true) ∧
      withoutHeading h ls = ((leadingHeading? l).filter fun w => repeats w h).map fun w =>
        if allBlank w.rest then after else w.rest :: after := by
  obtain ⟨hl, before, after, rfl, hb⟩ := List.find?_eq_some_iff_append.mp hfind
  have hblank : ∀ u ∈ before, allBlank u = true := by simpa using hb
  refine ⟨before, after, rfl, hblank, ?_⟩
  rw [withoutHeading_blank_append hblank, withoutHeading_cons_of_not_blank (by simpa using hl)]

theorem withoutHeading_eq_none {ls : List Text} (hr : repeatedIn? h ls = none) :
    withoutHeading h ls = none := by
  unfold repeatedIn? at hr
  cases hfind : ls.find? fun l => !allBlank l with
  | none =>
    have hblank : ∀ l ∈ ls, allBlank l = true := by simpa using hfind
    rw [← List.append_nil ls, withoutHeading_blank_append hblank, withoutHeading]
  | some l =>
    obtain ⟨before, after, _, _, heq⟩ := exists_withoutHeading_eq hfind h
    rw [hfind, Option.bind_some] at hr
    rw [heq, hr, Option.map_none]

theorem exists_withoutHeading {ls : List Text} (hr : repeatedIn? h ls = some w) :
    ∃ before l after, ls = before ++ l :: after ∧ (∀ u ∈ before, allBlank u = true) ∧
      leadingHeading? l = some w ∧
      withoutHeading h ls = some (if allBlank w.rest then after else w.rest :: after) := by
  obtain ⟨l, hfind, hw⟩ := Option.bind_eq_some_iff.mp hr
  obtain ⟨before, after, hls, hblank, heq⟩ := exists_withoutHeading_eq hfind h
  refine ⟨before, l, after, hls, hblank, (Option.filter_eq_some_iff.mp hw).1, ?_⟩
  rw [heq, hw, Option.map_some]

/-! ## What is left of the content -/

theorem trim_stripHeading (t : Text) (h : Option Heading) :
    trim (stripHeading t h) = stripHeading t h :=
  trim_trim _

theorem stripHeading_of_none (hr : repeatedHeading? t h = none) : stripHeading t h = trim t := by
  rw [stripHeading, withoutHeading_eq_none hr]
  rfl

theorem allBlank_blank_lines {ls : List Text} (hb : ∀ l ∈ ls, allBlank l = true) :
    allBlank (ls.flatMap fun l => l ++ ['\n']) = true := by
  rw [allBlank, List.all_flatMap, List.all_eq_true]
  intro l hl
  rw [List.all_append]
  exact Bool.and_eq_true_iff.mpr ⟨hb l hl, rfl⟩

theorem trim_unlines (ls : List Text) :
    trim (unlines ls) = trim (ls.flatMap fun u => '\n' :: u) := by
  cases ls with
  | nil => rfl
  | cons l ls =>
    rw [unlines_cons, List.flatMap_cons, List.cons_append, trim_cons_of_blank (by rfl)]

/-- **Content with a repeated heading consists of blanks, the heading command, and what is left
with blanks around it.** -/
theorem exists_stripHeading (hr : repeatedHeading? t h = some w) :
    ∃ before rest, t = before ++ w.command ++ '}' :: rest ∧ allBlank before = true ∧
      '}' ∉ w.title ∧ stripHeading t h = trim rest := by
  obtain ⟨before, l, after, hlines, hblank, hw, hwithout⟩ := exists_withoutHeading hr
  obtain ⟨indent, hindent, hl⟩ := exists_trimStart l
  obtain ⟨htext, hbrace⟩ := writtenHeading?_eq_some_iff.mp hw
  have ht : t = (before.flatMap fun u => u ++ ['\n']) ++ l ++ after.flatMap fun u => '\n' :: u := by
    rw [← unlines_append_cons, ← hlines, unlines_lines]
  refine ⟨(before.flatMap fun u => u ++ ['\n']) ++ indent,
    w.rest ++ after.flatMap fun u => '\n' :: u, ?_, ?_, hbrace, ?_⟩
  · rw [ht, hl, htext, WrittenHeading.text]
    simp only [List.append_assoc, List.cons_append]
  · rw [allBlank, List.all_append]
    exact Bool.and_eq_true_iff.mpr ⟨allBlank_blank_lines hblank, hindent⟩
  · rw [stripHeading, hwithout, Option.map_some, Option.getD_some]
    split
    · rename_i hrest
      rw [trim_blanks_append hrest, trim_unlines]
    · rw [unlines_cons]

/-! ## One heading and nothing else -/

/-- A text opens with a heading command that repeats the heading of a section, or with any if no
section is given: blank lines may come first, and on the next line blanks and then the command. -/
structure OpensWith (t : Text) (h : Option Heading) (w : WrittenHeading) : Prop where
  opens : ∃ before line after, lines t = before ++ line :: after ∧
    (∀ l ∈ before, allBlank l = true) ∧ allBlank line = false ∧ trimStart line = w.text
  brace : '}' ∉ w.title
  repeats : ∀ s, h = some s → w.level = s.level ∨ titleKey w.title = s.key

theorem repeats_iff :
    repeats w h = true ↔ ∀ s, h = some s → w.level = s.level ∨ titleKey w.title = s.key := by
  cases h with
  | none => exact iff_of_true rfl nofun
  | some s => simp [repeats]

theorem repeatedHeading?_eq_some_iff : repeatedHeading? t h = some w ↔ OpensWith t h w := by
  unfold repeatedHeading? repeatedIn?
  simp only [Option.bind_eq_some_iff, Option.filter_eq_some_iff, List.find?_eq_some_iff_append,
    leadingHeading?, writtenHeading?_eq_some_iff, repeats_iff, Bool.not_eq_true',
    Bool.not_eq_false']
  constructor
  · rintro ⟨line, ⟨hline, before, after, hlines, hbefore⟩, ⟨htext, hbrace⟩, hrepeats⟩
    exact ⟨⟨before, line, after, hlines, hbefore, hline, htext⟩, hbrace, hrepeats⟩
  · rintro ⟨⟨before, line, after, hlines, hbefore, hline, htext⟩, hbrace, hrepeats⟩
    exact ⟨line, ⟨hline, before, after, hlines, hbefore⟩, ⟨htext, hbrace⟩, hrepeats⟩

theorem OpensWith.newline_not_mem (hw : OpensWith t h w) : '\n' ∉ w.title := by
  obtain ⟨before, line, after, hlines, _, _, htext⟩ := hw.opens
  have hline : '\n' ∉ line := not_mem_of_mem_lines (t := t) (by rw [hlines]; simp)
  intro hmem
  obtain ⟨indent, _, hsplit⟩ := exists_trimStart line
  rw [hsplit, htext, WrittenHeading.text, WrittenHeading.command] at hline
  simp [hmem] at hline

/-- **One heading command is dropped at most, and nothing else.** The characters that are not blank are
those of the command, if one is dropped, and then those of what is left, which has no blank at its ends.
A command is dropped exactly if the text opens with one that repeats the heading of the section, and
then it is that one. -/
theorem drops_one_heading (t : Text) (h : Option Heading) : ∃ dropped : Text,
    (dropped = [] ∨ ∃ w : WrittenHeading,
      dropped = w.command ++ ['}'] ∧ '}' ∉ w.title ∧ '\n' ∉ w.title) ∧
    solid t = solid dropped ++ solid (stripHeading t h) ∧
    ((∀ c ∈ (stripHeading t h).head?, isBlank c = false) ∧
      ∀ c ∈ (stripHeading t h).getLast?, isBlank c = false) ∧
    (dropped ≠ [] ↔ ∃ w, OpensWith t h w) ∧
    ∀ w, OpensWith t h w → dropped = w.command ++ ['}'] := by
  have htrimmed := trim_eq_self_iff.mp (trim_stripHeading t h)
  simp only [← repeatedHeading?_eq_some_iff]
  cases hr : repeatedHeading? t h with
  | none =>
    refine ⟨[], .inl rfl, ?_, htrimmed, by simp, nofun⟩
    rw [stripHeading_of_none hr, linewise_solid.trim, solid_nil, List.nil_append]
  | some w =>
    obtain ⟨before, rest, rfl, hbefore, hbrace, hstrip⟩ := exists_stripHeading hr
    have hline := (repeatedHeading?_eq_some_iff.mp hr).newline_not_mem
    refine ⟨w.command ++ ['}'], .inr ⟨w, rfl, hbrace, hline⟩, ?_, htrimmed, by simp, ?_⟩
    · rw [hstrip, linewise_solid.trim, List.append_cons, solid_append, solid_append _ ['}'],
        linewise_solid.blanks_append hbefore, solid_append]
    · rintro v ⟨⟩
      rfl

-- Blank lines may come first, the title may be empty, and the rest of its line is kept.
example : stripHeading "\n \n \\section*\x7b\x7d Inline\nMore\n".toList none =
    "Inline\nMore".toList := by
  decide +kernel

/-! ## Braces -/

theorem count_command (w : WrittenHeading) : w.command.count '{' = w.title.count '{' + 1 := by
  have hname : w.level.name.count '{' = 0 :=
    List.count_eq_zero.mpr fun hmem => Bool.false_ne_true (Level.isLower_of_mem_name hmem)
  have hstar : (if w.starred then ['*'] else []).count '{' = 0 := by
    split <;> rfl
  simp [WrittenHeading.command, hname, hstar]

/-- **What is left of content whose braces nest has braces that nest exactly if no group opens
inside the title of the repeated heading.** -/
theorem stripped_text_nests_iff (ht : Nested t) :
    Nested (stripHeading t h) ↔ ∀ w, repeatedHeading? t h = some w → '{' ∉ w.title := by
  cases hr : repeatedHeading? t h with
  | none =>
    rw [stripHeading_of_none hr, nested_trim_iff]
    exact ⟨fun _ _ hw => (by cases hw), fun _ => ht⟩
  | some w =>
    obtain ⟨before, rest, rfl, hbefore, hbrace, hstrip⟩ := exists_stripHeading hr
    -- the groups that the title opens and does not close are closed by the rest
    have hrest : openAfter? (w.title.count '{') rest = some 0 := by
      have hcommand := WrittenHeading.not_mem_command hbrace (by decide) (by decide)
      have hcount := nested_iff.mp ht
      rw [openAfter?_append, openAfter?_append, openAfter?_of_allBlank hbefore, Option.bind_some,
        openAfter?_of_not_mem hcommand, Option.bind_some, count_command, Nat.zero_add,
        openAfter?_close] at hcount
      exact hcount
    rw [hstrip, nested_trim_iff]
    simp only [Option.some_inj, forall_eq']
    rw [← List.count_eq_zero]
    constructor
    · intro hn
      exact Option.some_inj.mp ((hn.openAfter? _).symm.trans hrest)
    · intro hzero
      rw [hzero] at hrest
      exact nested_iff.mpr hrest

theorem stripped_text_nests_below_heading :
    let t := "\\section\x7bResults\x7d\nWe \\emph\x7bmeasured\x7d.".toList
    Nested t ∧ (repeatedHeading? t none).map (·.title) = some "Results".toList ∧
      Nested (stripHeading t none) := by
  have ht : Nested "\\section\x7bResults\x7d\nWe \\emph\x7bmeasured\x7d.".toList := by
    decide +kernel
  have hr : (repeatedHeading? "\\section\x7bResults\x7d\nWe \\emph\x7bmeasured\x7d.".toList
      none).map (·.title) = some "Results".toList := by
    decide +kernel
  refine ⟨ht, hr, (stripped_text_nests_iff ht).mpr ?_⟩
  intro w hw
  rw [hw] at hr
  have htitle : w.title = "Results".toList := Option.some_inj.mp hr
  rw [htitle]
  decide

/-- The group inside the title is closed behind the heading command that was cut off before. -/
theorem rest_of_title_is_left :
    let t := "\\section\x7bThe \x7bnew\x7d part\x7d\nText.".toList
    Nested t ∧ stripHeading t none = "part\x7d\nText.".toList ∧
      ¬ Nested (stripHeading t none) := by
  decide +kernel

end TexSplice.Reply
