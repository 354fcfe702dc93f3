import TexSplice.Proofs.Outline.Marks
import TexSplice.Proofs.Text.Cut

/-! # The grammar of structural lines

A line with a mark is written in one of four forms, and each rule accepts exactly the texts of its own
form. No text has two forms, or one form in two ways: the first characters tell the forms apart, but
for the two that begin with `\end`, and there the name of the environment does. So what mark a line
gets is told without the rules and their order. -/
namespace TexSplice

/-! ## Parts of a command -/

theorem braced?_eq_some_iff {t group rest : Text} :
    braced? t = some (group, rest) ↔ t = '{' :: group ++ '}' :: rest ∧ '}' ∉ group := by
  unfold braced?
  split
  · rename_i u
    rw [Text.cut?_singleton_eq_some_iff, List.cons_append, List.cons_inj_right]
  · rename_i hne
    refine ⟨fun h => (by cases h), ?_⟩
    rintro ⟨rfl, _⟩
    exact absurd rfl (hne _)

/-- A search that can find one thing only finds it. -/
theorem findSome?_eq_some {α β : Type} {f : α → Option β} {xs : List α} {x : α} {y : β}
    (hx : x ∈ xs) (hy : f x = some y) (hone : ∀ x' y', f x' = some y' → y' = y) :
    xs.findSome? f = some y := by
  cases hfind : xs.findSome? f with
  | none =>
    have hnone := List.findSome?_eq_none_iff.mp hfind x hx
    rw [hy] at hnone
    cases hnone
  | some y' =>
    obtain ⟨x', _, hy'⟩ := List.exists_of_findSome?_eq_some hfind
    rw [hone x' y' hy']

/-! ## Heading commands -/

namespace WrittenHeading

def command (w : WrittenHeading) : Text :=
  '\\' :: w.level.name ++ (if w.starred then ['*'] else []) ++ '{' :: w.title

/-- A heading command with what follows it. -/
def text (w : WrittenHeading) : Text := w.command ++ '}' :: w.rest

def heading (w : WrittenHeading) : Heading :=
  ⟨w.level, Text.trim w.title, titleKey w.title, w.starred⟩

end WrittenHeading

theorem star_append (t : Text) : (if (star t).1 then ['*'] else []) ++ (star t).2 = t := by
  unfold star
  split <;> rfl

theorem star_of_group (starred : Bool) (t : Text) :
    star ((if starred then ['*'] else []) ++ '{' :: t) = (starred, '{' :: t) := by
  cases starred <;> rfl

theorem headingOf?_eq_some_iff {t : Text} {level : Level} {w : WrittenHeading} :
    headingOf? t level = some w ↔ w.level = level ∧ '\\' :: t = w.text ∧ '}' ∉ w.title := by
  constructor
  · intro h
    obtain ⟨u, hname, h⟩ := Option.bind_eq_some_iff.mp h
    obtain ⟨starred, v, hstar⟩ : ∃ starred v, star u = (starred, v) := ⟨_, _, rfl⟩
    have hu := star_append u
    simp only [hstar] at h hu
    obtain ⟨⟨title, rest⟩, hgroup, h⟩ := Option.bind_eq_some_iff.mp h
    obtain ⟨hv, htitle⟩ := braced?_eq_some_iff.mp hgroup
    cases h
    refine ⟨rfl, ?_, htitle⟩
    rw [Text.after?_eq_some_iff.mp hname, ← hu, hv, WrittenHeading.text, WrittenHeading.command]
    simp only [List.cons_append, List.append_assoc]
  · rintro ⟨rfl, ht, htitle⟩
    have hname : Text.after? w.level.name t =
        some ((if w.starred then ['*'] else []) ++ '{' :: (w.title ++ '}' :: w.rest)) := by
      rw [Text.after?_eq_some_iff]
      simpa [WrittenHeading.text, WrittenHeading.command] using ht
    have hgroup : braced? ('{' :: (w.title ++ '}' :: w.rest)) = some (w.title, w.rest) :=
      braced?_eq_some_iff.mpr ⟨rfl, htitle⟩
    simp only [headingOf?, bind, hname, Option.bind_some, star_of_group, hgroup]

theorem Level.isLower_of_mem_name {level : Level} {c : Char} (h : c ∈ level.name) :
    c.isLower = true := by
  have hall : level.name.all Char.isLower = true := by cases level <;> rfl
  exact List.all_eq_true.mp hall c h

/-- The name of the level is all the small letters behind the backslash. -/
theorem WrittenHeading.takeWhile_text (w : WrittenHeading) :
    (w.text.drop 1).takeWhile Char.isLower = w.level.name := by
  have hname : ∀ c ∈ w.level.name, c.isLower = true := fun c => Level.isLower_of_mem_name
  simp only [text, command, List.cons_append, List.append_assoc, List.drop_succ_cons,
    List.drop_zero]
  rw [List.takeWhile_append_of_pos hname]
  cases w.starred <;> simp

theorem Level.name_injective {a b : Level} (h : a.name = b.name) : a = b := by
  revert h
  cases a <;> cases b <;> decide

/-- A heading command is written in one way only. -/
theorem WrittenHeading.text_injective {v w : WrittenHeading} (h : v.text = w.text)
    (hv : '}' ∉ v.title) (hw : '}' ∉ w.title) : v = w := by
  have hlevel : v.level = w.level := Level.name_injective (by
    rw [← v.takeWhile_text, h, w.takeWhile_text])
  obtain ⟨t, ht⟩ : ∃ t, w.text = '\\' :: t := ⟨_, rfl⟩
  have hread : headingOf? t w.level = some w := headingOf?_eq_some_iff.mpr ⟨rfl, ht.symm, hw⟩
  have hread' : headingOf? t w.level = some v :=
    headingOf?_eq_some_iff.mpr ⟨hlevel, (h.trans ht).symm, hv⟩
  exact Option.some_inj.mp (hread'.symm.trans hread)

/-- **Reading a heading command accepts exactly what writing one produces.** -/
theorem writtenHeading?_eq_some_iff {t : Text} {w : WrittenHeading} :
    writtenHeading? t = some w ↔ t = w.text ∧ '}' ∉ w.title := by
  unfold writtenHeading?
  constructor
  · intro h
    obtain ⟨u, hu, h⟩ := Option.bind_eq_some_iff.mp h
    obtain ⟨level, _, h⟩ := List.exists_of_findSome?_eq_some h
    obtain ⟨_, htext, htitle⟩ := headingOf?_eq_some_iff.mp h
    rw [Text.after?_eq_some_iff.mp hu]
    exact ⟨htext, htitle⟩
  · rintro ⟨ht, htitle⟩
    obtain ⟨u, hu⟩ : ∃ u, w.text = '\\' :: u := ⟨_, rfl⟩
    have hafter : Text.after? ['\\'] ('\\' :: u) = some u := Text.after?_eq_some_iff.mpr rfl
    have hlevel : w.level ∈ Level.all := by cases w.level <;> decide
    rw [ht, hu, hafter, Option.bind_some]
    refine findSome?_eq_some hlevel (headingOf?_eq_some_iff.mpr ⟨rfl, hu.symm, htitle⟩) ?_
    intro level v hv
    obtain ⟨_, hvu, hvtitle⟩ := headingOf?_eq_some_iff.mp hv
    exact WrittenHeading.text_injective (hvu.symm.trans hu.symm) hvtitle htitle

/-! ## Arguments -/

/-- A command with its argument in braces, and what follows it. -/
def withArgument (command name rest : Text) : Text := command ++ '{' :: name ++ '}' :: rest

theorem argument?_eq_some_iff {command t name rest : Text} :
    argument? command t = some (name, rest) ↔ t = withArgument command name rest ∧ '}' ∉ name := by
  unfold argument? withArgument
  rw [Option.bind_eq_some_iff]
  constructor
  · rintro ⟨u, hu, hgroup⟩
    obtain ⟨rfl, hname⟩ := braced?_eq_some_iff.mp hgroup
    exact ⟨by rw [Text.after?_eq_some_iff.mp hu]; simp, hname⟩
  · rintro ⟨rfl, hname⟩
    exact ⟨'{' :: name ++ '}' :: rest, Text.after?_eq_some_iff.mpr (by simp),
      braced?_eq_some_iff.mpr ⟨rfl, hname⟩⟩

theorem argument?_withArgument {name : Text} (h : '}' ∉ name) (command rest : Text) :
    argument? command (withArgument command name rest) = some (name, rest) :=
  argument?_eq_some_iff.mpr ⟨rfl, h⟩

/-- An argument without a closing brace is written in one way only. -/
theorem withArgument_inj {command name rest name' rest' : Text} (hname : '}' ∉ name)
    (hname' : '}' ∉ name') (h : withArgument command name rest = withArgument command name' rest') :
    name = name' ∧ rest = rest' := by
  have hread := argument?_withArgument hname command rest
  rw [h, argument?_withArgument hname', Option.some_inj, Prod.mk.injEq] at hread
  exact ⟨hread.1.symm, hread.2.symm⟩

/-! ## Forms -/

/-- A structural line as it is written, with what follows its command. -/
inductive WrittenMark where
  | heading (w : WrittenHeading)
  | opening (name rest : Text)
  | closing (name rest : Text)
  | finish (command rest : Text)
deriving Repr, DecidableEq

def Mark.rule : Mark → Rule
  | heading _ => .heading
  | opening _ => .opening
  | closing _ => .closing
  | finish _ => .finish

namespace WrittenMark

def text : WrittenMark → Text
  | heading w => w.text
  | opening name rest => withArgument "\\begin".toList name rest
  | closing name rest => withArgument "\\end".toList name rest
  | finish command rest => command ++ rest

/-- What a form asks of its parts. A group is not empty and ends at its first closing brace, and the
document is no environment that closes: where it ends is a finish. -/
def IsProper : WrittenMark → Prop
  | heading w => w.title ≠ [] ∧ '}' ∉ w.title
  | opening name _ => name ≠ [] ∧ '}' ∉ name
  | closing name _ => name ≠ [] ∧ '}' ∉ name ∧ Text.trim name ≠ documentName
  | finish command _ => command ∈ finishCommands

def mark : WrittenMark → Mark
  | heading w => .heading w.heading
  | opening name _ => .opening name
  | closing name _ => .closing name
  | finish command rest => .finish (command ++ rest)

/-! ### What a rule accepts -/

theorem mark?_text {w : WrittenMark} (h : w.IsProper) : w.mark.rule.mark? w.text = some w.mark := by
  cases w with
  | heading w =>
    obtain ⟨htitle, hbrace⟩ := h
    have hread : writtenHeading? w.text = some w := writtenHeading?_eq_some_iff.mpr ⟨rfl, hbrace⟩
    refine Option.bind_eq_some_iff.mpr ⟨w, hread, if_neg ?_⟩
    rwa [List.isEmpty_iff]
  | opening name rest =>
    obtain ⟨hname, hbrace⟩ := h
    simp only [mark, Mark.rule, Rule.mark?, text, argument?_withArgument hbrace, Option.bind_some,
      List.isEmpty_eq_false_iff.mpr hname, Bool.false_eq_true, if_false]
  | closing name rest =>
    obtain ⟨hname, hbrace, hdocument⟩ := h
    have hdocument : (Text.trim name == documentName) = false := beq_eq_false_iff_ne.mpr hdocument
    simp only [mark, Mark.rule, Rule.mark?, text, argument?_withArgument hbrace, Option.bind_some,
      hdocument, Bool.or_false, List.isEmpty_eq_false_iff.mpr hname, Bool.false_eq_true, if_false]
  | finish command rest =>
    have hstarts : Text.startsWithAny (command ++ rest) finishCommands = true :=
      List.any_eq_true.mpr ⟨command, h, List.isPrefixOf_iff_prefix.mpr (List.prefix_append ..)⟩
    simp only [mark, Mark.rule, Rule.mark?, text, hstarts, if_true]

end WrittenMark

/-- A rule accepts its own form only. -/
theorem exists_of_mark? {r : Rule} {t : Text} {m : Mark} (h : r.mark? t = some m) :
    m.rule = r ∧ ∃ w : WrittenMark, w.IsProper ∧ w.text = t ∧ w.mark = m := by
  cases r with
  | heading =>
    obtain ⟨w, hw, hmark⟩ := Option.bind_eq_some_iff.mp h
    obtain ⟨rfl, hbrace⟩ := writtenHeading?_eq_some_iff.mp hw
    split at hmark
    · cases hmark
    · rename_i htitle
      cases hmark
      exact ⟨rfl, .heading w, ⟨mt List.isEmpty_iff.mpr htitle, hbrace⟩, rfl, rfl⟩
  | opening =>
    obtain ⟨⟨name, rest⟩, hread, hmark⟩ := Option.bind_eq_some_iff.mp h
    obtain ⟨rfl, hbrace⟩ := argument?_eq_some_iff.mp hread
    dsimp only at hmark
    split at hmark
    · cases hmark
    · rename_i hname
      cases hmark
      exact ⟨rfl, .opening name rest, ⟨mt List.isEmpty_iff.mpr hname, hbrace⟩, rfl, rfl⟩
  | closing =>
    obtain ⟨⟨name, rest⟩, hread, hmark⟩ := Option.bind_eq_some_iff.mp h
    obtain ⟨rfl, hbrace⟩ := argument?_eq_some_iff.mp hread
    dsimp only at hmark
    split at hmark
    · cases hmark
    · rename_i hname
      rw [Bool.or_eq_true, not_or, beq_iff_eq] at hname
      cases hmark
      exact ⟨rfl, .closing name rest, ⟨mt List.isEmpty_iff.mpr hname.1, hbrace, hname.2⟩, rfl, rfl⟩
  | finish =>
    rw [Rule.mark?] at h
    split at h
    · rename_i hstarts
      obtain ⟨command, hmem, hcommand⟩ := List.any_eq_true.mp hstarts
      obtain ⟨rest, rfl⟩ := List.isPrefixOf_iff_prefix.mp hcommand
      cases h
      exact ⟨rfl, .finish command rest, hmem, rfl, rfl⟩
    · cases h

/-! ### Forms are distinct -/

/-- The first characters by which a rule is told. -/
def Rule.leads : Rule → List Text
  | heading => ["\\ch".toList, "\\se".toList, "\\su".toList, "\\pa".toList]
  | opening => ["\\be".toList]
  | closing => ["\\en".toList]
  | finish => ["\\bi".toList, "\\pr".toList, "\\en".toList]

namespace WrittenMark

theorem take_text_mem_leads {w : WrittenMark} (h : w.IsProper) :
    w.text.take 3 ∈ w.mark.rule.leads := by
  cases w with
  | heading w =>
    obtain ⟨level, starred, title, rest⟩ := w
    cases level <;> exact List.mem_of_elem_eq_true rfl
  | opening name rest => exact List.mem_of_elem_eq_true rfl
  | closing name rest => exact List.mem_of_elem_eq_true rfl
  | finish command rest =>
    simp only [IsProper, finishCommands, List.mem_cons, List.not_mem_nil, or_false] at h
    rcases h with rfl | rfl | rfl <;> exact List.mem_of_elem_eq_true rfl

theorem closing_text_ne_finish {name rest command more : Text}
    (hbrace : '}' ∉ name) (hdocument : Text.trim name ≠ documentName)
    (hcommand : command ∈ finishCommands) :
    (closing name rest).text ≠ (finish command more).text := by
  intro h
  simp only [finishCommands, List.mem_cons, List.not_mem_nil, or_false] at hcommand
  rcases hcommand with rfl | rfl | rfl
  · cases h
  · cases h
  · -- the group would be the document's name
    have hname : '}' ∉ documentName := by decide
    obtain ⟨rfl, _⟩ := withArgument_inj hbrace hname h
    exact hdocument rfl

variable {v w : WrittenMark}

theorem rule_eq_of_text_eq (hv : v.IsProper) (hw : w.IsProper) (h : v.text = w.text) :
    v.mark.rule = w.mark.rule := by
  have hleads (r s : Rule) : (∀ x ∈ r.leads, x ∉ s.leads) ∨ r = s ∨
      r = .closing ∧ s = .finish ∨ r = .finish ∧ s = .closing := by
    cases r <;> cases s <;> decide
  have hlead := take_text_mem_leads hv
  rcases hleads v.mark.rule w.mark.rule with hdistinct | hsame | ⟨hr, hs⟩ | ⟨hr, hs⟩
  · rw [h] at hlead
    exact absurd (take_text_mem_leads hw) (hdistinct _ hlead)
  · exact hsame
  · cases v <;> cases w <;> cases hr <;> cases hs
    exact absurd h (closing_text_ne_finish hv.2.1 hv.2.2 hw)
  · cases v <;> cases w <;> cases hr <;> cases hs
    exact absurd h.symm (closing_text_ne_finish hw.2.1 hw.2.2 hv)

/-- **A structural line is written in one way only.** -/
theorem text_injective (hv : v.IsProper) (hw : w.IsProper) (h : v.text = w.text) : v = w := by
  have hrule := rule_eq_of_text_eq hv hw h
  cases v with
  | heading v =>
    cases w with
    | heading w => rw [WrittenHeading.text_injective h hv.2 hw.2]
    | opening | closing | finish => cases hrule
  | opening name rest =>
    cases w with
    | opening name' rest' =>
      obtain ⟨rfl, rfl⟩ := withArgument_inj hv.2 hw.2 h
      rfl
    | heading | closing | finish => cases hrule
  | closing name rest =>
    cases w with
    | closing name' rest' =>
      obtain ⟨rfl, rfl⟩ := withArgument_inj hv.2.1 hw.2.1 h
      rfl
    | heading | opening | finish => cases hrule
  | finish command rest =>
    cases w with
    | finish command' rest' =>
      have halone : ∀ c ∈ finishCommands, ∀ d ∈ finishCommands, c <+: d → c = d := by decide
      have hcommand : command = command' := by
        have hbegins : command <+: command' ++ rest' := ⟨rest, h⟩
        rcases List.prefix_or_prefix_of_prefix hbegins (List.prefix_append ..) with hc | hc
        · exact halone _ hv _ hw hc
        · exact (halone _ hw _ hv hc).symm
      subst hcommand
      rw [List.append_cancel_left h]
    | heading | opening | closing => cases hrule

theorem head?_text (h : w.IsProper) : w.text.head? = some '\\' := by
  cases w with
  | heading | opening | closing => rfl
  | finish command rest =>
    have hhead : ∀ c ∈ finishCommands, c.head? = some '\\' := by decide
    rw [text, List.head?_append, hhead command h, Option.some_or]

end WrittenMark

/-! ## Lines -/

/-- A line gets a mark by some rules if, trimmed, it has the form of the mark and that rule is one of
them. In which order they are tried does not matter. -/
theorem classifyBy_eq_some_iff {rules : List Rule} {l : Text} {m : Mark} :
    classifyBy rules l = some m ↔
      m.rule ∈ rules ∧ ∃ w : WrittenMark, w.IsProper ∧ w.text = Text.trim l ∧ w.mark = m := by
  unfold classifyBy
  dsimp only
  constructor
  · intro h
    split at h
    · obtain ⟨r, hr, hmark⟩ := List.exists_of_findSome?_eq_some h
      obtain ⟨rfl, hw⟩ := exists_of_mark? hmark
      exact ⟨hr, hw⟩
    · cases h
  · rintro ⟨hrule, w, hw, htext, rfl⟩
    rw [← htext, if_pos (WrittenMark.head?_text hw)]
    refine findSome?_eq_some hrule (WrittenMark.mark?_text hw) ?_
    intro r m hmark
    obtain ⟨_, v, hv, hvtext, rfl⟩ := exists_of_mark? hmark
    rw [WrittenMark.text_injective hv hw hvtext]

theorem Rule.mem_all (r : Rule) : r ∈ all := by
  cases r <;> decide

theorem classify_eq_some_iff {l : Text} {m : Mark} :
    classify l = some m ↔ ∃ w : WrittenMark, w.IsProper ∧ w.text = Text.trim l ∧ w.mark = m := by
  rw [classify, classifyBy_eq_some_iff]
  exact and_iff_right (Rule.mem_all m.rule)

/-- **The grammar of structural lines.** A line has a mark exactly if, trimmed, it is written in one of
the four forms, and then its mark is that of the form: a heading, an environment that begins, one that
ends and is not the document, or the end of the document's own text. It is written so in one way at
most. -/
theorem classify_grammar (l : Text) :
    (∀ m, classify l = some m ↔
      ∃ w : WrittenMark, w.IsProper ∧ w.text = Text.trim l ∧ w.mark = m) ∧
    (classify l = none ↔ ∀ w : WrittenMark, w.IsProper → w.text ≠ Text.trim l) ∧
    ∀ v w : WrittenMark, v.IsProper → w.IsProper → v.text = Text.trim l → w.text = Text.trim l →
      v = w := by
  refine ⟨fun m => classify_eq_some_iff, ?_, ?_⟩
  · rw [Option.eq_none_iff_forall_ne_some]
    constructor
    · intro h w hw htext
      exact h w.mark (classify_eq_some_iff.mpr ⟨w, hw, htext, rfl⟩)
    · intro h m hm
      obtain ⟨w, hw, htext, _⟩ := classify_eq_some_iff.mp hm
      exact h w hw htext
  · intro v w hv hw hvtext hwtext
    exact WrittenMark.text_injective hv hw (hvtext.trans hwtext.symm)

-- Where the document is named with a blank, no form fits.
example : classify "\\end\x7b document \x7d".toList = none := by decide +kernel

end TexSplice
