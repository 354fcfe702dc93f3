import TexSplice.Proofs.Splice.Insert
import TexSplice.Proofs.Target.Bounds

/-! # The structure of an edited document

An edit puts its content between two lines, so whatever is read off a document line by line is read
off its parts in order. So the marks of the new document are the marks of its parts: no edit merges
two lines, splits one or changes what a line counts as. The blanks that an edit trims carry no
marks. -/
namespace TexSplice
open Text (marks)

namespace Frame

variable {f : Frame} {t : Text} {h : Heading}

/-! ## What is read off an edited document -/

section Readings

variable {α : Type} {read : Text → α} {both : α → α → α}

/-- What is put between the parts of a frame is read by itself, and so are the parts. -/
theorem Holds.read_between (hf : f.Holds t h) (hr : Text.Linewise read both) (x : Text) :
    read (f.before ++ x ++ f.after) = both (both (read f.before) (read x)) (read f.after) := by
  rw [hr.append_of_closesLine _ hf.closes, hr.append_of_opensLine hf.opens]

theorem Holds.read_text (hf : f.Holds t h) (hr : Text.Linewise read both) :
    read t = both (both (read f.before) (read f.middle)) (read f.after) := by
  rw [← hf.read_between hr]
  exact congrArg read hf.text.symm

theorem Holds.read_delete (hf : f.Holds t h) (hr : Text.Linewise read both) :
    read f.delete.document = both (read f.before) (read f.after) := by
  rw [delete, document_rebuild, hf.read_between hr]
  exact congrArg (both · _) (hr.nil_right f.before)

theorem Holds.read_replace (hf : f.Holds t h) (hr : Text.Linewise read both) (content : Text) :
    read (f.replace content).document =
      both (both (read f.before) (read content)) (read f.after) := by
  rw [replace, document_rebuild, hf.read_between hr, List.nil_append, List.append_nil]

theorem Holds.read_add_ending (hf : f.Holds t h) (hr : Text.Linewise read both) (content : Text) :
    read (f.add content .ending).document =
      both (both (read f.before) (both (read f.middle) (read content))) (read f.after) := by
  unfold add
  rw [document_rebuild, hf.read_between hr, List.append_nil, List.append_assoc,
    List.singleton_append, hr.behindLastLine]

theorem Holds.read_add_beginning (hf : f.Holds t h) (hr : Text.Linewise read both)
    (content : Text) :
    read (f.add content .beginning).document =
      both (both (read f.before) (both (read (Text.firstLine f.middle).1)
        (both (read content) (read (Text.firstLine f.middle).2)))) (read f.after) := by
  unfold add
  rw [document_rebuild, hf.read_between hr, List.append_assoc, List.append_assoc,
    List.singleton_append, hr.behindFirstLine]

end Readings

/-! ## Marks -/

/-- The heading line comes first in a section; the rest of it has the other marks. -/
theorem Holds.firstLine_middle (hf : f.Holds t h) :
    marks ((Text.firstLine f.middle).1) = [.heading h] ∧
      marks f.middle = .heading h :: marks (Text.firstLine f.middle).2 := by
  obtain ⟨line, rest, hm, hl, hr, hc⟩ := hf.headed
  have hline : marks (Text.firstLine f.middle).1 = [.heading h] := by
    rw [hm, Text.firstLine_append hl hr, Text.marks_of_not_mem hl, hc]
    rfl
  refine ⟨hline, ?_⟩
  rw [← Text.marks_firstLine, hline]
  rfl

theorem Holds.marks_delete (hf : f.Holds t h) :
    marks f.delete.document = marks f.before ++ marks f.after := hf.read_delete Text.linewise_marks

theorem Holds.marks_replace (hf : f.Holds t h) (content : Text) :
    marks (f.replace content).document = marks f.before ++ marks content ++ marks f.after :=
  hf.read_replace Text.linewise_marks content

theorem Holds.marks_add_ending (hf : f.Holds t h) (content : Text) :
    marks (f.add content .ending).document =
      marks f.before ++ marks f.middle ++ marks content ++ marks f.after := by
  rw [hf.read_add_ending Text.linewise_marks, ← List.append_assoc (marks f.before)]

theorem Holds.marks_add_beginning (hf : f.Holds t h) (content : Text) :
    marks (f.add content .beginning).document =
      marks f.before ++ [.heading h] ++ marks content ++ marks (Text.firstLine f.middle).2 ++
        marks f.after := by
  rw [hf.read_add_beginning Text.linewise_marks, hf.firstLine_middle.1]
  simp only [List.append_assoc]

end Frame

/-! ## New sections -/

/-- Where the document's own text ends: the first line that ends it, or the end of the text. -/
def Outline.bodyEnd (o : Outline) : Nat :=
  match o.finishes.head? with
  | some finish => finish.span.start
  | none => o.length

theorem Text.opensLine_paragraphBefore (t : Text) : OpensLine (paragraphBefore t) := by
  simp only [paragraphBefore]
  split
  · exact opensLine_nil
  · exact .inr ⟨trimEnd t ++ ['\n'], by simp [separator]⟩

/-- A new section is written between two lines, where the document's own text ends. Nothing but blanks
stands between it and the text behind it. -/
theorem exists_create (t content name : Text) : ∃ tail,
    Text.ClosesLine tail ∧
      ((Outline.ofText t).create t content name).document =
        Text.paragraphBefore (t.take (Outline.ofText t).bodyEnd) ++ Text.trim content ++ tail ∧
      ((Outline.ofText t).create t content name).range =
        Span.sized (Text.paragraphBefore (t.take (Outline.ofText t).bodyEnd)).length
          (Text.trim content).length ∧
      ∃ gap, Text.allBlank gap = true ∧ tail = gap ++ t.drop (Outline.ofText t).bodyEnd := by
  unfold Outline.create Outline.bodyEnd
  cases (Outline.ofText t).finishes.head? with
  | some finish =>
    exact ⟨separator ++ t.drop finish.span.start, Text.closesLine_cons _, rfl, rfl, separator, rfl,
      rfl⟩
  | none =>
    have hlen : (Outline.ofText t).length = t.length := rfl
    refine ⟨[], Text.closesLine_nil, ?_, ?_, [], rfl, ?_⟩
    · simp only [hlen, List.take_length, List.append_nil]
    · simp only [hlen, List.take_length]
    · rw [hlen, List.drop_length, List.append_nil]

/-- The document's own text and what ends it are cut between two lines. -/
theorem Text.Linewise.bodyEnd {α : Type} {read : Text → α} {both : α → α → α}
    (hr : Text.Linewise read both) (t : Text) :
    both (read (t.take (Outline.ofText t).bodyEnd)) (read (t.drop (Outline.ofText t).bodyEnd)) =
      read t := by
  unfold Outline.bodyEnd
  cases hf : (Outline.ofText t).finishes.head? with
  | none =>
    have hlen : (Outline.ofText t).length = t.length := rfl
    simp only [hlen, List.take_length, List.drop_length, hr.nil_right]
  | some finish =>
    have hmem := Outline.mem_finishes.mp (List.mem_of_head? hf)
    obtain ⟨before, line, after, st⟩ := Outline.exists_standsIn hmem.1
    have hstart : finish.span.start = before.length := congrArg Span.start st.span
    have ht : t = before ++ (line ++ after) := by rw [st.text, List.append_assoc]
    dsimp only
    rw [hstart, ht, List.take_left, List.drop_left, hr.append_of_opensLine st.opens]

theorem Text.Linewise.create {α : Type} {read : Text → α} {both : α → α → α}
    (hr : Text.Linewise read both) (t content name : Text) :
    read ((Outline.ofText t).create t content name).document =
      both (both (read (t.take (Outline.ofText t).bodyEnd)) (read content))
        (read (t.drop (Outline.ofText t).bodyEnd)) := by
  obtain ⟨tail, htail, hdocument, _, gap, hgap, rfl⟩ := exists_create t content name
  obtain ⟨lead, hlead, hbefore⟩ := Text.exists_paragraphBefore (t.take (Outline.ofText t).bodyEnd)
  rw [hdocument, hr.append_of_closesLine _ htail,
    hr.append_of_opensLine (Text.opensLine_paragraphBefore _), hr.blanks_append hgap, hr.trim,
    hbefore, hr.append_blanks hlead, hr.trimEnd]

theorem marks_create (t content name : Text) :
    marks ((Outline.ofText t).create t content name).document =
      marks (t.take (Outline.ofText t).bodyEnd) ++ marks content ++
        marks (t.drop (Outline.ofText t).bodyEnd) :=
  Text.linewise_marks.create t content name

/-- **Every edit composes structures.** The marks of the new document are those of the parts it
was made of, for every section that was found, every content, and every new section. -/
theorem marks_of_edits (t : Text) :
    (∀ (name : Text) (b : Boundary), (Outline.ofText t).boundary? t name = some b →
      ∀ content : Text,
        marks b.frame.delete.document = marks b.frame.before ++ marks b.frame.after ∧
        marks (b.frame.replace content).document =
          marks b.frame.before ++ marks content ++ marks b.frame.after ∧
        marks (b.frame.add content .ending).document =
          marks b.frame.before ++ marks b.frame.middle ++ marks content ++ marks b.frame.after ∧
        marks (b.frame.add content .beginning).document =
          marks b.frame.before ++ [.heading b.found.heading] ++ marks content ++
            marks (Text.firstLine b.frame.middle).2 ++ marks b.frame.after) ∧
    ∀ content name : Text,
      marks ((Outline.ofText t).create t content name).document =
        marks (t.take (Outline.ofText t).bodyEnd) ++ marks content ++
          marks (t.drop (Outline.ofText t).bodyEnd) := by
  refine ⟨fun name b hb content => ?_, marks_create t⟩
  have hf := Boundary.holds hb
  exact ⟨hf.marks_delete, hf.marks_replace content, hf.marks_add_ending content,
    hf.marks_add_beginning content⟩

/-- Of two sections the second one is taken out, or replaced, between the first and the end of the
document. -/
theorem marks_of_edits_last_section :
    let t := "\\section{A}\nx\n\\section{B}\ny\n\\end\x7bdocument\x7d".toList
    ∃ b, (Outline.ofText t).boundary? t "b".toList = some b ∧
      marks b.frame.delete.document = marks b.frame.before ++ marks b.frame.after ∧
      marks (b.frame.replace "z".toList).document =
        marks b.frame.before ++ marks "z".toList ++ marks b.frame.after := by
  intro t
  obtain ⟨b, hb⟩ : ∃ b, (Outline.ofText t).boundary? t "b".toList = some b :=
    Option.isSome_iff_exists.mp (by decide)
  obtain ⟨hdelete, hreplace, _⟩ := (marks_of_edits t).1 _ b hb "z".toList
  exact ⟨b, hb, hdelete, hreplace⟩

end TexSplice
