import TexSplice.Proofs.Layout.Edit
import TexSplice.Proofs.Splice.Created

/-! # The numbers of an edit

An edit tells where in the new document it wrote and how long the document was and is. These numbers
are made apart from the text, from parts that are trimmed at different ends. They agree with it: the
range holds what was written, and the growth can be told from the edit and the old section alone. -/
namespace TexSplice

open Outline (ofText)

/-! ## Numbers that agree with the text -/

/-- The numbers of an edit are true of an old document and of what was written: the range lies in the
new document and holds just that, and the lengths are those of the documents. -/
structure Edit.Accounts (e : Edit) (t written : Text) : Prop where
  range : e.range.cut e.document = written
  extent : e.range.stop = e.range.start + written.length
  fits : e.range.fits e.document = true
  oldLength : e.oldLength = t.length
  newLength : e.newLength = e.document.length

theorem Edit.Accounts.growth {e : Edit} {t written : Text} (h : e.Accounts t written) :
    e.growth = (e.document.length : Int) - t.length := by
  rw [Edit.growth, h.oldLength, h.newLength]

theorem Frame.accounts_rebuild (f : Frame) (kept content rest : Text) (change : Change) :
    (f.rebuild kept content rest change).Accounts f.text content where
  range := f.cut_range_rebuild kept content rest change
  extent := rfl
  fits := by
    simp only [rebuild, Span.fits, Span.sized, decide_eq_true_eq, List.length_append]
    omega
  oldLength := rfl
  newLength := rfl

/-! ## Edits of a section -/

namespace SectionEdit

/-- What an edit writes into a document. -/
def written : SectionEdit → Text
  | add content _ => Text.trim content
  | delete => []
  | replace content => content

/-- By how much an edit lengthens a document, told by the section it is about. An addition at the
beginning brings two line feeds if the section is its heading line alone. -/
def growth : SectionEdit → Text → Int
  | add content .beginning, t => (Text.trim content).length + if '\n' ∈ t then 1 else 2
  | add content .ending, t => (Text.trim content).length + 1 - (t.rtakeWhile Text.isBlank).length
  | delete, t => -t.length
  | replace content, t => content.length - t.length

theorem accounts_run (e : SectionEdit) (f : Frame) : (e.run f).Accounts f.text e.written := by
  cases e with
  | add content placement => cases placement <;> exact f.accounts_rebuild ..
  | delete => exact f.accounts_rebuild ..
  | replace content => exact f.accounts_rebuild ..

theorem length_middle (e : SectionEdit) (t : Text) :
    ((e.middle t).length : Int) = t.length + e.growth t := by
  cases e with
  | add content placement =>
    cases placement with
    | beginning =>
      have hlength := Text.length_firstLine t
      simp only [middle, growth, List.length_append, List.length_cons]
      by_cases hline : '\n' ∈ t
      · rw [if_pos hline] at hlength ⊢
        omega
      · rw [if_neg hline] at hlength ⊢
        omega
    | ending =>
      have hlength := Text.length_trimEnd t
      simp only [middle, growth, List.length_append, List.length_cons]
      omega
  | delete =>
    simp only [middle, growth, List.length_nil]
    omega
  | replace content =>
    simp only [middle, growth]
    omega

theorem growth_run (e : SectionEdit) (f : Frame) : (e.run f).growth = e.growth f.middle := by
  have hlength := e.length_middle f.middle
  rw [(e.accounts_run f).growth, document_run, Frame.text]
  simp only [List.length_append]
  omega

end SectionEdit

/-! ## New sections -/

theorem accounts_create (t content name : Text) :
    ((ofText t).create t content name).Accounts t (Text.trim content) := by
  obtain ⟨tail, _, hdocument, hrange, _⟩ := exists_create t content name
  refine ⟨cut_range_create t content name, by rw [hrange]; rfl, ?_, ?_, rfl⟩
  · rw [hdocument, hrange]
    simp [Span.fits, Span.sized]
  · unfold Outline.create
    split
    rfl

/-- Behind a new section and an empty line stands all that the first line ending the document's own
text begins. -/
theorem suffix_create {t : Text} {finish : Element}
    (h : finish ∈ (ofText t).finishes.head?) (content name : Text) :
    separator ++ t.drop finish.span.start <:+ ((ofText t).create t content name).document := by
  have hfinish : (ofText t).finishes.head? = some finish := h
  unfold Outline.create
  rw [hfinish]
  exact List.suffix_append ..

/-- **The numbers of every edit are true.** The range of an edit of a section that is found holds the
trimmed content of an addition, all the content of a replacement and nothing of a deletion; what stood
before and behind the section still stands at the ends of the new document; and the lengths differ as
`SectionEdit.growth` says. The range of a new section holds its trimmed content, and the document goes
on with an empty line and the first line that ends its own text, if there is one. -/
theorem edits_account (t : Text) :
    (∀ (name : Text) (b : Boundary), (ofText t).boundary? t name = some b →
      ∀ edit : SectionEdit, ∃ e,
        ((NamedEdit.onSection name edit).run t).2 = .edited e ∧ e.Accounts t edit.written ∧
        b.frame.before <+: e.document ∧ b.frame.after <:+ e.document ∧
        e.growth = edit.growth b.frame.middle) ∧
    ∀ name content : Text, ∃ e,
      ((NamedEdit.create name content).run t).2 = .edited e ∧ e.Accounts t (Text.trim content) ∧
      ∀ finish ∈ (ofText t).finishes.head?, separator ++ t.drop finish.span.start <:+ e.document := by
  refine ⟨fun name b hb edit => ⟨edit.run b.frame, ?_, ?_, ?_, ?_, edit.growth_run b.frame⟩,
    fun name content => ⟨_, rfl, accounts_create t content name, fun finish hfinish =>
      suffix_create hfinish content name⟩⟩
  · rw [NamedEdit.run]
    simp only [hb]
  · have haccounts := edit.accounts_run b.frame
    rwa [(Boundary.holds hb).text] at haccounts
  · rw [SectionEdit.document_run, List.append_assoc]
    exact List.prefix_append ..
  · rw [SectionEdit.document_run]
    exact List.suffix_append ..

/-- An addition to a section that is its heading line alone brings two line feeds at the beginning,
one at the end. -/
theorem edits_account_heading_alone :
    let t := "\\section\x7bA\x7d\n\\section\x7bB\x7d".toList
    let content := " x ".toList
    ∃ b x y, (ofText t).boundary? t "a".toList = some b ∧
      ((NamedEdit.onSection "a".toList (.add content .beginning)).run t).2 = .edited x ∧
      ((NamedEdit.onSection "a".toList (.add content .ending)).run t).2 = .edited y ∧
      x.range.cut x.document = "x".toList ∧ x.growth = 3 ∧
      y.range.cut y.document = "x".toList ∧ y.growth = 2 := by
  intro t content
  obtain ⟨b, hb⟩ : ∃ b, (ofText t).boundary? t "a".toList = some b :=
    Option.isSome_iff_exists.mp (by decide)
  have hmiddle : ∀ b ∈ (ofText t).boundary? t "a".toList,
      b.frame.middle = "\\section\x7bA\x7d".toList := by decide
  obtain ⟨x, hx, hxt, _, _, hxg⟩ := (edits_account t).1 _ b hb (.add content .beginning)
  obtain ⟨y, hy, hyt, _, _, hyg⟩ := (edits_account t).1 _ b hb (.add content .ending)
  rw [hmiddle b hb] at hxg hyg
  exact ⟨b, x, y, hb, hx, hy, hxt.range, hxg.trans (by decide), hyt.range, hyg.trans (by decide)⟩

end TexSplice
