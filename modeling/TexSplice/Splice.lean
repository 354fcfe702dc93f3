import TexSplice.Action
import TexSplice.Target.Boundary

/-! # Edits of one section

Only the part in the middle of a frame changes; what stands before and after it is copied as it
is. -/
namespace TexSplice

inductive Change where
  /-- New content; a section written anew has no placement. -/
  | added (content : Text) (placement : Option Placement)
  | deleted (content : Text)
  | replaced (content : Text)
deriving Repr, DecidableEq

def Change.action : Change → Action
  | added .. => .add
  | deleted _ => .delete
  | replaced _ => .replace

structure Edit where
  document : Text
  oldLength : Nat
  name : Text
  change : Change
  /-- The part of the new document that the edit wrote. -/
  range : Span
deriving DecidableEq

namespace Edit

def newLength (e : Edit) : Nat := e.document.length

def growth (e : Edit) : Int := e.newLength - e.oldLength

/-- The edit in a text whose beginning lies `distance` further on. -/
def moved (e : Edit) (distance : Int) : Except Fault Edit :=
  match e.range.moved? distance with
  | some range => .ok { e with range }
  | none => .error (.badRange (e.range.start + distance) (e.range.stop + distance))

end Edit

namespace Frame

/-- The edit that puts `kept`, the content and `rest` in the place of the middle part. -/
def rebuild (f : Frame) (kept content rest : Text) (change : Change) : Edit :=
  { document := f.before ++ kept ++ content ++ rest ++ f.after
    oldLength := f.text.length
    name := f.name
    change
    range := Span.sized (f.before.length + kept.length) content.length }

theorem document_rebuild (f : Frame) (kept content rest : Text) (change : Change) :
    (f.rebuild kept content rest change).document =
      f.before ++ (kept ++ content ++ rest) ++ f.after := by
  simp [rebuild]

theorem cut_range_rebuild (f : Frame) (kept content rest : Text) (change : Change) :
    (f.rebuild kept content rest change).range.cut (f.rebuild kept content rest change).document =
      content := by
  simp only [rebuild, Span.cut, Span.sized, Text.slice, List.drop_take, List.append_assoc]
  rw [← List.append_assoc, List.drop_left' (by simp)]
  simp

/-- Adds content after the heading line or at the end of the section. At the end, the blanks
that close the section give way to one line feed. -/
def add (f : Frame) (content : Text) (placement : Placement) : Edit :=
  let content := Text.trim content
  let change := .added content (some placement)
  match placement with
  | .beginning =>
    let (heading, rest) := Text.firstLine f.middle
    f.rebuild (heading ++ ['\n']) content ('\n' :: rest) change
  | .ending => f.rebuild (Text.trimEnd f.middle ++ ['\n']) content [] change

def delete (f : Frame) : Edit := f.rebuild [] [] [] (.deleted f.middle)

/-- Puts other content in the place of the section. No heading is supplied. -/
def replace (f : Frame) (content : Text) : Edit := f.rebuild [] content [] (.replaced content)

end Frame

/-! ## New sections -/

def separator : Text := ['\n', '\n']

/-- A text with its closing blanks cut off and an empty line put there; nothing for a blank
text. -/
def Text.paragraphBefore (t : Text) : Text :=
  let kept := trimEnd t
  if kept.isEmpty then [] else kept ++ separator

/-- Writes a new section right before the first line at which the document's own text ends, or
at the end of the document. -/
def Outline.create (o : Outline) (t content name : Text) : Edit :=
  let content := Text.trim content
  let (lead, tail) :=
    match o.finishes.head? with
    | some finish =>
      (Text.paragraphBefore (t.take finish.span.start), separator ++ t.drop finish.span.start)
    | none => (Text.paragraphBefore t, [])
  { document := lead ++ content ++ tail
    oldLength := t.length
    name
    change := .added content none
    range := Span.sized lead.length content.length }

end TexSplice
