import TexSplice.Apply.Event
import TexSplice.Splice

/-! # Edits addressed by the name of a section

Every edit makes a fresh outline of the document it gets, so a sequence of edits is run by
handing each the document that the last successful one left. -/
namespace TexSplice

inductive SectionEdit where
  | add (content : Text) (placement : Placement)
  | delete
  | replace (content : Text)
deriving Repr, DecidableEq

def SectionEdit.run : SectionEdit → Frame → Edit
  | add content placement, f => f.add content placement
  | delete, f => f.delete
  | replace content, f => f.replace content

inductive EditOutcome where
  | edited (e : Edit)
  | notFound (target : Text) (available : List Text)
deriving DecidableEq

/-- The document to go on with: a target that is not found changes nothing. -/
def EditOutcome.document (t : Text) : EditOutcome → Text
  | edited e => e.document
  | notFound .. => t

/-- An edit of the section that a name means, or a new section. -/
inductive NamedEdit where
  | onSection (target : Text) (edit : SectionEdit)
  | create (name content : Text)
deriving Repr, DecidableEq

namespace NamedEdit

def run (t : Text) : NamedEdit → List Event × EditOutcome
  | onSection target edit =>
    let o := Outline.ofText t
    let found := o.boundary? t target
    ([Event.search o target found],
      match found with
      | some b => .edited (edit.run b.frame)
      | none => .notFound target o.titles)
  | create name content => ([], .edited ((Outline.ofText t).create t content name))

def runAll (t : Text) (edits : List NamedEdit) : Text :=
  edits.foldl (fun t e => (e.run t).2.document t) t

end NamedEdit

end TexSplice
