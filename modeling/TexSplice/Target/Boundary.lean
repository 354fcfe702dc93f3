import TexSplice.Target.Tier

/-! # The text of a section

A section runs from its heading up to the line feed before the next heading. The last section
runs up to the line feed before the first line that ends the document's own text, or to the end
of the text. -/
namespace TexSplice

/-- A text cut in three around the part that an edit is about. -/
structure Frame where
  /-- What the part in the middle is called. -/
  name : Text
  before : Text
  middle : Text
  after : Text
deriving Repr, DecidableEq

namespace Frame

def text (f : Frame) : Text := f.before ++ f.middle ++ f.after

def start (f : Frame) : Nat := f.before.length

def stop (f : Frame) : Nat := f.before.length + f.middle.length

def around (name t : Text) (s : Span) : Frame :=
  ⟨name, t.take s.start, s.cut t, t.drop s.stop⟩

theorem text_around (name t : Text) (s : Span) : (around name t s).text = t := by
  have h := s.start_le_stop
  have e : (t.take s.stop).take s.start = t.take s.start := by
    rw [List.take_take, Nat.min_eq_left h]
  simp only [around, text, Span.cut, Text.slice]
  rw [← e, List.take_append_drop, List.take_append_drop]

end Frame

/-- A section found by name, with the text cut around it. -/
structure Boundary where
  frame : Frame
  found : Section
  tier : Tier
deriving DecidableEq

namespace Outline

def sectionStop (o : Outline) (s : Section) : Nat :=
  let stop :=
    match o.nextSection? s with
    | some next => next.span.start - 1
    | none =>
      match o.finishAfter? s.span.start with
      | some finish => finish.span.start - 1
      | none => o.length
  max stop s.span.start

def sectionSpan (o : Outline) (s : Section) : Span :=
  ⟨s.span.start, o.sectionStop s, Nat.le_max_right ..⟩

/-- The section a name means, in the text the outline was made from. -/
def boundary? (o : Outline) (t name : Text) : Option Boundary :=
  (o.find? name).map fun (s, tier) => ⟨Frame.around s.heading.title t (o.sectionSpan s), s, tier⟩

/-- The boundary of a section. The parts into which it cuts a text have to give the text back. -/
def boundaryOf (o : Outline) (t : Text) (s : Section) (tier : Tier) : Except Fault Boundary :=
  let span := o.sectionSpan s
  let frame := Frame.around s.heading.title t span
  if frame.text = t then .ok ⟨frame, s, tier⟩
  else .error (.brokenBoundary s.heading.title span.start span.stop)

/-- The section a name means, in a text that the outline may have been made from. A text of
another length is refused: the offsets would cut it anywhere. -/
def locate (o : Outline) (t name : Text) : Except Fault (Option Boundary) :=
  if o.length ≠ t.length then .error .staleOutline
  else
    match o.find? name with
    | none => .ok none
    | some (s, tier) => (o.boundaryOf t s tier).map some

theorem boundaryOf_eq (o : Outline) (t : Text) (s : Section) (tier : Tier) :
    o.boundaryOf t s tier = .ok ⟨Frame.around s.heading.title t (o.sectionSpan s), s, tier⟩ := by
  rw [boundaryOf, if_pos (Frame.text_around ..)]

theorem locate_eq (o : Outline) (t name : Text) :
    o.locate t name =
      if o.length ≠ t.length then .error .staleOutline else .ok (o.boundary? t name) := by
  unfold locate boundary?
  cases o.find? name with
  | none => rfl
  | some found => simp only [boundaryOf_eq, Option.map_some, Except.map]

/-- A text is never refused by its own outline. -/
theorem locate_ofText (t name : Text) :
    (ofText t).locate t name = .ok ((ofText t).boundary? t name) := by
  have hlength : ¬ (ofText t).length ≠ t.length := fun h => h rfl
  rw [locate_eq, if_neg hlength]

end Outline

end TexSplice
