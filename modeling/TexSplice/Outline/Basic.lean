import TexSplice.Span
import TexSplice.Outline.Mark
import TexSplice.Text.Lines

/-! # The outline of a document

The marked lines of one text with the places where they stand. An outline is made afresh after
every edit; nothing keeps one up to date. -/
namespace TexSplice

structure Element where
  mark : Mark
  /-- The number of the line, from zero. -/
  line : Nat
  /-- The line itself, without its line feed. -/
  span : Span
deriving DecidableEq

/-- A line that begins a section. -/
structure Section where
  heading : Heading
  line : Nat
  span : Span
deriving DecidableEq

def Section.element (s : Section) : Element := ⟨.heading s.heading, s.line, s.span⟩

namespace Element

def section? (e : Element) : Option Section :=
  match e.mark with
  | .heading h => some ⟨h, e.line, e.span⟩
  | _ => none

def opening? (e : Element) : Option Text :=
  match e.mark with
  | .opening name => some name
  | _ => none

def closing? (e : Element) : Option Text :=
  match e.mark with
  | .closing name => some name
  | _ => none

def isFinish (e : Element) : Bool :=
  match e.mark with
  | .finish _ => true
  | _ => false

/-- A mark at a place that may be no place at all. -/
def place? (start stop : Int) : Except Fault Span :=
  match Span.ofBounds? start stop with
  | some span => .ok span
  | none => .error (.badOffsets start stop)

end Element

structure Outline where
  elements : List Element
  lineCount : Nat
  /-- The length of the text the outline was made from. -/
  length : Nat
deriving DecidableEq

namespace Outline

/-- The elements among some lines, the first of which has number `line` and starts at
`offset`. -/
def elementsFrom (rules : List Rule) : Nat → Nat → List Text → List Element
  | _, _, [] => []
  | line, offset, l :: ls =>
    let rest := elementsFrom rules (line + 1) (offset + l.length + 1) ls
    match classifyBy rules l with
    | some mark => ⟨mark, line, Span.sized offset l.length⟩ :: rest
    | none => rest

/-- The outline of a text by some rules, tried in their order; by all of them if none is
named. -/
def ofTextBy (rules : List Rule) (t : Text) : Outline :=
  let rules := if rules.isEmpty then Rule.all else rules
  ⟨elementsFrom rules 0 0 (Text.lines t), (Text.lines t).length, t.length⟩

def ofText (t : Text) : Outline := ofTextBy Rule.all t

/-! ## Views -/

def sections (o : Outline) : List Section := o.elements.filterMap Element.section?

def openings (o : Outline) : List Text := o.elements.filterMap Element.opening?

def closings (o : Outline) : List Text := o.elements.filterMap Element.closing?

/-- The lines at which the document's own text ends. -/
def finishes (o : Outline) : List Element := o.elements.filter Element.isFinish

def titles (o : Outline) : List Text := o.sections.map fun s => s.heading.title

/-- The structure alone, without the places. -/
def marks (o : Outline) : List Mark := o.elements.map Element.mark

/-- The elements of some lines and of more lines after them: each line takes its own length and
one line feed. -/
theorem elementsFrom_append (rules : List Rule) (bs : List Text) :
    ∀ (as : List Text) (line offset : Nat),
      elementsFrom rules line offset (as ++ bs) =
        elementsFrom rules line offset as ++
          elementsFrom rules (line + as.length)
            (offset + (as.flatMap fun l => l ++ ['\n']).length) bs
  | [], line, offset => by simp [elementsFrom]
  | a :: as, line, offset => by
    have ih := elementsFrom_append rules bs as (line + 1) (offset + a.length + 1)
    rw [show line + 1 + as.length = line + (a :: as).length by simp; omega,
      show offset + a.length + 1 + (as.flatMap fun l => l ++ ['\n']).length =
        offset + ((a :: as).flatMap fun l => l ++ ['\n']).length by
          simp only [List.flatMap_cons, List.length_append, List.length_cons, List.length_nil]
          omega] at ih
    simp only [List.cons_append, elementsFrom, ih]
    split <;> simp

theorem map_mark_elementsFrom (rules : List Rule) :
    ∀ (ls : List Text) (line offset : Nat),
      (elementsFrom rules line offset ls).map Element.mark = ls.filterMap (classifyBy rules)
  | [], _, _ => rfl
  | l :: ls, line, offset => by
    have ih := map_mark_elementsFrom rules ls (line + 1) (offset + l.length + 1)
    simp only [elementsFrom, List.filterMap_cons]
    cases classifyBy rules l <;> simp [ih]

theorem marks_ofText (t : Text) : (ofText t).marks = (Text.lines t).filterMap classify :=
  map_mark_elementsFrom ..

/-! ## Neighbours -/

/-- The section that follows the first one equal to `s` in a list. -/
def following? (s : Section) : List Section → Option Section
  | [] => none
  | x :: rest => if x = s then rest.head? else following? s rest

def nextSection? (o : Outline) (s : Section) : Option Section := following? s o.sections

/-- The first line after `offset` at which the document's own text ends. -/
def finishAfter? (o : Outline) (offset : Int) : Option Element :=
  o.finishes.find? fun e => decide (offset < e.span.start)

end Outline

end TexSplice
