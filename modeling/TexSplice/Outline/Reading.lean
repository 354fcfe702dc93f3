import TexSplice.Outline.Basic

/-! # Reading an outline off a text

A cursor runs over the lines of a text, and an element is placed by two numbers: where the cursor
stands, and where its line ends. Two numbers may be no place at all, and then the element is refused.
A cursor that starts at zero and only moves on never comes to that. -/
namespace TexSplice.Outline

/-- The elements among some lines, the first of which has number `line` and starts at the
cursor. -/
def readFrom (rules : List Rule) : Nat → Int → List Text → Except Fault (List Element)
  | _, _, [] => .ok []
  | line, cursor, l :: ls => do
    let stop := cursor + l.length
    let found ← match classifyBy rules l with
      | some mark => (Element.place? cursor stop).map fun span => [⟨mark, line, span⟩]
      | none => .ok []
    let rest ← readFrom rules (line + 1) (stop + 1) ls
    .ok (found ++ rest)

/-- Reads an outline by some rules, tried in their order; by all of them if none is named. -/
def readBy (rules : List Rule) (t : Text) : Except Fault Outline := do
  let rules := if rules.isEmpty then Rule.all else rules
  let lines := Text.lines t
  let elements ← readFrom rules 0 0 lines
  .ok ⟨elements, lines.length, t.length⟩

def read (t : Text) : Except Fault Outline := readBy Rule.all t

theorem readFrom_eq (rules : List Rule) :
    ∀ (ls : List Text) (line offset : Nat),
      readFrom rules line offset ls = .ok (elementsFrom rules line offset ls)
  | [], _, _ => rfl
  | l :: ls, line, offset => by
    have ih := readFrom_eq rules ls (line + 1) (offset + l.length + 1)
    have hplace : Element.place? offset (offset + l.length) = .ok (Span.sized offset l.length) := by
      have hbounds : (0 : Int) ≤ offset ∧ (offset : Int) ≤ offset + l.length := by omega
      simp only [Element.place?, Span.ofBounds?, dif_pos hbounds, Span.sized]
      rfl
    have hnext : (offset : Int) + l.length + 1 = (offset + l.length + 1 : Nat) := by omega
    simp only [readFrom, elementsFrom, hplace, hnext, ih]
    cases classifyBy rules l <;> rfl

theorem readBy_eq (rules : List Rule) (t : Text) : readBy rules t = .ok (ofTextBy rules t) := by
  have h (rules : List Rule) :
      readFrom rules 0 0 (Text.lines t) = .ok (elementsFrom rules 0 0 (Text.lines t)) :=
    readFrom_eq rules (Text.lines t) 0 0
  simp only [readBy, ofTextBy, h]
  rfl

theorem read_eq (t : Text) : read t = .ok (ofText t) := readBy_eq Rule.all t

end TexSplice.Outline
