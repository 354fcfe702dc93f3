import TexSplice.Text.Basic

/-! # Spans of a text

A span runs from one offset up to, not including, another. The order of the two offsets is part
of the type, so no span is ever backwards. -/
namespace TexSplice

structure Span where
  start : Nat
  stop : Nat
  start_le_stop : start ≤ stop := by omega
deriving DecidableEq

namespace Span

/-- A span from two numbers that may be no offsets at all. -/
def ofBounds? (start stop : Int) : Option Span :=
  if h : 0 ≤ start ∧ start ≤ stop then some ⟨start.toNat, stop.toNat, by omega⟩ else none

def sized (start length : Nat) : Span := ⟨start, start + length, by omega⟩

/-- The span between two characters. -/
def empty (offset : Nat) : Span := ⟨offset, offset, by omega⟩

def isEmpty (s : Span) : Bool := s.start == s.stop

def fits (s : Span) (t : Text) : Bool := s.stop ≤ t.length

def cut (s : Span) (t : Text) : Text := Text.slice t s.start s.stop

def replace (s : Span) (t content : Text) : Text := t.take s.start ++ content ++ t.drop s.stop

/-- The span moved by a distance; none if it would begin before the text. -/
def moved? (s : Span) (distance : Int) : Option Span :=
  ofBounds? (s.start + distance) (s.stop + distance)

@[simp] theorem moved?_zero (s : Span) : s.moved? 0 = some s := by
  have := s.start_le_stop
  simp [moved?, ofBounds?, this]

/-- What was put in the place of a span is found there. -/
theorem cut_replace {s : Span} {t : Text} (content : Text) (h : s.start ≤ t.length) :
    (sized s.start content.length).cut (s.replace t content) = content := by
  have hl : (t.take s.start).length = s.start := by simp [h]
  simp only [cut, sized, replace, Text.slice, List.drop_take]
  rw [List.append_assoc, List.drop_left' hl]
  simp

end Span

end TexSplice
