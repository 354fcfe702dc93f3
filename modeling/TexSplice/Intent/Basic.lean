import TexSplice.Action
import TexSplice.Target.Tier

/-! # What an instruction asks for -/
namespace TexSplice

inductive Complexity where
  | simple
  | medium
  | complex
deriving Repr, DecidableEq

def Complexity.name : Complexity → Text
  | .simple => "simple".toList
  | .medium => "medium".toList
  | .complex => "complex".toList

structure Intent where
  action : Action
  placement : Placement
  target : Option Text
  /-- Whether a section is to be written that the document does not have yet. -/
  creates : Bool
  hasSelection : Bool := false
  complexity : Complexity := .simple
deriving Repr, DecidableEq

namespace Intent

/-- A target with a name; an empty name targets nothing. -/
def named? : Option Text → Option Text
  | some (c :: rest) => some (c :: rest)
  | _ => none

/-- Whether a named section is to be added to, replaced or removed. -/
def isStructural (i : Intent) : Bool :=
  i.target.isSome && (i.action == .delete || i.action == .replace || i.action == .add)

end Intent

end TexSplice
