import TexSplice.Fault

/-! # What an edit does -/
namespace TexSplice

/-- The edits an instruction can ask for. `improve` is what a vague request means. -/
inductive Action where
  | add
  | delete
  | replace
  | expand
  | fix
  | improve
deriving Repr, DecidableEq

namespace Action

def name : Action → Text
  | add => "add".toList
  | delete => "delete".toList
  | replace => "replace".toList
  | expand => "expand".toList
  | fix => "fix".toList
  | improve => "improve".toList

def all : List Action := [add, delete, replace, expand, fix, improve]

def ofName (t : Text) : Except Fault Action :=
  match all.find? fun a => a.name == t with
  | some a => .ok a
  | none => .error (.unknownWord .action t)

/-- Whether the action puts new text beside the old. -/
def inserts : Action → Bool
  | add | expand => true
  | _ => false

end Action

/-- Where in a section new text goes. -/
inductive Placement where
  /-- Right after the heading line. -/
  | beginning
  /-- After the last character that is not blank. -/
  | ending
deriving Repr, DecidableEq

namespace Placement

def name : Placement → Text
  | beginning => "beginning".toList
  | ending => "end".toList

def all : List Placement := [beginning, ending]

def ofName (t : Text) : Except Fault Placement :=
  match all.find? fun p => p.name == t with
  | some p => .ok p
  | none => .error (.unknownWord .placement t)

end Placement

end TexSplice
