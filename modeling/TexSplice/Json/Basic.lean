import TexSplice.Text.Basic

/-! # Data for the outside

The values that requests, logs and stored replies are made of. An object keeps its fields in
the order in which they were put in. -/
namespace TexSplice

/-- A value of the data format. Whole numbers and doubles are different values even if they are
equal as numbers, since they are written differently. -/
inductive Json where
  | null
  | bool (b : Bool)
  | int (n : Int)
  /-- A double, by its bits. -/
  | float (bits : Nat)
  | text (t : Text)
  | list (items : List Json)
  | object (fields : List (Text × Json))
deriving Inhabited

namespace Json

def str (s : String) : Json := .text s.toList

def nat (n : Nat) : Json := .int n

def opt {α : Type} (f : α → Json) : Option α → Json
  | none => .null
  | some a => f a

/-- An object with field names of the program itself. -/
def record (fields : List (String × Json)) : Json :=
  .object (fields.map fun (name, value) => (name.toList, value))

end Json

end TexSplice
