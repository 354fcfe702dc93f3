import TexSplice.Json.Basic
import TexSplice.Text.Written
import TexSplice.Numeral.Integer
import TexSplice.Numeral.Shortest

/-! # Data in writing

Three layouts of the same format: `sorted` puts the fields in order of their names and keeps
to ASCII, so that equal data have one text; `plain` writes one line; `indented` gives every
item a line of its own. -/
namespace TexSplice.Json

/-- Doubles as data: the shortest decimal that reads back, positionally from `10⁻⁴` up to
`10¹⁶`. -/
def floatFormat : Numeral.FloatFormat :=
  ⟨-4, 16, "NaN".toList, "Infinity".toList⟩

/-! ## Texts -/

def escapeControl? (c : Char) : Option Text :=
  if c = '"' then some ['\\', '"']
  else if c = '\\' then some ['\\', '\\']
  else if c = '\n' then some ['\\', 'n']
  else if c = '\r' then some ['\\', 'r']
  else if c = '\t' then some ['\\', 't']
  else if c = '\x08' then some ['\\', 'b']
  else if c = '\x0c' then some ['\\', 'f']
  else if c.toNat < 0x20 then some ('\\' :: 'u' :: Text.hex 4 c.toNat)
  else none

/-- A character by its number, as one or two units of sixteen bits. -/
def escapeUnits (c : Char) : Text :=
  let n := c.toNat
  if n < 0x10000 then '\\' :: 'u' :: Text.hex 4 n
  else
    let m := n - 0x10000
    '\\' :: 'u' :: Text.hex 4 (0xD800 + m / 0x400) ++
      '\\' :: 'u' :: Text.hex 4 (0xDC00 + m % 0x400)

def writeChar (ascii : Bool) (c : Char) : Text :=
  match escapeControl? c with
  | some escape => escape
  | none => if ascii && 0x7F ≤ c.toNat then escapeUnits c else [c]

def writeText (ascii : Bool) (t : Text) : Text :=
  '"' :: (t.flatMap (writeChar ascii) ++ ['"'])

/-! ## Values -/

/-- The order of field names: by the code points of their characters. -/
def nameLE : Text → Text → Bool
  | [], _ => true
  | _ :: _, [] => false
  | a :: s, b :: t =>
    if a.toNat < b.toNat then true else if b.toNat < a.toNat then false else nameLE s t

def writeLeaf (ascii : Bool) : Json → Text
  | .null => "null".toList
  | .bool true => "true".toList
  | .bool false => "false".toList
  | .int n => Numeral.ofInt n
  | .float bits => floatFormat.write bits
  | .text t => writeText ascii t
  | .list _ => []
  | .object _ => []

def writeField (ascii : Bool) (field : Text × Text) : Text :=
  writeText ascii field.1 ++ ": ".toList ++ field.2

def enclose (opening closing : Char) (parts : List Text) : Text :=
  opening :: (Text.join ", ".toList parts ++ [closing])

mutual
/-- One line; the fields of an object sorted by name if asked for. -/
def writeLine (ascii sortFields : Bool) : Json → Text
  | .list items => enclose '[' ']' (writeItems ascii sortFields items)
  | .object fields =>
    let written := writeFields ascii sortFields fields
    let ordered := if sortFields then written.mergeSort fun a b => nameLE a.1 b.1 else written
    enclose '{' '}' (ordered.map (writeField ascii))
  | leaf => writeLeaf ascii leaf
def writeItems (ascii sortFields : Bool) : List Json → List Text
  | [] => []
  | item :: items => writeLine ascii sortFields item :: writeItems ascii sortFields items
def writeFields (ascii sortFields : Bool) : List (Text × Json) → List (Text × Text)
  | [] => []
  | (name, value) :: fields =>
    (name, writeLine ascii sortFields value) :: writeFields ascii sortFields fields
end

/-- One line of ASCII with sorted fields: one text for all data that differ only in the order of
their fields. -/
def sorted (v : Json) : Text := writeLine true true v

/-- One line of ASCII, fields as they come. -/
def ascii (v : Json) : Text := writeLine true false v

def plain (v : Json) : Text := writeLine false false v

/-! ## Over several lines -/

def lineBreak (level : Nat) : Text := '\n' :: List.replicate (2 * level) ' '

/-- Parts on lines of their own, between brackets; brackets around nothing stay together. -/
def encloseLines (opening closing : Char) (level : Nat) (parts : List Text) : Text :=
  if parts.isEmpty then [opening, closing]
  else
    opening :: (lineBreak (level + 1) ++
      Text.join (',' :: lineBreak (level + 1)) parts ++ lineBreak level ++ [closing])

mutual
def writeTree (writeFloat : Nat → Text) (level : Nat) : Json → Text
  | .list items => encloseLines '[' ']' level (treeItems writeFloat level items)
  | .object fields =>
    encloseLines '{' '}' level ((treeFields writeFloat level fields).map (writeField false))
  | .float bits => writeFloat bits
  | leaf => writeLeaf false leaf
def treeItems (writeFloat : Nat → Text) (level : Nat) : List Json → List Text
  | [] => []
  | item :: items => writeTree writeFloat (level + 1) item :: treeItems writeFloat level items
def treeFields (writeFloat : Nat → Text) (level : Nat) : List (Text × Json) → List (Text × Text)
  | [] => []
  | (name, value) :: fields =>
    (name, writeTree writeFloat (level + 1) value) :: treeFields writeFloat level fields
end

/-- Every item on a line of its own. The caller says how a double is written. -/
def indented (writeFloat : Nat → Text) (v : Json) : Text := writeTree writeFloat 0 v

end TexSplice.Json
