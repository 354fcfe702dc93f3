import TexSplice.Numeral.Integer

/-! # Flags of a command line

A flag is written `--name=value`, or `--name value`; a flag that says yes or no has no value. Of
a flag that is given twice the last one counts. A value that stands by itself must not look like
a flag. -/
namespace TexSplice.Command

abbrev Flags := List String

namespace Flags

/-- What follows a flag and an equals sign, if this is that flag. -/
def attached? (name argument : String) : Option Text :=
  Text.after? (("--" ++ name ++ "=").toList) argument.toList

def values (name : String) : Flags → List Text
  | [] => []
  | [a] => (attached? name a).toList
  | a :: b :: rest =>
    match attached? name a with
    | some value => value :: values name (b :: rest)
    | none =>
      if a == "--" ++ name then b.toList :: values name rest else values name (b :: rest)

def value? (flags : Flags) (name : String) : Option Text := (values name flags).getLast?

def has (flags : Flags) (name : String) : Bool := flags.contains ("--" ++ name)

/-! ## Values that look like flags -/

/-- Whether a text is a negative number; a line feed may close it. -/
def isNegative : Text → Bool
  | '-' :: t =>
    let body := if t.getLast? = some '\n' then t.dropLast else t
    let isDigit (c : Char) : Bool := (Text.digitValue? c).isSome
    match body.dropWhile isDigit with
    | [] => !body.isEmpty
    | '.' :: part => !part.isEmpty && part.all isDigit
    | _ => false
  | _ => false

/-- The flags that an argument may be short for. One dash alone begins a flag of one letter, which
may have its value right behind it. -/
def candidates (known : List Text) (argument : Text) : List Text :=
  if Text.startsWithAny argument ["--".toList] then
    known.filter fun flag => (argument.takeWhile (· != '=')).isPrefixOf flag
  else known.filter fun flag => flag == argument.take 2

inductive Standing where
  | value
  | flag
  /-- Short for more than one flag. -/
  | ambiguous (flags : List Text)
deriving Repr, DecidableEq

/-- What an argument is taken for: a flag if it is one or short for one. Of the others a dash makes
flags too, but not of negative numbers and of texts with a space in them. -/
def standing (known : List Text) (argument : Text) : Standing :=
  if argument = "--".toList then .flag
  else if argument.head? = some '-' && argument != ['-'] then
    if known.contains (argument.takeWhile (· != '=')) then .flag
    else
      match candidates known argument with
      | [_] => .flag
      | [] => if isNegative argument || argument.contains ' ' then .value else .flag
      | flags => .ambiguous flags
  else .value

end Flags

end TexSplice.Command
