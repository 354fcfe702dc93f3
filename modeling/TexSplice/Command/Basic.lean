import TexSplice.Json.Printer
import TexSplice.Numeral.Integer
import TexSplice.Text.Lines
import TexSplice.Text.Written

/-! # What a command leaves behind -/
namespace TexSplice.Command

def usageExit : Nat := 2

structure Outcome where
  exitCode : Nat
  stdout : Text
  /-- The new document, if it is to be written to a file. -/
  output : Option Text := none
  /-- The lines for the log file, if there is one. -/
  log : Option Text := none
deriving DecidableEq

inductive UsageError where
  /-- What stands after a flag is no value. -/
  | noValue (flag : Text)
  /-- An argument is short for more than one flag. -/
  | ambiguous (given : Text) (flags : List Text)
  | badCursor (given : Text)
  /-- The selection is not two whole numbers with a colon between them. -/
  | badSelection (given : Text)
  | badRange (message : Text)
deriving Repr, DecidableEq

def UsageError.message : UsageError → Text
  | .noValue flag => "argument ".toList ++ flag ++ ": expected one argument".toList
  | .ambiguous given flags =>
    "ambiguous option: ".toList ++ given ++ " could match ".toList ++
      Text.join ", ".toList flags
  | .badCursor given => "argument --cursor: invalid int value: ".toList ++ Text.quoted given
  | .badSelection given =>
    "Selection must look like START:END, got ".toList ++ Text.quoted given
  | .badRange message => message

def printLines (ls : List Text) : Text := ls.flatMap fun l => l ++ ['\n']

end TexSplice.Command
