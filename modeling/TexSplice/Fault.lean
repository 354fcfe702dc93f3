import TexSplice.Text.Written
import TexSplice.Numeral.Integer

/-! # What can go wrong

Every cause of a failure, and in one place what is said about it. -/
namespace TexSplice

inductive FaultKind where
  /-- Something outside did not do its work. -/
  | service
  | value
  /-- A name under which nothing is stored. -/
  | missing
  | type
  | system
  | overflow
  | other
deriving Repr, DecidableEq

inductive Vocabulary where
  | action
  | placement
  | level
deriving Repr, DecidableEq

def Vocabulary.title : Vocabulary → Text
  | .action => "EditAction".toList
  | .placement => "InsertionPoint".toList
  | .level => "SectionLevel".toList

inductive Fault where
  /-- The offsets of an element of the outline are no span. -/
  | badOffsets (start stop : Int)
  /-- The bounds of a selection or of a changed range are no span. -/
  | badRange (start stop : Int)
  /-- An outline is used with a text of another length than the one it was made from. -/
  | staleOutline
  | brokenBoundary (title : Text) (start stop : Nat)
  | unknownWord (vocabulary : Vocabulary) (given : Text)
  | noApiKey
  | notANumber (given : Text)
  /-- A double star that is not alone between slashes. -/
  | badPattern
  | zeroInName
  /-- A pause that has doubled too often. -/
  | endlessPause
  | noStrategy
  | requestFailed (reason : Text)
  | noReply (attempts : Int)
  | reported (kind : FaultKind) (message : Text)
deriving Repr, DecidableEq

namespace Fault

def kind : Fault → FaultKind
  | badOffsets .. | badRange .. | staleOutline | unknownWord .. | noApiKey | notANumber _
  | badPattern | zeroInName => .value
  | endlessPause => .overflow
  | brokenBoundary .. | noStrategy | requestFailed _ | noReply _ => .service
  | reported k _ => k

def bounds (startName stopName : String) (start stop : Int) : Text :=
  startName.toList ++ '=' :: Numeral.ofInt start ++ ", ".toList ++ stopName.toList ++
    '=' :: Numeral.ofInt stop

def message : Fault → Text
  | badOffsets start stop =>
    "Invalid element offsets: ".toList ++ bounds "char_start" "char_end" start stop
  | badRange start stop => "Invalid range: ".toList ++ bounds "start" "end" start stop
  | staleOutline =>
    "DocumentIndex was built from a different text; rescan before locating".toList
  | brokenBoundary title start stop =>
    "Boundary for '".toList ++ title ++ "' (".toList ++ Numeral.ofNat start ++
      '-' :: Numeral.ofNat stop ++ ") does not reconstruct the document".toList
  | unknownWord vocabulary given =>
    Text.quoted given ++ " is not a valid ".toList ++ vocabulary.title
  | noApiKey => "MISTRAL_API_KEY environment variable is required".toList
  | notANumber given => "could not convert string to float: ".toList ++ Text.quoted given
  | badPattern => "Invalid pattern: '**' can only be an entire path component".toList
  | zeroInName => "embedded null byte".toList
  | endlessPause => "(34, 'Numerical result out of range')".toList
  | noStrategy => "No apply strategy produced a result".toList
  | requestFailed reason => "Generation service call failed: ".toList ++ reason
  | noReply attempts =>
    "Generation service returned an empty reply after ".toList ++ Numeral.ofInt attempts ++
      " attempts".toList
  | reported .missing m => Text.quoted m
  | reported _ m => m

end Fault

end TexSplice
