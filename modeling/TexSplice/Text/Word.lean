import TexSplice.Text.Basic
import TexSplice.Text.Class

/-! # Words

A text is trimmed of blanks and taken apart into words. In running text `offsetOfWord?` finds a
word that stands by itself; `hasPhrase` finds a phrase that begins a word and may go on with any
ending, so that a stem also finds its inflected forms. -/
namespace TexSplice.Text

/-! ## Between blanks -/

def trimStart (t : Text) : Text := t.dropWhile isBlank

def trimEnd (t : Text) : Text := (t.reverse.dropWhile isBlank).reverse

def trim (t : Text) : Text := trimEnd (trimStart t)

def allBlank (t : Text) : Bool := t.all isBlank

/-- The words of a text: what stands between runs of blanks. -/
def words (t : Text) : List Text := (pieces isBlank t).filter fun w => !w.isEmpty

/-! ## In running text -/

/-- Whether a word that starts with a word character could begin, or end, next to this
neighbour. -/
def atEdge (neighbour : Option Char) : Bool := !(neighbour.any isWordChar)

/-- Whether `word` stands by itself here: no word character on either side of it. -/
def wordHere (word : Text) (before : Option Char) (t : Text) : Bool :=
  atEdge before &&
    match after? word t with
    | some rest => atEdge rest.head?
    | none => false

def offsetOfWord? (word t : Text) : Option Nat := findOffset? (wordHere word) none t

def hasWord (t word : Text) : Bool := (offsetOfWord? word t).isSome

/-- Whether `phrase` starts here with no small Latin letter before it. -/
def phraseHere (phrase : Text) (before : Option Char) (t : Text) : Bool :=
  !(before.any fun c => decide ('a' ≤ c) && decide (c ≤ 'z')) && phrase.isPrefixOf t

def hasPhrase (t phrase : Text) : Bool := (findOffset? (phraseHere phrase) none t).isSome

end TexSplice.Text
