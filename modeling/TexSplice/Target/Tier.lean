import TexSplice.Outline.Basic

/-! # How well a section fits a name

A user names a section loosely. Three tiers of likeness are tried, the strictest first, and
within a tier the earliest section wins, so a looser likeness never beats a stricter one that
stands later in the document. -/
namespace TexSplice

/-- The tiers, from the strictest. -/
inductive Tier where
  | exact
  | contains
  /-- The words in common are all words of the name or at least half the words of the title. -/
  | wordOverlap
deriving Repr, DecidableEq

namespace Tier

def name : Tier → Text
  | exact => "exact".toList
  | contains => "contains".toList
  | wordOverlap => "word_overlap".toList

def all : List Tier := [exact, contains, wordOverlap]

def distinctWords (t : Text) : List Text := (Text.words t).eraseDups

/-- The different words of a title that a name has too. -/
def sharedWords (key target : Text) : List Text :=
  (distinctWords key).filter fun w => (distinctWords target).contains w

def fits : Tier → Text → Text → Bool
  | exact, key, target => key == target
  | contains, key, target => Text.includes key target || Text.includes target key
  | wordOverlap, key, target =>
    let shared := (sharedWords key target).length
    shared != 0 &&
      ((distinctWords target).length ≤ shared || (distinctWords key).length ≤ 2 * shared)

end Tier

namespace Outline

def firstFit? (o : Outline) (target : Text) (tier : Tier) : Option (Section × Tier) :=
  (o.sections.find? fun s => tier.fits s.heading.key target).map fun s => (s, tier)

/-- The section a name means, and the tier at which it fits. A blank name means none. -/
def find? (o : Outline) (name : Text) : Option (Section × Tier) :=
  let target := titleKey name
  if target.isEmpty then none else Tier.all.findSome? (o.firstFit? target)

end Outline

end TexSplice
