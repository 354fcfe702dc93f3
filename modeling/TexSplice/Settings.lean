import TexSplice.Fault
import TexSplice.Numeral.Reading

/-! # Settings

What can be set from outside by environment variables. A variable that is set to nothing counts
as set. -/
namespace TexSplice

abbrev Environment := List (Text × Text)

/-- The settings of the generator and of its requests. -/
structure Settings where
  model : Text
  temperature : Float
  cacheFolder : Text
  /-- The least number of seconds between two requests. -/
  minDelay : Numeral.Reading

namespace Settings

def defaultModel : Text := "mistral-large-latest".toList

def defaultTemperature : Float := 0.2

def defaultCacheFolder : Text := "cache".toList

/-- How often an empty reply is asked for again before a session gives up. -/
def maxAttempts : Int := 3

def ofEnvironment (env : Environment) : Except Fault Settings :=
  let delay := (env.lookup "LATEX_EDIT_MIN_DELAY".toList).getD "1.0".toList
  match Numeral.reading? delay with
  | none => .error (.notANumber delay)
  | some minDelay =>
    .ok
      { model := (env.lookup "MISTRAL_MODEL".toList).getD defaultModel
        temperature := defaultTemperature
        cacheFolder := (env.lookup "LATEX_EDIT_CACHE_DIR".toList).getD defaultCacheFolder
        minDelay }

end Settings

end TexSplice
