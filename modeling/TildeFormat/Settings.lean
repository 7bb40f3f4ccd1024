/-
Settings: the size of the template store, the separator and group size
that integers get where a template names none, and whether failures are
shown in full. The bounds they have to keep are part of the type.
-/
import TildeFormat.Text.Basic

namespace TildeFormat

/-- The settings of the library. -/
structure Settings where
  cacheMaxsize : Nat := 256
  commaChar : Character := ','
  commaInterval : Int := 3
  debugMode : Bool := false
  commaInterval_pos : 1 ≤ commaInterval := by decide

/-- The settings in force where nothing else is said. -/
def Settings.standard : Settings := {}

end TildeFormat
