/-
The libraries the program comes with: the reader of YAML, and the listing
for a terminal. A run is told of any libraries, so nothing but the program
itself depends on these.
-/
import TildeFormat.CommandLine.Libraries
import TildeFormat.Highlight.Terminal
import TildeFormat.Yaml

namespace TildeFormat.CommandLine

/-- What the reader of YAML refuses, as a failure to load. -/
def LoadFailure.ofRefusal : Yaml.Refusal → LoadFailure
  | .unreadable => .unreadable (word "not a document")
  | .fault fault =>
    .broken ⟨some fault.family, Text.ofString fault.message⟩

/-- The libraries the program comes with. -/
def Libraries.bundled : Libraries where
  load document := (Yaml.load document).mapError .ofRefusal
  listing := highlighted

end TildeFormat.CommandLine
