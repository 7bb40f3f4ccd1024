/-
The registry: which directives there are. It keeps the specifications in
the order in which their keys first came, and for each kind the one
registered last, which is the one that renders it.

Look-up by character goes through the full upper-case mapping, so a
character can be found under a key of several characters.
-/
import TildeFormat.Directive.Spec
import TildeFormat.Settings
import TildeFormat.Text.Upper

namespace TildeFormat

/-- A set of directives. -/
structure Registry where
  specs : List Spec
  ofKind : Kind → Spec

namespace Registry

/-- The specifications with a new one in the place of its key, or at the
end when the key is new. -/
def place (spec : Spec) : List Spec → List Spec
  | [] => [spec]
  | s :: rest =>
    if s.key = spec.key then spec :: rest else s :: place spec rest

/-- The registry with one more specification. -/
def register (registry : Registry) (spec : Spec) : Registry where
  specs := place spec registry.specs
  ofKind kind :=
    if spec.kind = some kind then spec else registry.ofKind kind

/-- The specification under the capital form of a text. -/
def get? (registry : Registry) (t : Text) : Option Spec :=
  registry.specs.find? fun s => s.key = t.upper

/-- The slots of the directive under a character; a registry without it
has none. -/
def slots (registry : Registry) (c : Character) : List ParamSpec :=
  match registry.get? [c] with
  | some spec => spec.params
  | none => []

/-- The keys, in order. -/
def keys (registry : Registry) : List Text := registry.specs.map Spec.key

/-- The specifications of a category, in order. -/
def inCategory (registry : Registry) (category : Category) : List Spec :=
  registry.specs.filter fun s => s.category = category

-- ============================================================ built in

/-- The slots of padding: width, block size, least padding, character. -/
def paddingSlots : List ParamSpec :=
  [ ⟨"mincol", .integer, .integer 0, some 0⟩,
    ⟨"colinc", .integer, .integer 1, some 1⟩,
    ⟨"minpad", .integer, .integer 0, some 0⟩,
    ⟨"padchar", .character, .text [' '], some 0⟩ ]

/-- The slots of the integer directive; its separator and group size come
from the settings. -/
def decimalSlots (settings : Settings) : List ParamSpec :=
  [ ⟨"mincol", .integer, .integer 0, some 0⟩,
    ⟨"padchar", .character, .text [' '], some 0⟩,
    ⟨"commachar", .character, .text [settings.commaChar], some 0⟩,
    ⟨"comma-interval", .integer, .integer settings.commaInterval,
      some 1⟩ ]

/-- The slots of the fixed-point directive. -/
def fixedSlots : List ParamSpec :=
  [ ⟨"w", .integer, .absent, some 0⟩,
    ⟨"d", .integer, .absent, some 0⟩,
    ⟨"k", .integer, .integer 0, none⟩,
    ⟨"overflowchar", .character, .absent, some 0⟩,
    ⟨"padchar", .character, .text [' '], some 0⟩ ]

/-- The slot of a directive that repeats. -/
def countSlots : List ParamSpec :=
  [⟨"count", .integer, .integer 1, some 0⟩]

/-- The slot of an iteration. -/
def passesSlots : List ParamSpec :=
  [⟨"max-passes", .integer, .absent, some 0⟩]

/-- The slots of an escape. -/
def escapeSlots : List ParamSpec :=
  [ ⟨"a", .any, .absent, none⟩, ⟨"b", .any, .absent, none⟩,
    ⟨"c", .any, .absent, none⟩ ]

/-- Both modifiers. -/
def bothModifiers : Modifiers := ⟨true, true⟩

/-- The specification of a one-step directive. -/
def stepSpec (settings : Settings) : Kind → Spec
  | .human =>
    { key := ['A'], category := .printing
      description := "Print an argument in human-readable form"
      params := paddingSlots, modifiers := ⟨false, true⟩
      kind := some .human, action := some .human
      examples := ["~A", "~10A", "~10@A"] }
  | .machine =>
    { key := ['S'], category := .printing
      description :=
        "Print an argument in machine-readable form; strings are quoted"
      params := paddingSlots, modifiers := ⟨false, true⟩
      kind := some .machine, action := some .machine
      examples := ["~S", "~12S"] }
  | .decimal =>
    { key := ['D'], category := .numeric
      description := "Print an integer in base 10"
      params := decimalSlots settings, modifiers := bothModifiers
      kind := some .decimal, action := some .decimal
      examples := ["~D", "~5D", "~8,'0D", "~:D", "~10,'_:D"] }
  | .fixed =>
    { key := ['F'], category := .numeric
      description := "Print a number in fixed-point notation"
      params := fixedSlots, modifiers := ⟨false, true⟩
      kind := some .fixed, action := some .fixed
      examples := ["~F", "~,2F", "~8,3F", "~6,2,,'*F"] }
  | .skip =>
    { key := ['*'], category := .control
      description := "Skip arguments"
      params := countSlots
      kind := some .skip, action := some .skip
      examples := ["~*", "~2*"] }
  | .newline =>
    { key := ['%'], category := .control
      description := "Emit line breaks"
      params := countSlots
      kind := some .newline, action := some .newline
      examples := ["~%", "~2%"] }
  | .tilde =>
    { key := ['~'], category := .control
      description := "Emit the tilde character"
      params := countSlots
      kind := some .tilde, action := some .tilde
      examples := ["~~", "~3~"] }

/-- The directive that joins lines. -/
def continuationSpec : Spec where
  key := ['\n']
  category := .whitespace
  description :=
    "Ignore the line break and the indentation that follows it"
  modifiers := bothModifiers
  examples := ["~\n    "]

/-- The brackets, the separator and the escape. -/
def constructSpecs : List Spec :=
  [ { key := ['\x7b'], category := .structural
      description := "Iterate over a list argument "
        ++ "(or, with @, the remaining arguments)"
      params := passesSlots, modifiers := bothModifiers
      examples :=
        ["~\x7b~A~^, ~\x7d", "~@\x7b~A~\x7d", "~:\x7b~A=~A~^ ~\x7d"] },
    { key := ['\x7d'], category := .structural
      description := "Close an iteration; ~:\x7d runs at least one pass"
      modifiers := ⟨true, false⟩ },
    { key := ['<'], category := .structural
      description := "Justify text segments within a column width"
      params := paddingSlots, modifiers := bothModifiers
      examples := ["~10<~A~>", "~20<~A~;~A~>", "~11:@<~A~>"] },
    { key := ['>'], category := .structural
      description := "Close a justification" },
    { key := [';'], category := .structural
      description := "Separate justification segments" },
    { key := ['^'], category := .escape
      description := "Leave the enclosing iteration or justification "
        ++ "when no arguments remain"
      params := escapeSlots, modifiers := ⟨true, false⟩
      examples := ["~\x7b~A~^, ~\x7d", "~:\x7b~A~:^; ~\x7d"] } ]

/-- The built-in directives. -/
def builtin (settings : Settings) : Registry where
  specs :=
    [Kind.human, .machine, .decimal, .fixed, .skip, .newline, .tilde].map
        (stepSpec settings)
      ++ continuationSpec :: constructSpecs
  ofKind := stepSpec settings

/-- The built-in directives under the standard settings. -/
def standard : Registry := builtin .standard

end Registry

end TildeFormat
