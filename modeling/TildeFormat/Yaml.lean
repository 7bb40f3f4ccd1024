/-
Values in YAML. A document has one value, and an empty one stands for
nothing. The reader knows plain, quoted and folded scalars, lists and maps
in both styles, and comments. A document with an anchor, an alias, a tag,
a block scalar or a directive is unreadable to it.
-/
import TildeFormat.Yaml.Tree

namespace TildeFormat.Yaml

/-- The value of a document. -/
def load (document : Text) : Read Value := do
  let tokens ← Token.ofText document
  let tree ← readable (Tree.ofTokens? tokens)
  (tree.value 0).mapError Prod.snd

end TildeFormat.Yaml
