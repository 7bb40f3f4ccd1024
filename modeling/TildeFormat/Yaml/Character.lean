/-
The characters of a document: which may stand in one at all, which end a
line and which end a word, and how a line end between two words counts.
-/
import TildeFormat.Text.Basic

namespace TildeFormat.Yaml

/-- A character that may stand in a document. -/
def isAllowed (c : Character) : Bool :=
  let n := c.toNat
  n = 0x09 || n = 0x0A || n = 0x0D || (0x20 ≤ n && n ≤ 0x7E) || n = 0x85
    || (0xA0 ≤ n && n ≤ 0xD7FF) || (0xE000 ≤ n && n ≤ 0xFFFD)
    || 0x10000 ≤ n

/-- A document with line ends of every kind as line feeds, but for the
two separators of lines and paragraphs, which stay what they are. -/
def unifyLines (t : Text) : Text :=
  (Text.unifyNewlines t).map fun c => if c.toNat = 0x85 then '\n' else c

/-- A character that ends a line. -/
def endsLine (c : Character) : Bool :=
  c = '\n' || c.toNat = 0x2028 || c.toNat = 0x2029

/-- A character that ends a word. -/
def endsWord (c : Character) : Bool := c = ' ' || c = '\t' || endsLine c

/-- Nothing, or a character that ends a word, comes next. -/
def atWordEnd : Text → Bool
  | [] => true
  | c :: _ => endsWord c

/-- A text that starts with a mark that stands as a word. -/
def startsWithMark (mark : String) (t : Text) : Bool :=
  (Text.ofString mark).isPrefixOf t && atWordEnd (t.drop mark.length)

/-- A line that starts or ends a document. -/
def isDocumentLine (t : Text) : Bool :=
  startsWithMark "---" t || startsWithMark "..." t

/-- What the line ends between two words count as: one line feed is a
space, more are one less, and the separators stay. -/
def foldLines (first : Character) (more : Text) : Text :=
  if first != '\n' then first :: more
  else if more.isEmpty then [' ']
  else more

end TildeFormat.Yaml
