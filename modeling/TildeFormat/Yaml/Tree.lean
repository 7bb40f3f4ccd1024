/-
The tree of a document: scalars, lists and maps, with or without
brackets alike. Whatever may be left out, the value behind a dash or a
colon or the key in front of one, is the empty scalar.

The readers of a list or a map take its entries one by one and give the
tokens after it. Each of them hands on one less step than it has, and a
document has steps enough for all its tokens: no more than two readers
in a row leave the tokens as they are.
-/
import TildeFormat.Value.Equality
import TildeFormat.Yaml.Scalar
import TildeFormat.Yaml.Token

namespace TildeFormat.Yaml

/-- A tree. -/
inductive Tree where
  | scalar (plain : Bool) (text : Text)
  | list (items : List Tree)
  | map (entries : List (Tree × Tree))

namespace Tree

/-- What is left out. -/
def empty : Tree := scalar true []

/-- A reader of a tree, or of what is in one, and the tokens after it. -/
abbrev Reading (α : Type) := List Token → Option (α × List Token)

/-- A tree, or the empty one when a token comes next before which a tree
may be left out. -/
def orEmpty (stops : List Token) (read : Reading Tree) : Reading Tree
  | token :: rest =>
    if stops.contains token then some (empty, token :: rest)
    else read (token :: rest)
  | [] => none

/-- A tree behind a colon; without a colon it is left out. -/
def afterColon (stops : List Token) (read : Reading Tree) : Reading Tree
  | .value :: rest => orEmpty stops read rest
  | tokens => some (empty, tokens)

/-- The tokens of an entry in brackets: those behind the comma, which has
to be there unless the entry is the first one. -/
def afterComma? (first : Bool) (tokens : List Token) :
    Option (List Token) :=
  if first then some tokens
  else
    match tokens with
    | .comma :: rest => some rest
    | _ => none

-- ============================================================= reading

mutual

/-- A tree. A list without brackets may stand undented where `undented`
allows it, and is then only as long as its dashes go on. -/
def read (undented : Bool) : Nat → Reading Tree
  | 0, _ => none
  | steps + 1, tokens =>
    match tokens with
    | .scalar plain text :: rest => some (scalar plain text, rest)
    | .listStart :: rest =>
      (readItems steps rest).map fun (items, rest) => (list items, rest)
    | .mapStart :: rest =>
      (readEntries steps rest).map fun (items, rest) => (map items, rest)
    | .listOpen :: rest =>
      (readListed true steps rest).map fun (items, rest) =>
        (list items, rest)
    | .mapOpen :: rest =>
      (readMapped true steps rest).map fun (items, rest) =>
        (map items, rest)
    | .entry :: rest =>
      if undented then
        (readUndented steps (.entry :: rest)).map fun (items, rest) =>
          (list items, rest)
      else none
    | _ => none

/-- The items of a list without brackets. -/
def readItems : Nat → Reading (List Tree)
  | 0, _ => none
  | steps + 1, tokens =>
    match tokens with
    | .entry :: rest => do
      let (item, rest) ←
        orEmpty [.entry, .blockEnd] (read false steps) rest
      let (items, rest) ← readItems steps rest
      some (item :: items, rest)
    | .blockEnd :: rest => some ([], rest)
    | _ => none

/-- The items of a list that stands undented in a map. -/
def readUndented : Nat → Reading (List Tree)
  | 0, _ => none
  | steps + 1, tokens =>
    match tokens with
    | .entry :: rest => do
      let (item, rest) ←
        orEmpty [.entry, .key, .value, .blockEnd] (read false steps) rest
      let (items, rest) ← readUndented steps rest
      some (item :: items, rest)
    | _ => some ([], tokens)

/-- The entries of a map without brackets. -/
def readEntries : Nat → Reading (List (Tree × Tree))
  | 0, _ => none
  | steps + 1, tokens =>
    match tokens with
    | .key :: rest => do
      let stops : List Token := [.key, .value, .blockEnd]
      let (key, rest) ← orEmpty stops (read true steps) rest
      let (value, rest) ← afterColon stops (read true steps) rest
      let (entries, rest) ← readEntries steps rest
      some ((key, value) :: entries, rest)
    | .blockEnd :: rest => some ([], rest)
    | _ => none

/-- The items of a list in brackets. An item may be a single entry of a
map. -/
def readListed (first : Bool) : Nat → Reading (List Tree)
  | 0, _ => none
  | _ + 1, .listClose :: rest => some ([], rest)
  | steps + 1, tokens => do
    match ← afterComma? first tokens with
    | .listClose :: rest => some ([], rest)
    | .key :: rest =>
      let (key, rest) ←
        orEmpty [.value, .comma, .listClose] (read false steps) rest
      let (value, rest) ←
        afterColon [.comma, .listClose] (read false steps) rest
      let (items, rest) ← readListed false steps rest
      some (map [(key, value)] :: items, rest)
    | tokens =>
      let (item, rest) ← read false steps tokens
      let (items, rest) ← readListed false steps rest
      some (item :: items, rest)

/-- The entries of a map in brackets. -/
def readMapped (first : Bool) : Nat → Reading (List (Tree × Tree))
  | 0, _ => none
  | _ + 1, .mapClose :: rest => some ([], rest)
  | steps + 1, tokens => do
    match ← afterComma? first tokens with
    | .mapClose :: rest => some ([], rest)
    | .key :: rest =>
      let (key, rest) ←
        orEmpty [.value, .comma, .mapClose] (read false steps) rest
      let (value, rest) ←
        afterColon [.comma, .mapClose] (read false steps) rest
      let (entries, rest) ← readMapped false steps rest
      some ((key, value) :: entries, rest)
    | tokens =>
      let (key, rest) ← read false steps tokens
      let (entries, rest) ← readMapped false steps rest
      some ((key, empty) :: entries, rest)

end

/-- The tree of the tokens of one document, which may be marked at its
start and end. -/
def ofTokens? (tokens : List Token) : Option Tree := do
  let steps := 3 * tokens.length + 3
  let (tree, rest) ←
    match tokens with
    | [] => some (empty, [])
    | [.documentStart] => some (empty, [])
    | .documentStart :: rest =>
      orEmpty [.documentStart, .documentEnd] (read false steps) rest
    | tokens => read false steps tokens
  if rest.all (· == .documentEnd) then some tree else none

-- ============================================================== levels

/-- Something taken from a tree, or why it is not there and how deep that
shows: a tree is gone through level by level. -/
abbrev Levelled (α : Type) := Except (Nat × Refusal) α

/-- Two things taken one after the other. Of two refusals the one that
shows first counts. -/
def both {α β : Type} (a : Levelled α) (b : Levelled β) :
    Levelled (α × β) :=
  match a, b with
  | .ok x, .ok y => .ok (x, y)
  | .ok _, .error f => .error f
  | .error e, .ok _ => .error e
  | .error e, .error f => .error (if f.1 < e.1 then f else e)

/-- All of several things taken in order. -/
def all {α : Type} : List (Levelled α) → Levelled (List α)
  | [] => .ok []
  | a :: rest => (both a (all rest)).map fun (x, xs) => x :: xs

-- =============================================================== value

/-- Two keys are the same. There is only one key that is not a number. -/
def sameKey : Value → Value → Bool
  | .float .nan, .float .nan => true
  | a, b => a.same b

/-- The value of a key at a level. A list or map is no key. -/
def keyValue (level : Nat) : Tree → Levelled Value
  | scalar false t => .ok (.str t)
  | scalar true t =>
    if t == valueWord then .ok (.str t)
    else (plainValue t).mapError fun refusal => (level, refusal)
  | _ => .error (level, .unreadable)

/-- A key that takes over the entries of other maps. -/
def isMerge : Tree → Bool
  | scalar true t => t == mergeWord
  | _ => false

/-- Entries of a map, each as far as it has a key and value. -/
abbrev Entries := List (Levelled (Value × Value))

mutual

/-- The value of a tree at a level. -/
def value (level : Nat) : Tree → Levelled Value
  | scalar true t => (plainValue t).mapError fun refusal => (level, refusal)
  | scalar false t => .ok (.str t)
  | list items => (all (itemValues (level + 1) items)).map .list
  | map entries =>
    match entryValues? (level + 1) entries with
    | some (merged, own) =>
      (all (merged ++ own)).map (Value.mapOfPairs sameKey)
    | none => .error (level + 1, .unreadable)

/-- The values of the items of a list. -/
def itemValues (level : Nat) : List Tree → List (Levelled Value)
  | [] => []
  | item :: items => value level item :: itemValues level items

/-- The entries of a map: those it takes over, and its own. -/
def entryValues? (level : Nat) :
    List (Tree × Tree) → Option (Entries × Entries)
  | [] => some ([], [])
  | (k, v) :: entries => do
    let (merged, own) ← entryValues? level entries
    if isMerge k then
      let first ← mergedValues? level v
      some (first ++ merged, own)
    else some (merged, both (keyValue level k) (value level v) :: own)

/-- The entries a map takes over from another or from a list of
others. -/
def mergedValues? (level : Nat) : Tree → Option Entries
  | map entries =>
    (entryValues? level entries).map fun (merged, own) => merged ++ own
  | list items => mergedItems? level items
  | scalar _ _ => none

/-- The entries taken over from the maps of a list. Those of an earlier
one come later, so that they win. -/
def mergedItems? (level : Nat) : List Tree → Option Entries
  | [] => some []
  | map entries :: items => do
    let (merged, own) ← entryValues? level entries
    let later ← mergedItems? level items
    some (later ++ (merged ++ own))
  | _ :: _ => none

end

end Tree

end TildeFormat.Yaml
