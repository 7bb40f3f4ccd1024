/-
Files by path. A path is a row of names, relative unless it has a root;
empty names and the name of the directory itself count for nothing, so
paths that differ in these only are one path.

A file holds octets. It is read as a whole, and written as a whole: it is
opened, which empties it, and then the text goes in. So a text without
octets leaves an empty file behind, and nothing else changes a file that
is not written; where a path cannot be opened nothing changes at all.
-/
import TildeFormat.Text.Utf8

namespace TildeFormat.CommandLine

-- =============================================================== paths

/-- A path. -/
structure Path where
  root : Text := []
  names : List Text
deriving DecidableEq

namespace Path

/-- The root a path starts with: none, one slash, or exactly two. -/
def rootOf : Text → Text
  | '/' :: '/' :: '/' :: _ => ['/']
  | '/' :: '/' :: _ => ['/', '/']
  | '/' :: _ => ['/']
  | _ => []

/-- The path a text names. -/
def ofText (t : Text) : Path where
  root := rootOf t
  names := (Text.splitAt '/' t).filter fun name =>
    !name.isEmpty && name != [.scalar '.']

/-- The text of a path. -/
def text (p : Path) : Text :=
  if p.root.isEmpty && p.names.isEmpty then ['.']
  else p.root ++ Text.join ['/'] p.names

/-- The paths that lead to a path, the outermost first. -/
def parents (p : Path) : List Path :=
  (List.range p.names.length).map fun count =>
    { p with names := p.names.take count }

/-- A path that leads to another one. -/
def leadsTo (p q : Path) : Bool :=
  p.root == q.root && p.names.isPrefixOf q.names
    && p.names.length < q.names.length

end Path

/-- Why a path names no file whatever there is. -/
inductive NameFault where
  | unencodable (fault : Utf8.EncodeFault)
  | null
deriving DecidableEq

/-- The text of a fault. -/
def NameFault.text : NameFault → Text
  | unencodable fault => fault.text
  | null => Text.ofString "embedded null byte"

/-- A half that no octet of a name stands for. The other halves stand for
the octets of a name that is not encoded text. -/
def isNoOctet (c : Character) : Bool :=
  c.isHalf && !(0xDC80 ≤ c.toNat && c.toNat ≤ 0xDCFF)

/-- What keeps a path from naming a file, if anything. -/
def Path.nameFault? (p : Path) : Option NameFault :=
  match Utf8.refusal? isNoOctet p.text with
  | some fault => some (.unencodable fault)
  | none => if p.text.contains '\x00' then some .null else none

-- =============================================================== files

/-- The files a program can see, each with its octets, and directories
there are besides those the files are in. -/
structure Files where
  entries : List (Path × Octets) := []
  directories : List Path := []

/-- What is wrong with a place among the files. -/
inductive PlaceFault where
  | missing
  | notDirectory
  | isDirectory
deriving DecidableEq

/-- A fault at a path. -/
def PlaceFault.text (path : Path) : PlaceFault → Text
  | missing =>
    Text.ofString "[Errno 2] No such file or directory: "
      ++ path.text.displayed
  | notDirectory =>
    Text.ofString "[Errno 20] Not a directory: " ++ path.text.displayed
  | isDirectory =>
    Text.ofString "[Errno 21] Is a directory: " ++ path.text.displayed

/-- Why what is at a path cannot be read. -/
inductive ReadFault where
  | isDirectory
  | undecodable (fault : Utf8.DecodeFault)
deriving DecidableEq

/-- Why a path cannot be opened for a text. -/
inductive OpenFault where
  | name (fault : NameFault)
  | place (fault : PlaceFault)
deriving DecidableEq

/-- Why a text cannot be written. -/
inductive WriteFault where
  | unopened (fault : OpenFault)
  | unencodable (fault : Utf8.EncodeFault)
deriving DecidableEq

namespace Files

/-- The octets of a file. -/
def contents? (files : Files) (path : Path) : Option Octets :=
  if path.nameFault?.isSome then none else files.entries.lookup path

/-- A directory: the one the program is in, the root, one a file is in,
or another one there is. -/
def isDirectory (files : Files) (path : Path) : Bool :=
  path.nameFault?.isNone
    && (path.names.isEmpty || files.entries.any (fun e => path.leadsTo e.1)
      || files.directories.any fun d => path == d || path.leadsTo d)

/-- Something is at a path. -/
def has (files : Files) (path : Path) : Bool :=
  (files.contents? path).isSome || files.isDirectory path

/-- The text of what is at a path. -/
def read (files : Files) (path : Path) : Except ReadFault Text :=
  match files.contents? path with
  | none => .error .isDirectory
  | some octets =>
    match Utf8.decode octets with
    | .error fault => .error (.undecodable fault)
    | .ok t => .ok t.unifyNewlines

/-- What a path leads through that is no directory, if anything. -/
def obstacle? (files : Files) (path : Path) : Option PlaceFault :=
  (path.parents.find? fun p => !files.isDirectory p).map fun p =>
    if (files.contents? p).isSome then .notDirectory else .missing

/-- What keeps a path from being opened for a text, if anything. -/
def openFault? (files : Files) (path : Path) : Option OpenFault :=
  match path.nameFault? with
  | some fault => some (.name fault)
  | none =>
    match files.obstacle? path with
    | some fault => some (.place fault)
    | none =>
      if files.isDirectory path then some (.place .isDirectory) else none

/-- Octets in the place of those a path had, or behind all others. -/
def put (path : Path) (octets : Octets) :
    List (Path × Octets) → List (Path × Octets)
  | [] => [(path, octets)]
  | (p, held) :: entries =>
    if p = path then (path, octets) :: entries
    else (p, held) :: put path octets entries

/-- The files with octets at a path. -/
def holding (files : Files) (path : Path) (octets : Octets) : Files :=
  { files with entries := put path octets files.entries }

/-- A text written to a path: why it is not, and the files afterwards. -/
def write (files : Files) (path : Path) (t : Text) :
    Option WriteFault × Files :=
  match files.openFault? path with
  | some fault => (some (.unopened fault), files)
  | none =>
    match Utf8.encode t with
    | .error fault =>
      (some (.unencodable fault), files.holding path [])
    | .ok octets => (none, files.holding path octets)

end Files

end TildeFormat.CommandLine
