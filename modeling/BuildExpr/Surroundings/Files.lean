import BuildExpr.Calendar.DateTime
import BuildExpr.Path.Basic
import BuildExpr.Text.Utf8

/-!
# Files

The files and directories that expressions can see. A place is the list of names from the root
down; every operation first walks a path to its place, through directories that exist.
-/

namespace BuildExpr

/-- The names from the root down to a file or directory. -/
abbrev Place := List (List Char)

/-- What there is at a place. -/
inductive Node
  | directory
  | file (contents : List UInt8)
  deriving DecidableEq

/-- A file or directory with its times. -/
structure FileEntry where
  node : Node
  created : DateTime
  modified : DateTime
  accessed : DateTime
  deriving DecidableEq

/-- Whether an entry is a directory. -/
def FileEntry.isDirectory (e : FileEntry) : Bool := e.node == .directory

/-- The files and directories below the root, which is always there. -/
structure FileSystem where
  entries : List (Place × FileEntry) := []
  /-- The times of the root and of all that is written. -/
  now : DateTime
  deriving DecidableEq

namespace FileSystem

/-- A new entry. -/
def newEntry (fs : FileSystem) (node : Node) : FileEntry :=
  { node, created := fs.now, modified := fs.now, accessed := fs.now }

/-- The entry at a place. -/
def entry? (fs : FileSystem) (place : Place) : Option FileEntry :=
  if place.isEmpty then some (fs.newEntry .directory)
  else (fs.entries.find? fun (q, _) => q == place).map Prod.snd

/-- Puts an entry at a place. -/
def put (fs : FileSystem) (place : Place) (e : FileEntry) : FileSystem :=
  { fs with entries := (fs.entries.filter fun (q, _) => q != place) ++ [(place, e)] }

/-- Makes a directory at a place, unless something is there. -/
def makeDirectory (fs : FileSystem) (place : Place) : FileSystem :=
  if (fs.entry? place).isSome then fs else fs.put place (fs.newEntry .directory)

/-- Puts an entry at a place below directories, which are made where they are missing. -/
def putBelow (fs : FileSystem) (place : Place) (e : FileEntry) : FileSystem :=
  let above := (List.range place.length).map place.take
  (above.foldl makeDirectory fs).put place e

/-- The longest name of a file, in bytes. -/
def nameLimit : Nat := 255

/-- One step of a walk. Only directories can be walked through. -/
def step (fs : FileSystem) (place : Place) (name : List Char) : Except FileFault Place :=
  match fs.entry? place with
  | none => .error .notFound
  | some e =>
    if !e.isDirectory then .error .notDirectory
    else if name == [] || name == ['.'] then .ok place
    else if name == ['.', '.'] then .ok place.dropLast
    else if nameLimit < Chars.byteLength name then .error .nameTooLong
    else .ok (place ++ [name])

/-- The place a path leads to from a directory. Nothing need be at the place itself, but the
path must lead through directories, also where it ends with a separator; so there is a
directory above the place. -/
def walk (fs : FileSystem) (current p : List Char) : Except FileFault Place :=
  if p.isEmpty then .error .notFound
  else if p.contains '\x00' then .error .nulInName
  else if pathLimit ≤ Chars.byteLength p then .error .nameTooLong
  else
    let start := if Path.isRooted p then [] else Path.names current
    (Chars.splitOn '/' p).foldlM fs.step start

/-- The entry a path leads to. -/
def find (fs : FileSystem) (current p : List Char) : Except FileFault FileEntry := do
  let place ← fs.walk current p
  match fs.entry? place with
  | some e => return e
  | none => .error .notFound

/-- Whether a path leads to anything. -/
def exists? (fs : FileSystem) (current p : List Char) : Bool := (fs.find current p).isOk

/-- Whether a path leads to a directory. -/
def isDirectory (fs : FileSystem) (current p : List Char) : Bool :=
  match fs.find current p with
  | .ok e => e.isDirectory
  | .error _ => false

/-- Whether a path leads to a file. -/
def isFile (fs : FileSystem) (current p : List Char) : Bool :=
  match fs.find current p with
  | .ok e => !e.isDirectory
  | .error _ => false

/-- The text in a file. -/
def readText (fs : FileSystem) (current p : List Char) : Except FileFault String := do
  match (← fs.find current p).node with
  | .directory => .error .isDirectory
  | .file contents =>
    match Utf8.decode contents with
    | .ok text => return String.ofList text
    | .error _ => .error .notUtf8

/-- Writes a text to a file, which is made if there is none. A path that ends with a separator
names a directory and cannot be written. -/
def writeText (fs : FileSystem) (current p : List Char) (text : String) :
    Except FileFault FileSystem := do
  let bare := Chars.dropEndWhile (· == '/') p
  let place ← fs.walk current (if bare.isEmpty then p else bare)
  match fs.entry? place with
  | some e =>
    if e.isDirectory || bare != p then .error .isDirectory
    else return fs.put place { e with node := .file (Utf8.encode text.toList), modified := fs.now }
  | none =>
    if bare != p then .error .isDirectory
    else return fs.put place (fs.newEntry (.file (Utf8.encode text.toList)))

/-- The names in a directory, with the entries they stand for. -/
def list (fs : FileSystem) (place : Place) : List (List Char × FileEntry) :=
  fs.entries.filterMap fun (q, e) =>
    match q.getLast? with
    | some name => if q.dropLast == place then some (name, e) else none
    | none => none

end FileSystem

end BuildExpr
