import BuildExpr.Item.Basic
import BuildExpr.Surroundings.World
import BuildExpr.Text.Escape

/-!
# Metadata values

The value of a metadata name of an item. A name that was set has the value it was set to; a
reserved name is computed from the unescaped include and escaped again; any other is empty.
-/

namespace BuildExpr

namespace Item

/-- The directory that the include is read from: that of the defining project. -/
def baseDirectory? (item : Item) : Option (List Char) :=
  item.definingProject.bind fun project => Path.directoryName? (Text.unescape project).toList

/-- The include without escapes. -/
def includePath (item : Item) : List Char := (Text.unescape item.spec).toList

/-- The full path that the include names. -/
def fullPath (w : World) (item : Item) : Except Fault (List Char) :=
  if item.includePath.isEmpty then .error .emptyInclude
  else Path.full w.current item.baseDirectory? item.includePath

/-- A part of the include, which has to be a valid path. -/
def includePart (item : Item) (part : List Char → List Char) : Except Fault (List Char) := do
  Path.validate item.includePath
  return part item.includePath

/-- A part of the last segment of a path, which is empty after a separator at the end. -/
def namePart (part : List Char → List Char) (p : List Char) : List Char :=
  if Path.endsWithSeparator p then [] else part p

/-- The directory part of a full path without the root. -/
def directoryWithoutRoot (p : List Char) : List Char :=
  (Path.directoryPart p).drop (Path.root p).length

/-- A time of the file that the include names, and nothing when there is no file. -/
def fileTime (w : World) (item : Item) (time : FileEntry → DateTime) :
    Except Fault (List Char) := do
  let p ← item.fullPath w
  return match w.files.find w.current p with
    | .ok e => (time e).stampText.toList
    | .error _ => []

/-- A part of the path of the defining project, and nothing when there is none. -/
def projectPart (item : Item) (part : List Char → Except Fault (List Char)) :
    Except Fault (List Char) :=
  match item.definingProject with
  | some project => part (Text.unescape project).toList
  | none => .ok []

/-- The directory of a full path, with a separator at the end. -/
def directoryOfFull (p : List Char) : List Char :=
  Path.withTrailingSlash ((Path.directoryName? p).getD p)

/-- The value that was set for a name, or the empty text. -/
def customMetadata (item : Item) (name : String) : String := (item.metadata.get? name).getD ""

/-- The plain value of a computed metadata name, for those that are escaped afterwards. -/
def computed (w : World) (item : Item) : Reserved → Except Fault (List Char)
  | .fullPath => item.fullPath w
  | .rootDir => do return Path.withTrailingSlash (Path.root (← item.fullPath w))
  | .filename => item.includePart (namePart Path.stem)
  | .extension => item.includePart (namePart Path.extension)
  | .relativeDir => item.includePart Path.directoryPart
  | .directory => do return directoryWithoutRoot (← item.fullPath w)
  | .recursiveDir | .identity => .ok []
  | .modifiedTime => item.fileTime w FileEntry.modified
  | .createdTime => item.fileTime w FileEntry.created
  | .accessedTime => item.fileTime w FileEntry.accessed
  | .definingProjectFullPath => item.projectPart (Path.full w.current none)
  | .definingProjectDirectory =>
    item.projectPart fun p => do return directoryOfFull (← Path.full w.current none p)
  | .definingProjectName => item.projectPart fun p => .ok (Path.stem p)
  | .definingProjectExtension => item.projectPart fun p => .ok (Path.extension p)

/-- The value of a reserved name in escaped form. -/
def reservedMetadata (w : World) (item : Item) : Reserved → Except Fault String
  | .identity => .ok item.spec
  | .recursiveDir => .ok (item.customMetadata Reserved.recursiveDir.name)
  | name => do return Text.escape (String.ofList (← item.computed w name))

/-- The value of a metadata name in escaped form. -/
def metadataValue (w : World) (item : Item) (name : String) : Except Fault String :=
  match Reserved.ofName? name with
  | some reserved => item.reservedMetadata w reserved
  | none => .ok (item.customMetadata name)

/-- The value of a metadata name that may be qualified by an item type. Another type than that
of the item has no values. -/
def qualifiedMetadata (w : World) (item : Item) (itemType : Option String) (name : String) :
    Except Fault String :=
  match itemType with
  | some t => if Text.eqIgnoreCase t item.itemType then item.metadataValue w name else .ok ""
  | none => item.metadataValue w name

end Item

end BuildExpr
