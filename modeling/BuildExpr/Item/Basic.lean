import BuildExpr.NameMap
import BuildExpr.Text.Case
import BuildExpr.Text.Quoted

/-!
# Items

An item has a type, an include and metadata, all kept in escaped form, and may know the project
file that defines it. Some metadata are there for every item: these names are computed from its
include, from the file it names and from the project that defines it. They cannot be set, with the
exception of `RecursiveDir`.
-/

namespace BuildExpr

/-! ## Metadata that every item has -/

/-- A metadata name with a computed value. -/
inductive Reserved
  | fullPath
  | rootDir
  | filename
  | extension
  | relativeDir
  | directory
  | recursiveDir
  | identity
  | modifiedTime
  | createdTime
  | accessedTime
  | definingProjectFullPath
  | definingProjectDirectory
  | definingProjectName
  | definingProjectExtension
  deriving DecidableEq

namespace Reserved

/-- The spelling of a name. -/
def name : Reserved → String
  | fullPath => "FullPath"
  | rootDir => "RootDir"
  | filename => "Filename"
  | extension => "Extension"
  | relativeDir => "RelativeDir"
  | directory => "Directory"
  | recursiveDir => "RecursiveDir"
  | identity => "Identity"
  | modifiedTime => "ModifiedTime"
  | createdTime => "CreatedTime"
  | accessedTime => "AccessedTime"
  | definingProjectFullPath => "DefiningProjectFullPath"
  | definingProjectDirectory => "DefiningProjectDirectory"
  | definingProjectName => "DefiningProjectName"
  | definingProjectExtension => "DefiningProjectExtension"

/-- All of them. -/
def all : List Reserved :=
  [fullPath, rootDir, filename, extension, relativeDir, directory, recursiveDir, identity,
    modifiedTime, createdTime, accessedTime, definingProjectFullPath, definingProjectDirectory,
    definingProjectName, definingProjectExtension]

/-- The computed metadata with a name, in any case of letters. -/
def ofName? (name : String) : Option Reserved :=
  all.find? fun r => Text.eqIgnoreCase r.name name

/-- Whether a name may be set. -/
def isSettable (name : String) : Bool :=
  match ofName? name with
  | none | some recursiveDir => true
  | some _ => false

end Reserved

/-! ## Items -/

/-- An item. -/
structure Item where
  itemType : String
  /-- The include in escaped form. -/
  spec : String
  /-- The metadata that were set, in escaped form. -/
  metadata : NameMap String := {}
  definingProject : Option String := none
  deriving DecidableEq, Inhabited

namespace Item

/-- Sets a metadata value, unless the name is reserved. -/
def setMetadata (item : Item) (name value : String) : Item :=
  if Reserved.isSettable name then { item with metadata := item.metadata.insert name value }
  else item

/-- Removes a metadata value. -/
def removeMetadata (item : Item) (name : String) : Item :=
  { item with metadata := item.metadata.erase name }

/-- Removes all metadata values. -/
def clearMetadata (item : Item) : Item := { item with metadata := {} }

/-- Sets metadata values in turn. -/
def setAllMetadata (item : Item) (entries : List (String × String)) : Item :=
  entries.foldl (fun item (name, value) => item.setMetadata name value) item

/-- Whether a metadata value was set. -/
def hasMetadata (item : Item) (name : String) : Bool := item.metadata.contains name

/-- The item with another type and include. -/
def derive (item : Item) (itemType spec : String) : Item := { item with itemType, spec }

/-- Whether two items have the same type, include, metadata and project, where the order of the
metadata does not matter. -/
def same (a b : Item) : Bool :=
  a.itemType == b.itemType && a.spec == b.spec &&
    a.definingProject == b.definingProject &&
    a.metadata.entries.length == b.metadata.entries.length &&
    a.metadata.entries.all fun (name, value) => b.metadata.entry? name == some (name, value)

/-- The item as shown to developers. -/
def describe (item : Item) : String :=
  let shown := item.metadata.entries.map fun (name, value) =>
    "(" ++ Text.quoted name ++ ", " ++ Text.quoted value ++ ")"
  "Item \x7b item_type: " ++ Text.quoted item.itemType ++ ", include: " ++
    Text.quoted item.spec ++ ", metadata: [" ++ Text.join ", " shown ++ "] \x7d"

end Item

/-- Makes the items of an expansion: copies of the items they come from, of a given type or of
the type they had. -/
structure ItemFactory where
  itemType : Option String := none
  deriving DecidableEq, Inhabited

/-- A new item with an include, made from an item if it comes from one. -/
def ItemFactory.create (factory : ItemFactory) (spec : String) (source : Option Item)
    (project : Option String) : Item :=
  match source with
  | some source =>
    let item := source.derive (factory.itemType.getD source.itemType) spec
    { item with definingProject := project <|> item.definingProject }
  | none => { itemType := factory.itemType.getD "", spec, definingProject := project }

end BuildExpr
