import BuildExpr.Item.Basic

/-!
# Scopes

A scope holds properties and lists of items. The scopes of a lookup are stacked: the innermost
that has a property or a list of items of a type hides all that are further out.
-/

namespace BuildExpr

/-- Properties in escaped form, and items by type. -/
structure Scope where
  properties : NameMap String := {}
  items : NameMap (List Item) := {}
  deriving DecidableEq, Inhabited

namespace Scope

/-- Sets a property. -/
def setProperty (s : Scope) (name value : String) : Scope :=
  { s with properties := s.properties.insert name value }

/-- Adds an item after the others of its type. -/
def addItem (s : Scope) (item : Item) : Scope :=
  let before := (s.items.get? item.itemType).getD []
  { s with items := s.items.insert item.itemType (before ++ [item]) }

/-- The value of a property. -/
def property? (s : Scope) (name : String) : Option String := s.properties.get? name

/-- The items of a type. -/
def items? (s : Scope) (itemType : String) : Option (List Item) := s.items.get? itemType

/-- An item as a scope document lists it below its type. -/
structure ItemSpec where
  spec : String
  metadata : List (String × String) := []
  definingProject : Option String := none

/-- The item of a type that a document describes. -/
def ItemSpec.toItem (itemType : String) (s : ItemSpec) : Item :=
  let item : Item := { itemType, spec := s.spec, definingProject := s.definingProject }
  item.setAllMetadata s.metadata

/-- The scope that a document of properties and item lists describes. -/
def ofDocument (properties : List (String × String)) (items : List (String × List ItemSpec)) :
    Scope :=
  let named := properties.foldl (fun s (name, value) => s.setProperty name value) {}
  items.foldl (fun s (itemType, specs) =>
    specs.foldl (fun s spec => s.addItem (spec.toItem itemType)) s) named

end Scope

/-- Where references are looked up. -/
structure Lookup where
  /-- The scopes, the innermost first. -/
  scopes : List Scope := []
  /-- The item that answers metadata references outside of item lists. -/
  metadataItem : Option Item := none
  deriving DecidableEq, Inhabited

namespace Lookup

/-- Puts a scope in front of the others. -/
def push (l : Lookup) (s : Scope) : Lookup := { l with scopes := s :: l.scopes }

/-- Takes the innermost scope away. -/
def pop (l : Lookup) : Lookup := { l with scopes := l.scopes.tail }

/-- The value of a property in escaped form. -/
def property? (l : Lookup) (name : String) : Option String :=
  l.scopes.findSome? fun s => s.property? name

/-- The items of a type, none when no scope has any. -/
def items (l : Lookup) (itemType : String) : List Item :=
  (l.scopes.findSome? fun s => s.items? itemType).getD []

end Lookup

end BuildExpr
