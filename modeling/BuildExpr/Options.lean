import BuildExpr.Text.Blank
import BuildExpr.Text.Case
import BuildExpr.Text.Search

/-!
# Expansion options

Which kinds of references an expansion evaluates; a kind that is not requested is copied as
plain text. An option set is written as names between `|` or `,`.
-/

namespace BuildExpr

/-- A set of expansion options. -/
structure Options where
  /-- Evaluate `$(...)`. -/
  properties : Bool := false
  /-- Evaluate `@(...)`. -/
  items : Bool := false
  /-- Evaluate `%(...)`. -/
  metadata : Bool := false
  /-- Shorten long property values and item lists. -/
  truncate : Bool := false
  deriving DecidableEq, Inhabited, Repr

namespace Options

/-- No option. -/
def empty : Options := {}

/-- All three kinds of references, nothing shortened. -/
def all : Options := { properties := true, items := true, metadata := true }

/-- The options of either set. -/
def union (a b : Options) : Options where
  properties := a.properties || b.properties
  items := a.items || b.items
  metadata := a.metadata || b.metadata
  truncate := a.truncate || b.truncate

/-- The options of both sets. -/
def inter (a b : Options) : Options where
  properties := a.properties && b.properties
  items := a.items && b.items
  metadata := a.metadata && b.metadata
  truncate := a.truncate && b.truncate

/-- The options that a set lacks. -/
def compl (a : Options) : Options where
  properties := !a.properties
  items := !a.items
  metadata := !a.metadata
  truncate := !a.truncate

/-- The options of the first set that are not in the second. -/
def diff (a b : Options) : Options := a.inter b.compl

/-- Whether a set is non-empty and all its options are in `a`. -/
def contains (a b : Options) : Bool := b != empty && a.inter b == b

/-- Whether at least one kind of references is requested. -/
def expandsAnything (a : Options) : Bool := a.properties || a.items || a.metadata

/-- The set as a number, one bit an option. -/
def bits (a : Options) : Nat :=
  a.properties.toNat + 2 * a.items.toNat + 4 * a.metadata.toNat + 8 * a.truncate.toNat

/-- The names of the options of a set, in a fixed order. -/
def names (a : Options) : List String :=
  (if a.properties then ["ExpandProperties"] else []) ++
    (if a.items then ["ExpandItems"] else []) ++
    (if a.metadata then ["ExpandMetadata"] else []) ++
    (if a.truncate then ["Truncate"] else [])

/-- The set as text. -/
def render (a : Options) : String :=
  match a.names with
  | [] => "Invalid"
  | names => Text.join " | " names

/-- The set a name stands for, in any case of letters. -/
def ofName? (name : String) : Option Options :=
  match Text.foldAscii name with
  | "invalid" => some {}
  | "expandproperties" | "properties" => some { properties := true }
  | "expanditems" | "items" => some { items := true }
  | "expandmetadata" | "metadata" => some { metadata := true }
  | "expandpropertiesanditems" => some { properties := true, items := true }
  | "expandpropertiesandmetadata" => some { properties := true, metadata := true }
  | "expandall" | "all" => some all
  | "truncate" => some { truncate := true }
  | _ => none

/-- Reads names between `|` or `,`. The error is the first name that is not known. -/
def parse (s : String) : Except String Options :=
  let names := (Chars.splitWhere (fun c => c == '|' || c == ',') s.toList).map Chars.trim
  (names.filter fun name => !name.isEmpty).foldlM (fun options name =>
    match ofName? (String.ofList name) with
    | some named => .ok (options.union named)
    | none => .error (String.ofList name)) empty

end Options

end BuildExpr
