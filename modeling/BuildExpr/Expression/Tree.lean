import BuildExpr.Source.Span

/-!
# The tree of an expression

A text with references is read into an `Expression`: runs of literal text between property
references `$(...)`, item lists `@(...)` and metadata references `%(...)`. Arguments, transform
patterns and separators are expressions again.
-/

namespace BuildExpr

/-- What the members of a chain are applied to first. -/
inductive Receiver
  /-- The value of a property. -/
  | property (name : Span)
  /-- A type, whose static member comes first. -/
  | type (name : Span)
  deriving DecidableEq, Inhabited

/-- `%(Name)` or `%(Type.Name)`. -/
structure MetadataRef where
  span : Span
  itemType : Option Span
  name : Span
  deriving DecidableEq, Inhabited

mutual

/-- A text read into segments. -/
inductive Expression
  | mk (span : Span) (segments : List Segment)

/-- One part of an expression. -/
inductive Segment
  /-- Text that is copied as it is, in escaped form. -/
  | literal (span : Span)
  | property (ref : Property)
  | items (list : ItemList)
  | metadata (ref : MetadataRef)

/-- `$( ... )`; `span` covers the whole reference. -/
inductive Property
  /-- `$(Name)`; the name is looked up exactly as written. -/
  | named (span name : Span)
  /-- `$(Registry:Key@Value)`; `key` is the text after the colon. -/
  | registry (span key : Span)
  /-- A path from a registry hive without the `Registry:` in front. -/
  | bareRegistry (span path : Span)
  /-- A property or type followed by members. -/
  | chain (span : Span) (receiver : Receiver) (accesses : List Access)

/-- A member of a chain. -/
inductive Access
  /-- `.Name(...)` or `::Name(...)`. -/
  | method (span name : Span) (arguments : List Argument)
  /-- `.Name` or `::Name`. -/
  | member (span name : Span)
  /-- `[...]`. -/
  | index (span : Span) (argument : Argument)

/-- An argument of a function. -/
inductive Argument
  /-- The word `null`. -/
  | null (span : Span)
  /-- Text between quotes, which always gives a string. -/
  | quoted (value : Expression)
  /-- Any other text; a lone property reference keeps the type of its value. -/
  | bare (value : Expression)

/-- `@(Type->Transform->Transform, 'separator')`. -/
inductive ItemList
  | mk (span itemType : Span) (transforms : List Transform) (separator : Option Expression)

/-- A stage of an item list. -/
inductive Transform
  /-- `->'...'`. -/
  | pattern (span : Span) (value : Expression)
  /-- `->Name(...)`. -/
  | function (span name : Span) (arguments : List Argument)

end

instance : Inhabited Expression := ⟨.mk default []⟩

namespace Expression

/-- The span of the whole text. -/
def span : Expression → Span
  | mk span _ => span

/-- The parts in order. -/
def segments : Expression → List Segment
  | mk _ segments => segments

end Expression

namespace Property

/-- The span of the whole reference. -/
def span : Property → Span
  | named span _ | registry span _ | bareRegistry span _ | chain span _ _ => span

end Property

namespace ItemList

/-- The span of the whole reference. -/
def span : ItemList → Span
  | mk span _ _ _ => span

/-- The type whose items are listed. -/
def itemType : ItemList → Span
  | mk _ itemType _ _ => itemType

/-- The stages in order. -/
def transforms : ItemList → List Transform
  | mk _ _ transforms _ => transforms

/-- The text between entries, when one is given. -/
def separator : ItemList → Option Expression
  | mk _ _ _ separator => separator

end ItemList

namespace Segment

/-- The part of the text a segment covers. -/
def span : Segment → Span
  | literal span => span
  | property ref => ref.span
  | items list => list.span
  | metadata ref => ref.span

/-- Whether a segment is plain text. -/
def isLiteral : Segment → Bool
  | literal _ => true
  | _ => false

/-- Whether a segment is an item list. -/
def isItems : Segment → Bool
  | items _ => true
  | _ => false

end Segment

namespace Access

/-- The part of the text an access covers. -/
def span : Access → Span
  | method span _ _ | member span _ | index span _ => span

end Access

namespace Argument

/-- The part of the text an argument covers, without quotes. -/
def span : Argument → Span
  | null span => span
  | quoted value | bare value => value.span

end Argument

namespace Transform

/-- The part of the text a stage covers, from its arrow on. -/
def span : Transform → Span
  | pattern span _ | function span _ _ => span

end Transform

namespace Expression

/-- Whether there is no reference in an expression. -/
def isLiteral (e : Expression) : Bool := e.segments.all Segment.isLiteral

/-- The property reference an expression consists of. -/
def singleProperty? (e : Expression) : Option Property :=
  match e.segments with
  | [.property ref] => some ref
  | _ => none

/-- The item list an expression consists of. -/
def singleItems? (e : Expression) : Option ItemList :=
  match e.segments with
  | [.items list] => some list
  | _ => none

/-- Whether an item list is among the parts. -/
def hasItems (e : Expression) : Bool := e.segments.any Segment.isItems

end Expression

end BuildExpr
