import BuildExpr.Source.Span

/-!
# Malformed references

The ways in which a reference can fail to be well formed, with the wording of each. A
`Malformed` names the reference too; the faults of a static call have a code of their own.
-/

namespace BuildExpr

/-- Why a reference is not well formed. -/
inductive SyntaxFault
  /-- A parenthesis that is not closed. -/
  | unclosedParenthesis
  /-- A square bracket that is not closed. -/
  | unclosedBracket
  /-- A property name with characters it may not have. -/
  | propertyName
  /-- No name after the point of a member. -/
  | memberExpected
  /-- Text after the members that belongs to none. -/
  | unexpected (text : String)
  /-- An argument list whose quotes or brackets do not end. -/
  | unterminatedArguments
  /-- No item type in an item list. -/
  | itemType
  /-- A quoted transform that does not end. -/
  | unterminatedTransform
  /-- Neither a quoted text nor a name after an arrow. -/
  | functionExpected
  /-- An item function without an argument list. -/
  | argumentsRequired (name : String)
  /-- A separator without quotes. -/
  | separatorNotQuoted
  /-- A separator that does not end. -/
  | unterminatedSeparator
  /-- Text in an item list that belongs to none of its parts. -/
  | unexpectedInList (text : String)
  /-- A static type whose bracket is not closed. -/
  | unclosedType
  /-- A static type without a name. -/
  | emptyType
  /-- No `::` after a static type. -/
  | colonsExpected
  /-- No name after the `::` of a static member. -/
  | staticMember
  deriving DecidableEq, Inhabited

namespace SyntaxFault

/-- The wording of a fault. -/
def detail : SyntaxFault → String
  | unclosedParenthesis => "Missing closing parenthesis."
  | unclosedBracket | unclosedType => "Missing closing bracket."
  | propertyName => "The property name is not valid."
  | memberExpected => "A member name is expected after '.'."
  | unexpected text => "Unexpected text \"" ++ text ++ "\"."
  | unterminatedArguments => "The argument list is not terminated."
  | itemType => "The item type name is not valid."
  | unterminatedTransform => "The transform is not terminated."
  | functionExpected => "An item function name is expected after '->'."
  | argumentsRequired name => "The item function \"" ++ name ++ "\" requires an argument list."
  | separatorNotQuoted => "The separator must be a quoted string."
  | unterminatedSeparator => "The separator is not terminated."
  | unexpectedInList text => "Unexpected text \"" ++ text ++ "\" in item list."
  | emptyType => "The type name is empty."
  | colonsExpected =>
    "Static method invocation should be of the form: $([FullTypeName]::Method())."
  | staticMember => "The member name is missing."

/-- The faults of a static call up to its first member. -/
def isStatic : SyntaxFault → Bool
  | unclosedType | emptyType | colonsExpected | staticMember => true
  | _ => false

end SyntaxFault

/-- A reference that is not well formed. -/
structure Malformed where
  /-- The reference as it is written. -/
  expression : String
  fault : SyntaxFault
  deriving DecidableEq, Inhabited

/-- The report about a malformed reference. -/
def Malformed.diagnostic (m : Malformed) : Diagnostic :=
  if m.fault.isStatic then Diagnostic.malformedStatic m.expression m.fault.detail
  else Diagnostic.malformed m.expression m.fault.detail

/-- The failure of the reference that a span covers. -/
def Span.fail {α : Type} (s : Span) (fault : SyntaxFault) : Except Malformed α :=
  .error ⟨s.text, fault⟩

end BuildExpr
