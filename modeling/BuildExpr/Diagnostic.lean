/-!
# Diagnostics

What a failed expansion reports: the kind of failure, a stable code, the reference that failed
as it is written, a message, and the place of the text in the build file when it is known.
-/

namespace BuildExpr

/-- The place of a text in a build file. -/
structure Location where
  file : String := ""
  line : Nat := 0
  column : Nat := 0
  deriving DecidableEq, Inhabited

/-- `file(line,column)`, without the parts that are zero. -/
def Location.render (l : Location) : String :=
  if l.line == 0 then l.file
  else if l.column == 0 then l.file ++ "(" ++ toString l.line ++ ")"
  else l.file ++ "(" ++ toString l.line ++ "," ++ toString l.column ++ ")"

/-- The kinds of failures. -/
inductive Diagnostic.Kind
  /-- A reference that is not well formed. -/
  | malformed
  /-- An unknown type or member, or arguments that no member takes. -/
  | unresolved
  /-- A function that refuses the value it was given. -/
  | operand
  deriving DecidableEq, Inhabited

/-- The codes of failures. -/
inductive Diagnostic.Code
  /-- A property reference or function that cannot be evaluated. -/
  | function
  /-- A function that exists and may not be called. -/
  | unavailable
  /-- A malformed static call. -/
  | staticCall
  /-- A type that does not exist. -/
  | typeNotFound
  /-- An item function that cannot be evaluated. -/
  | itemFunction
  /-- Metadata that cannot be computed. -/
  | metadata
  /-- An item list beside other text where items are wanted. -/
  | embeddedList
  deriving DecidableEq, Inhabited

/-- The text of a code. -/
def Diagnostic.Code.text : Diagnostic.Code → String
  | .function => "MSB4184"
  | .unavailable => "MSB4185"
  | .staticCall => "MSB4186"
  | .typeNotFound => "MSB4212"
  | .itemFunction => "MSB4198"
  | .metadata => "MSB4023"
  | .embeddedList => "MSB4012"

/-- The report of a failed expansion. -/
structure Diagnostic where
  kind : Diagnostic.Kind
  code : Diagnostic.Code
  /-- The reference that failed, as it is written. -/
  expression : String
  message : String
  location : Option Location := none
  deriving DecidableEq, Inhabited

namespace Diagnostic

/-- The message about an expression that cannot be evaluated. -/
def cannotEvaluate (expression detail : String) : String :=
  "The expression \"" ++ expression ++ "\" cannot be evaluated. " ++ detail

/-- The report about a reference that is not well formed. -/
def malformed (expression detail : String) : Diagnostic :=
  { kind := .malformed, code := .function, expression
    message := cannotEvaluate expression detail }

/-- The report about a static call that is not well formed. -/
def malformedStatic (expression detail : String) : Diagnostic :=
  { kind := .malformed, code := .staticCall, expression
    message := "Invalid static method invocation syntax: \"" ++ expression ++ "\". " ++ detail }

/-- The report with a place, unless it has one. -/
def at? (d : Diagnostic) (location : Option Location) : Diagnostic :=
  { d with location := d.location <|> location }

/-- The report as one line of text. -/
def render (d : Diagnostic) : String :=
  let place :=
    match d.location with
    | some l => l.render ++ ": "
    | none => ""
  place ++ "error " ++ d.code.text ++ ": " ++ d.message

end Diagnostic

end BuildExpr
