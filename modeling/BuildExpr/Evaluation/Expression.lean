import BuildExpr.Evaluation.ItemFunction

/-!
# Evaluation of expressions

Every part of an expression is evaluated from left to right, and the first failure ends the
evaluation. Text stays in escaped form until it is passed to a function. Inside a pattern or a
separator of an item list metadata references are answered by an entry of the list, which is
passed down as `item`.
-/

namespace BuildExpr

/-- The member that an index into a value stands for. -/
def Value.indexMember? : Value → Option String
  | .text _ => some "Chars"
  | .array _ => some "GetValue"
  | _ => none

/-- The report about an index into a value that has none. -/
def notIndexed (expression : String) (v : Value) : Diagnostic :=
  { kind := .unresolved, code := .function, expression
    message :=
      Diagnostic.cannotEvaluate expression
        ("A value of type \"" ++ v.typeName ++ "\" cannot be indexed.") }

/-- The report about a type without a member. -/
def memberMissing (expression : String) : Diagnostic :=
  Diagnostic.malformedStatic expression "The member name is missing."

/-- The outcome of a static call with no member after it. -/
def Outcome.ofStatic (type member : String) (v : Value) : Outcome :=
  if FunctionTable.givesEscaped type member then .text v.display else .value v

/-- The entries an item list starts with. -/
def Setting.entries (s : Setting) (itemType : String) : List Entry :=
  (s.lookup.items itemType).map Entry.ofItem

mutual

/-- The text of an expression in escaped form. -/
def evalExpression (s : Setting) (item : Option Item) : Expression → Eval String
  | .mk _ segments => evalSegments s item segments

/-- The texts of segments in one text. -/
def evalSegments (s : Setting) (item : Option Item) : List Segment → Eval String
  | [] => return ""
  | segment :: rest => do
    let first ← evalSegment s item segment
    let others ← evalSegments s item rest
    return first ++ others

/-- The text of a segment in escaped form. -/
def evalSegment (s : Setting) (item : Option Item) : Segment → Eval String
  | .literal span => return span.text
  | .property ref => do
    let outcome ← evalProperty s item ref
    return s.shownValue outcome.escaped
  | .items list => evalItems s item list
  | .metadata ref => s.metadataValue item ref

/-- The outcome of a property reference. -/
def evalProperty (s : Setting) (item : Option Item) : Property → Eval Outcome
  | .named _ name => return .text (s.property name.text)
  | .registry span key => do return .text (← s.registryValue span.text key.text)
  | .bareRegistry _ _ => return .text ""
  | .chain span (.property name) accesses => do
    let receiver := .text (Text.unescape (s.property name.text))
    return .value (← evalAccesses s item span.text receiver accesses)
  | .chain span (.type name) accesses => evalStatic s item span.text name.text accesses

/-- The outcome of members of a type, the first of which is static. -/
def evalStatic (s : Setting) (item : Option Item) (expression type : String) :
    List Access → Eval Outcome
  | .method _ name arguments :: rest => do
    let args ← evalArguments s item arguments
    let v ← s.callStatic expression type name.text args
    if rest.isEmpty then return .ofStatic type name.text v
    return .value (← evalAccesses s item expression v rest)
  | .member _ name :: rest => do
    let v ← s.callStatic expression type name.text []
    if rest.isEmpty then return .ofStatic type name.text v
    return .value (← evalAccesses s item expression v rest)
  | _ => throw (memberMissing expression)

/-- The value after members have been applied to a value. -/
def evalAccesses (s : Setting) (item : Option Item) (expression : String) (v : Value) :
    List Access → Eval Value
  | [] => return v
  | .method _ name arguments :: rest => do
    let args ← evalArguments s item arguments
    let next ← s.callMember expression v name.text args
    evalAccesses s item expression next rest
  | .member _ name :: rest => do
    let next ← s.callMember expression v name.text []
    evalAccesses s item expression next rest
  | .index _ argument :: rest =>
    match v.indexMember? with
    | none => throw (notIndexed expression v)
    | some member => do
      let index ← evalArgument s item argument
      let next ← s.callMember expression v member [index]
      evalAccesses s item expression next rest

/-- The values of arguments. -/
def evalArguments (s : Setting) (item : Option Item) : List Argument → Eval (List Value)
  | [] => return []
  | argument :: rest => do
    let first ← evalArgument s item argument
    let others ← evalArguments s item rest
    return first :: others

/-- The value of an argument. A lone property reference outside of quotes keeps its type. -/
def evalArgument (s : Setting) (item : Option Item) : Argument → Eval Value
  | .null _ => return .null
  | .quoted value => do return .text (Text.unescape (← evalExpression s item value))
  | .bare (.mk _ [.property ref]) => do return (← evalProperty s item ref).argument
  | .bare value => do return .text (Text.unescape (← evalExpression s item value))

/-- The text of an item list in escaped form. -/
def evalItems (s : Setting) (item : Option Item) : ItemList → Eval String
  | .mk span itemType transforms separator => do
    let start := s.entries itemType.text
    let entries ← evalTransforms s item span.text itemType.text start transforms
    match separator with
    | none => Entries.join (fun _ => return ";") (s.shownEntries entries)
    | some separator =>
      Entries.join (fun e => evalExpression s (some e.metadataItem) separator)
        (s.shownEntries entries)

/-- The entries of an item list after its stages. -/
def evalTransforms (s : Setting) (item : Option Item) (list itemType : String)
    (entries : List Entry) : List Transform → Eval (List Entry)
  | [] => return entries
  | .pattern _ value :: rest => do
    let made ← entries.mapM fun e => do
      return { e with text := ← evalExpression s (some e.metadataItem) value }
    evalTransforms s item list itemType (Entries.filled made) rest
  | .function span name arguments :: rest => do
    let args ← evalArguments s item arguments
    let call : ItemCall := { list, itemType, stage := span.text, name := name.text }
    let made ← .look fun w => call.run s w args entries
    evalTransforms s item list itemType made rest

end

/-- The entries of an item list. -/
def evalEntries (s : Setting) : ItemList → Eval (List Entry)
  | .mk span itemType transforms _ =>
    evalTransforms s none span.text itemType.text (s.entries itemType.text) transforms

/-- The outcome of an expression. A single property reference keeps the type of its value. -/
def evalOutcome (s : Setting) (e : Expression) : Eval Outcome :=
  match e.singleProperty? with
  | some ref => evalProperty s none ref
  | none => do return .text (← evalExpression s none e)

end BuildExpr
