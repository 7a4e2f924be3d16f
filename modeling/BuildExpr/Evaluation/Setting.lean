import BuildExpr.Expression.Tree
import BuildExpr.Functions.Table
import BuildExpr.Item.Metadata
import BuildExpr.Options
import BuildExpr.Scope

/-!
# Settings of an evaluation

What an evaluation may look at beside its text, and the computations it is made of. They pass
the surroundings on also when they fail, since a function called before the failure may have
changed them.
-/

namespace BuildExpr

/-- What references are evaluated against. -/
structure Setting where
  lookup : Lookup
  registry : Registry := {}
  /-- The directory that relative paths are read from. -/
  base : Option (List Char) := none
  options : Options := .all
  /-- Whether the extended table of functions is looked at. -/
  opened : Bool := false

namespace Setting

/-- What functions see in given surroundings. -/
def context (s : Setting) (w : World) : Context :=
  { registry := s.registry, base := s.base, world := w }

/-- The value of a property in escaped form, empty when there is none. The name is looked up as
it is written, and a blank one has no value. -/
def property (s : Setting) (name : String) : String :=
  if Text.isBlank name then "" else (s.lookup.property? name).getD ""

/-- The mark that something is left out. -/
def ellipsis : String := "..."

/-- The most characters of a property value that are kept when values are shortened. -/
def valueLimit : Nat := 1024

/-- The most entries of an item list that are kept when lists are shortened. -/
def entryLimit : Nat := 3

/-- The value of a property as it is put into text. -/
def shownValue (s : Setting) (value : String) : String :=
  if s.options.truncate && valueLimit < value.length then
    String.ofList (value.toList.take (valueLimit - ellipsis.length)) ++ ellipsis
  else value

end Setting

/-- A computation that may look at the surroundings, change them and fail. -/
abbrev Eval (α : Type) := ExceptT Diagnostic (StateM World) α

namespace Eval

/-- A computation that only looks at the surroundings. -/
def look {α : Type} (f : World → Except Diagnostic α) : Eval α := do
  match f (← get) with
  | .ok a => return a
  | .error d => throw d

end Eval

namespace Function

/-- The answer of a function and the surroundings after it. -/
def run (f : Function) (c : Context) (args : List Value) : Answer Value × World :=
  match f.body with
  | .reads look => (look c args, c.world)
  | .changes change =>
    match change c args with
    | .ok (v, w) => (.ok v, w)
    | .error cause => (.error cause, c.world)

/-- A function that only looks leaves the surroundings as they are. -/
theorem run_world_of_isReader {f : Function} (h : f.isReader = true) (c : Context)
    (args : List Value) : (f.run c args).2 = c.world := by
  unfold isReader at h
  unfold run
  split <;> simp_all

end Function

namespace Failure

/-- The kind of a failure: an argument that does not fit means that there is no such member. -/
def kind : Failure → Diagnostic.Kind
  | mismatch _ _ _ => .unresolved
  | fault _ => .operand

/-- The report about a reference whose function fails. -/
def diagnostic (expression function : String) (e : Failure) : Diagnostic :=
  { kind := e.kind, code := .function, expression
    message := Diagnostic.cannotEvaluate expression (e.message function) }

end Failure

/-- The report about a reference whose function is not found. -/
def FunctionTable.Refusal.diagnostic (expression : String) (r : Refusal) : Diagnostic :=
  { kind := .unresolved, code := r.code, expression
    message := Diagnostic.cannotEvaluate expression r.message }

/-- The report about metadata that cannot be computed. -/
def metadataFailed (expression name : String) (cause : Fault) : Diagnostic :=
  { kind := .operand, code := .metadata, expression
    message :=
      "Cannot evaluate the item metadata \"%(" ++ name ++ ")\". " ++ cause.message }

namespace Setting

/-- Calls a function that was resolved. -/
def apply (s : Setting) (f : Function) (args : List Value) (report : Failure → Diagnostic) :
    Eval Value := do
  let (answer, w) := f.run (s.context (← get)) args
  set w
  match answer with
  | .ok v => return v
  | .error e => throw (report e)

/-- Calls a static function. `expression` is the reference that holds the call. -/
def callStatic (s : Setting) (expression type member : String) (args : List Value) :
    Eval Value :=
  match FunctionTable.resolveStatic s.opened type member args.length with
  | .ok f =>
    s.apply f args (Failure.diagnostic expression ("[" ++ Text.trim type ++ "]::" ++ member))
  | .error r => throw (r.diagnostic expression)

/-- Calls a member of a value. -/
def callMember (s : Setting) (expression : String) (receiver : Value) (member : String)
    (args : List Value) : Eval Value :=
  match FunctionTable.resolveMember receiver member args.length with
  | .ok f =>
    s.apply f (receiver :: args)
      (Failure.diagnostic expression (receiver.typeName ++ "." ++ member))
  | .error r => throw (r.diagnostic expression)

/-- A value of the registry in escaped form, given as `Key@Name`. -/
def registryValue (s : Setting) (expression spec : String) : Eval String :=
  .look fun w =>
    let (key, name) := RegistryKey.splitValueName spec
    match s.registry.read w.vars .default key name with
    | .ok v => .ok v.escaped
    | .error cause => .error ((Failure.fault cause).diagnostic expression "")

/-- The value of a metadata reference in escaped form: that of the item at hand, or else of the
item of the lookup, and empty without either. -/
def metadataValue (s : Setting) (item : Option Item) (ref : MetadataRef) : Eval String :=
  .look fun w =>
    match item <|> s.lookup.metadataItem with
    | none => .ok ""
    | some item =>
      match item.qualifiedMetadata w (ref.itemType.map Span.text) ref.name.text with
      | .ok value => .ok value
      | .error cause => .error (metadataFailed ref.span.text ref.name.text cause)

end Setting

end BuildExpr
