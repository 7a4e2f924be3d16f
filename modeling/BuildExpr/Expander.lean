import BuildExpr.Evaluation.Expression
import BuildExpr.Expression.Parse

/-!
# Expansion

The ways to expand a text: as plain or escaped text, as a list, as items, or keeping the type of
a lone property reference. An expander holds the settings that do not change from text to text.
-/

namespace BuildExpr

/-- The settings of expansions. -/
structure Expander where
  registry : Registry := {}
  /-- The place of the texts, which every failure reports. -/
  location : Option Location := none
  /-- The directory that relative paths are read from. -/
  baseDirectory : Option String := none
  /-- The project file that defines new items. -/
  definingProject : Option String := none
  /-- Whether the extended table of functions is open; a variable decides when it is not set. -/
  allFunctions : Option Bool := none
  deriving Inhabited

namespace Chars

/-- Splits at every `;` that is outside of parentheses and of quotes inside parentheses. `piece`
is the text since the last such `;` in reverse. -/
def splitOutside (depth : Nat) (quote : Option Char) (piece : List Char) :
    List Char → List (List Char)
  | [] => [piece.reverse]
  | c :: cs =>
    match quote with
    | some q => splitOutside depth (if c == q then none else quote) (c :: piece) cs
    | none =>
      if 0 < depth && (c == '\'' || c == '\x60' || c == '"') then
        splitOutside depth (some c) (c :: piece) cs
      else if c == '(' then splitOutside (depth + 1) none (c :: piece) cs
      else if c == ')' then splitOutside (depth - 1) none (c :: piece) cs
      else if c == ';' && depth == 0 then piece.reverse :: splitOutside 0 none [] cs
      else splitOutside depth none (c :: piece) cs

end Chars

namespace Expander

/-- The pieces of a text that become items one by one: trimmed, without the empty ones. -/
def pieces (text : String) : List String :=
  (((Chars.splitOutside 0 none [] text.toList).map Chars.trim).filter fun p => !p.isEmpty).map
    String.ofList

/-- The directory that relative paths are read from: the one that is set, or else that of the
project. -/
def base (x : Expander) : Option (List Char) :=
  match x.baseDirectory with
  | some d => some d.toList
  | none => x.definingProject.bind fun p => Path.directoryName? (Text.unescape p).toList

/-- What the references of a text are evaluated against. -/
def setting (x : Expander) (options : Options) (lookup : Lookup) (w : World) : Setting :=
  { lookup, registry := x.registry, base := x.base, options
    opened := FunctionTable.isOpen x.allFunctions w.vars }

/-- Reads a text. -/
def parse (x : Expander) (text : String) (options : Options) : Eval Expression :=
  match Expression.parse options text with
  | .ok e => return e
  | .error m => throw (m.diagnostic.at? x.location)

/-- Evaluates with the settings of the expander, and reports failures at its place. -/
def eval {α : Type} (x : Expander) (options : Options) (lookup : Lookup)
    (f : Setting → Eval α) : Eval α := do
  let s := x.setting options lookup (← get)
  tryCatch (f s) fun d => throw (d.at? x.location)

/-- The text with its references replaced, in escaped form. -/
def expandEscaped (x : Expander) (text : String) (options : Options) (lookup : Lookup) :
    Eval String := do
  if !options.expandsAnything then return text
  let e ← x.parse text options
  if e.isLiteral then return text
  x.eval options lookup fun s => evalExpression s none e

/-- The text with its references replaced. -/
def expand (x : Expander) (text : String) (options : Options) (lookup : Lookup) :
    Eval String := do
  return Text.unescape (← x.expandEscaped text options lookup)

/-- The entries between the raw semicolons of the expanded text. -/
def expandList (x : Expander) (text : String) (options : Options) (lookup : Lookup) :
    Eval (List String) := do
  return (Text.splitList (← x.expandEscaped text options lookup)).map Text.unescape

/-- The outcome of a text. A lone property reference keeps the type of its value. -/
def expandTyped (x : Expander) (text : String) (options : Options) (lookup : Lookup) :
    Eval Outcome := do
  if !options.expandsAnything then return .text text
  let e ← x.parse text options
  x.eval options lookup fun s => evalOutcome s e

/-- The report about an item list beside other text. -/
def embeddedList (piece : String) : Diagnostic :=
  { kind := .malformed, code := .embeddedList, expression := piece
    message :=
      "The expression \"" ++ piece ++ "\" concatenates an item list with other text. An item " ++
        "list must be the only content of a list entry." }

/-- The items of the entries of a list. -/
def itemsOfEntries (x : Expander) (factory : ItemFactory) (entries : List Entry) : List Item :=
  (Entries.filled entries).map fun e => factory.create e.text e.source x.definingProject

/-- The items of the list entries in a text in escaped form. -/
def itemsOfText (x : Expander) (factory : ItemFactory) (text : String) : List Item :=
  (Text.splitList text).map fun spec => factory.create spec none x.definingProject

/-- The items of a piece. A lone item list without a separator gives an item for each of its
entries; any other piece is expanded as text. -/
def expandPiece (x : Expander) (piece : String) (options : Options) (lookup : Lookup)
    (factory : ItemFactory) : Eval (List Item) := do
  let e ← x.parse piece options
  let asText : Eval (List Item) :=
    if e.isLiteral then return x.itemsOfText factory piece
    else do
      return x.itemsOfText factory (← x.eval options lookup fun s => evalExpression s none e)
  match e.singleItems? with
  | some list =>
    if list.separator.isSome then asText
    else return x.itemsOfEntries factory (← x.eval options lookup fun s => evalEntries s list)
  | none =>
    if e.hasItems then throw ((embeddedList piece).at? x.location) else asText

/-- The items of the pieces of a text, in order. -/
def expandItems (x : Expander) (text : String) (options : Options) (lookup : Lookup)
    (factory : ItemFactory) : Eval (List Item) := do
  return (← (pieces text).mapM fun piece => x.expandPiece piece options lookup factory).flatten

end Expander

end BuildExpr
