import BuildExpr.Evaluation.Setting

/-!
# Item functions

An item list starts with one entry an item. Its stages change the texts, drop entries or make new
ones; an entry remembers the item it comes from. Most stages are named. A name that is neither an
item function nor reserved metadata stands for a member of strings, applied to the text of every
entry.
-/

namespace BuildExpr

/-! ## Entries -/

/-- An entry of an item list. -/
structure Entry where
  /-- The text in escaped form. -/
  text : String
  /-- The item the entry comes from. -/
  source : Option Item := none
  deriving DecidableEq, Inhabited

namespace Entry

/-- The entry an item starts with. -/
def ofItem (item : Item) : Entry := { text := item.spec, source := some item }

/-- The item that answers metadata references for an entry: custom metadata are those of its
item, reserved metadata are computed from its text. -/
def metadataItem (e : Entry) : Item :=
  match e.source with
  | some source => if source.spec == e.text then source else source.derive source.itemType e.text
  | none => { itemType := "", spec := e.text }

/-- The text without escapes. -/
def plain (e : Entry) : String := Text.unescape e.text

/-- The entry with a text that is escaped first. -/
def withPlain (e : Entry) (text : List Char) : Entry :=
  { e with text := Text.escape (String.ofList text) }

end Entry

/-- The entries whose text is not empty. -/
def Entries.filled (entries : List Entry) : List Entry := entries.filter fun e => !e.text.isEmpty

/-- The texts of entries in one text. What stands between two of them may depend on the first. -/
def Entries.join (separator : Entry → Eval String) : List Entry → Eval String
  | [] => return ""
  | [e] => return e.text
  | e :: next :: rest => do
    let between ← separator e
    let tail ← Entries.join separator (next :: rest)
    return e.text ++ between ++ tail

/-- The entries of an item list that are put into text: all, or the first ones and a mark. -/
def Setting.shownEntries (s : Setting) (entries : List Entry) : List Entry :=
  if s.options.truncate && Setting.entryLimit < entries.length then
    entries.take Setting.entryLimit ++ [{ text := Setting.ellipsis }]
  else entries

/-! ## Named stages -/

/-- A named stage of an item list. -/
inductive ItemFunction
  /-- The number of entries. -/
  | count
  /-- The first of equal entries. -/
  | distinct (caseMatters : Bool)
  | reverse
  /-- The values of metadata, one entry for each entry of a list. -/
  | metadata
  /-- The directories of the entries as full paths. -/
  | directoryName
  /-- The entries that are there as files or directories. -/
  | existing
  /-- The entries with a path behind them. -/
  | combine
  /-- All directories above the entries. -/
  | directoriesAbove
  | anyHaveMetadataValue
  | hasMetadata
  /-- The entries whose metadata value is, or is not, a given one. -/
  | metadataValue (wanted : Bool)
  | clearMetadata
  /-- A value that is computed from the text. -/
  | reserved (name : Reserved)
  | member
  deriving DecidableEq

namespace ItemFunction

/-- The function that a name stands for. -/
def ofName (name : String) : ItemFunction :=
  match Text.foldAscii name with
  | "count" => count
  | "distinct" => distinct false
  | "distinctwithcase" => distinct true
  | "reverse" => reverse
  | "metadata" => metadata
  | "directoryname" => directoryName
  | "exists" => existing
  | "combine" => combine
  | "getpathsofalldirectoriesabove" => directoriesAbove
  | "anyhavemetadatavalue" => anyHaveMetadataValue
  | "hasmetadata" => hasMetadata
  | "withmetadatavalue" => metadataValue true
  | "withoutmetadatavalue" => metadataValue false
  | "clearmetadata" => clearMetadata
  | _ =>
    match Reserved.ofName? name with
    | some r => reserved r
    | none => member

/-- The number of arguments. That of a member of strings depends on the member. -/
def arity? : ItemFunction → Option Nat
  | metadata | combine | hasMetadata => some 1
  | anyHaveMetadataValue | metadataValue _ => some 2
  | member => none
  | _ => some 0

end ItemFunction

/-- A named stage as it is written. -/
structure ItemCall where
  /-- The text of the item list. -/
  list : String
  /-- The type of the items in the list. -/
  itemType : String
  /-- The text of the stage. -/
  stage : String
  /-- The name of the function. -/
  name : String

namespace ItemCall

/-- The report about an item function that fails. -/
def failed (call : ItemCall) (kind : Diagnostic.Kind) (detail : String) : Diagnostic :=
  { kind, code := .itemFunction, expression := call.list
    message :=
      "The item function \"" ++ call.name ++ "\" in \"" ++ call.list ++
        "\" cannot be evaluated. " ++ detail }

/-- The result of an operation on an operand. -/
def operand {α : Type} (call : ItemCall) : Except Fault α → Except Diagnostic α
  | .ok a => .ok a
  | .error cause => .error (call.failed .operand cause.message)

/-- Refuses a wrong number of arguments. -/
def checkCount (call : ItemCall) (args : List Value) (arity : Nat) : Except Diagnostic Unit :=
  if args.length == arity then .ok ()
  else
    .error <| call.failed .unresolved <|
      "It expects " ++ toString arity ++ " argument(s) but " ++ toString args.length ++
        " were supplied."

/-- A metadata value of an entry in escaped form. -/
def metadataValue (call : ItemCall) (w : World) (name : String) (e : Entry) :
    Except Diagnostic String :=
  match e.metadataItem.metadataValue w name with
  | .ok value => .ok value
  | .error cause => .error (metadataFailed call.stage name cause)

/-- The entries that pass a test. -/
def keep (test : Entry → Except Diagnostic Bool) : List Entry → Except Diagnostic (List Entry)
  | [] => .ok []
  | e :: rest => do
    let kept ← test e
    let others ← keep test rest
    return if kept then e :: others else others

/-- Whether some entry passes a test. The entries after the first that does are not looked at. -/
def anyPasses (test : Entry → Except Diagnostic Bool) : List Entry → Except Diagnostic Bool
  | [] => .ok false
  | e :: rest => do if ← test e then return true else anyPasses test rest

/-- Whether a metadata value of an entry is a given one, in any case of letters. -/
def hasValue (call : ItemCall) (w : World) (name value : String) (e : Entry) :
    Except Diagnostic Bool := do
  return Text.eqIgnoreCase (Text.unescape (← call.metadataValue w name e)) value

/-- The entries that replace each entry. -/
def replaceEach (f : Entry → Except Diagnostic (List Entry)) :
    List Entry → Except Diagnostic (List Entry)
  | [] => .ok []
  | e :: rest => do
    let first ← f e
    let others ← replaceEach f rest
    return first ++ others

/-- The entries of a metadata value. -/
def spreadMetadata (call : ItemCall) (w : World) (name : String) (e : Entry) :
    Except Diagnostic (List Entry) := do
  let value ← call.metadataValue w name e
  if value.toList.contains ';' then
    return (Text.splitList value).map fun piece => { e with text := piece }
  else return Entries.filled [{ e with text := value }]

/-- The first of the entries with one key, in order. -/
def firstOfKey (key : Entry → String) (entries : List Entry) : List Entry :=
  (entries.foldl (fun (seen, kept) e =>
    if seen.contains (key e) then (seen, kept) else (key e :: seen, e :: kept))
    (([], []) : List String × List Entry)).2.reverse

/-- The first of the entries with one key among those whose key was not seen before. -/
def firstsFrom (key : Entry → String) (seen : List String) : List Entry → List Entry
  | [] => []
  | e :: rest =>
    if seen.contains (key e) then firstsFrom key seen rest
    else e :: firstsFrom key (key e :: seen) rest

theorem firstOfKey_eq_firstsFrom (key : Entry → String) (entries : List Entry) :
    firstOfKey key entries = firstsFrom key [] entries := by
  -- over the entries that are left, with those that are kept so far in front
  have hfold (seen : List String) (kept : List Entry) :
      (entries.foldl (fun p e =>
        if p.1.contains (key e) then (p.1, p.2) else (key e :: p.1, e :: p.2))
        (seen, kept)).2.reverse = kept.reverse ++ firstsFrom key seen entries := by
    induction entries generalizing seen kept with
    | nil => simp [firstsFrom]
    | cons e entries ih =>
      rw [List.foldl_cons, firstsFrom]
      by_cases hseen : seen.contains (key e) = true
      · simp only [hseen, if_true]
        exact ih seen kept
      · simp only [hseen, Bool.false_eq_true, if_false]
        rw [ih, List.reverse_cons, List.append_assoc, List.singleton_append]
  exact hfold [] []

/-- The full path of an entry, read from the directory of its project, or else from the base
directory. -/
def rootedPath (s : Setting) (w : World) (e : Entry) : Except Fault (List Char) := do
  let p := e.plain.toList
  Path.validate p
  let base := (e.source.bind Item.baseDirectory?) <|> s.base
  return if Path.isRooted p then Path.slashed p else Path.combine (base.getD w.current) p

/-- The directory of an entry, unless it has none. -/
def directoryOf (call : ItemCall) (s : Setting) (w : World) (e : Entry) :
    Except Diagnostic (List Entry) := do
  let p ← call.operand (rootedPath s w e)
  return Entries.filled ((Path.directoryName? p).toList.map e.withPlain)

/-- Whether an entry is there as a file or directory. -/
def isThere (call : ItemCall) (s : Setting) (w : World) (e : Entry) : Except Diagnostic Bool := do
  return w.files.exists? w.current (← call.operand (rootedPath s w e))

/-- The directories above an entry. -/
def directoriesAbove (call : ItemCall) (s : Setting) (w : World) (e : Entry) :
    Except Diagnostic (List Entry) := do
  let p ← call.operand do Path.full w.current none (← rootedPath s w e)
  return (Path.ancestors p).map fun d => { text := String.ofList d }

/-- Directories in the order of their lower-case forms, each once, as entries of no item. -/
def sortedDirectories (entries : List Entry) : List Entry :=
  let key := fun (e : Entry) => Text.lower e.text
  let once := firstOfKey key entries
  let sorted := once.mergeSort fun a b => decide (key a ≤ key b)
  sorted.map fun e => { text := Text.escape e.text }

/-- A value that is computed from the text of an entry, unless it is empty. -/
def computed (call : ItemCall) (w : World) (name : Reserved) (e : Entry) :
    Except Diagnostic (List Entry) := do
  let value ← call.operand (e.metadataItem.reservedMetadata w name)
  return Entries.filled [{ e with text := value }]

/-- A member of strings applied to the text of an entry; an empty result is dropped. -/
def memberOf (call : ItemCall) (s : Setting) (w : World) (f : Function) (args : List Value)
    (e : Entry) : Except Diagnostic (List Entry) :=
  match (f.run (s.context w) (.text e.plain :: args)).1 with
  | .ok v => .ok (Entries.filled [{ e with text := v.escaped }])
  | .error cause => .error (call.failed cause.kind (cause.message ("System.String." ++ call.name)))

/-- The member of strings that a name stands for. -/
def resolve (call : ItemCall) (args : List Value) : Except Diagnostic Function :=
  match FunctionTable.resolveMember (.text "") call.name args.length with
  | .ok f => .ok f
  | .error _ =>
    .error <| call.failed .unresolved <|
      "\"" ++ call.name ++ "\" is not a known item function or a System.String member taking " ++
        toString args.length ++ " argument(s)."

/-- An entry whose item has lost its metadata. -/
def cleared (call : ItemCall) (e : Entry) : Entry :=
  let itemType := e.source.elim call.itemType Item.itemType
  { e with
    source := some
      { itemType, spec := e.text, definingProject := e.source.bind Item.definingProject } }

/-- The entries after a named stage. -/
def run (call : ItemCall) (s : Setting) (w : World) (args : List Value) (entries : List Entry) :
    Except Diagnostic (List Entry) := do
  let f := ItemFunction.ofName call.name
  if let some arity := f.arity? then call.checkCount args arity
  let first := Arguments.text args 0
  let second := Arguments.text args 1
  match f with
  | .count => return [{ text := String.ofList (Numeral.decimal entries.length) }]
  | .distinct true => return firstOfKey Entry.text entries
  | .distinct false => return firstOfKey (fun e => Text.lower e.text) entries
  | .reverse => return entries.reverse
  | .metadata => replaceEach (call.spreadMetadata w first) entries
  | .directoryName => replaceEach (call.directoryOf s w) (Entries.filled entries)
  | .existing => keep (call.isThere s w) (Entries.filled entries)
  | .combine =>
    return entries.map fun e => e.withPlain (Path.combine e.plain.toList first.toList)
  | .directoriesAbove =>
    return sortedDirectories (← replaceEach (call.directoriesAbove s w) (Entries.filled entries))
  | .anyHaveMetadataValue =>
    let found ← anyPasses (call.hasValue w first second) entries
    return [{ text := if found then "true" else "false" }]
  | .hasMetadata =>
    keep (fun e => do return !(Text.unescape (← call.metadataValue w first e)).isEmpty) entries
  | .metadataValue wanted =>
    keep (fun e => do return (← call.hasValue w first second e) == wanted) entries
  | .clearMetadata => return entries.map call.cleared
  | .reserved name => replaceEach (call.computed w name) (Entries.filled entries)
  | .member => replaceEach (call.memberOf s w (← call.resolve args) args) entries

end ItemCall

end BuildExpr
