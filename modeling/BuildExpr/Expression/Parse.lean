import BuildExpr.Expression.Chunk
import BuildExpr.Expression.Malformed
import BuildExpr.Text.Case

/-!
# Reading expressions

A reference is read in two passes. The first cuts it into raw parts (`Rest.accesses` for a
chain of members, `Rest.stages` for an item list) and ends with a fault where the text fits no
part; the second reads the texts inside the parts, in order, so that the first fault of the
text is the one reported. A nested text is always shorter than the text around it, which
bounds the depth of `Expression.parse`.
-/

namespace BuildExpr

/-- A member of a chain whose arguments are still text. -/
inductive RawAccess
  | method (span name : Span) (arguments : Rest)
  | member (span name : Span)
  | index (span : Span) (argument : Rest)
  /-- The chain is not well formed from here on. -/
  | fault (fault : SyntaxFault)
  deriving DecidableEq, Inhabited

/-- A part of an item list whose texts are not read yet. -/
inductive RawStage
  | pattern (span : Span) (value : Rest)
  | function (span name : Span) (arguments : Rest)
  | separator (value : Rest)
  /-- The list is not well formed from here on. -/
  | fault (fault : SyntaxFault)
  deriving DecidableEq, Inhabited

namespace Rest

/-- The member whose name was just read: with an argument list when a parenthesis follows
directly. `start` is where the member begins. -/
def memberTail (start : Rest) (name : Span) (r : Rest) : RawAccess × Rest :=
  if r.peek? == some '(' then
    match r.group? '(' ')' with
    | some (arguments, after) => (.method (start.upTo after) name arguments, after)
    | none => (.fault .unclosedParenthesis, r)
  else (.member (start.upTo r) name, r)

/-- The first member of a chain and what follows it; nothing at the end of the chain. -/
def access? (r : Rest) : Option (RawAccess × Rest) :=
  match r.peek? with
  | none => none
  | some '.' =>
    match r.next.name? false with
    | some (name, after) => some (memberTail r name after)
    | none => some (.fault .memberExpected, r)
  | some '[' =>
    match r.group? '[' ']' with
    | some (argument, after) => some (.index (r.upTo after) argument, after)
    | none => some (.fault .unclosedBracket, r)
  | some _ => some (.fault (.unexpected r.span.text), r)

/-- At most `fuel` members of a chain, up to the first fault. -/
def accessesUpTo : Nat → Rest → List RawAccess
  | 0, _ => []
  | fuel + 1, r =>
    match r.skipBlanks.access? with
    | none => []
    | some (.fault fault, _) => [.fault fault]
    | some (access, after) => access :: accessesUpTo fuel after

/-- The members of a chain, up to the first fault. Each takes at least one character. -/
def accesses (r : Rest) : List RawAccess := accessesUpTo (r.chars.length + 1) r

/-- The first stage or the separator of an item list and what follows it; nothing at the end
of the list. A second separator is not accepted. -/
def stage? (separated : Bool) (r : Rest) : Option (RawStage × Rest) :=
  match r.chars with
  | [] => none
  | '-' :: '>' :: _ =>
    let body := (r.drop 2).skipBlanks
    if body.peek?.any isQuote then
      match body.quoted? with
      | some (value, after) => some (.pattern (r.upTo after) value, after)
      | none => some (.fault .unterminatedTransform, r)
    else
      match body.name? false with
      | none => some (.fault .functionExpected, r)
      | some (name, after) =>
        let open_ := after.skipBlanks
        if open_.peek? == some '(' then
          match open_.group? '(' ')' with
          | some (arguments, after) =>
            some (.function (r.upTo after) name arguments, after)
          | none => some (.fault .unclosedParenthesis, r)
        else some (.fault (.argumentsRequired name.text), r)
  | ',' :: _ =>
    if separated then some (.fault (.unexpectedInList r.span.text), r)
    else
      let body := r.next.skipBlanks
      if body.peek?.any isQuote then
        match body.quoted? with
        | some (value, after) => some (.separator value, after)
        | none => some (.fault .unterminatedSeparator, r)
      else some (.fault .separatorNotQuoted, r)
  | _ => some (.fault (.unexpectedInList r.span.text), r)

/-- Whether a part is a separator. -/
def isSeparator : RawStage → Bool
  | .separator _ => true
  | _ => false

/-- At most `fuel` parts of an item list, up to the first fault. -/
def stagesUpTo (separated : Bool) : Nat → Rest → List RawStage
  | 0, _ => []
  | fuel + 1, r =>
    match r.skipBlanks.stage? separated with
    | none => []
    | some (.fault fault, _) => [.fault fault]
    | some (stage, after) => stage :: stagesUpTo (separated || isSeparator stage) fuel after

/-- The stages and the separator of an item list after its type, up to the first fault. Each
takes at least one character. -/
def stages (r : Rest) : List RawStage := stagesUpTo false (r.chars.length + 1) r

end Rest

namespace Expression

/-- Reads a nested text with the given options. -/
abbrev Reader := Options → Rest → Except Malformed Expression

/-- The options inside an item list: metadata is that of the item, and item lists do not
nest. -/
def listOptions (options : Options) : Options :=
  { options with metadata := true, items := false }

/-- The options inside an argument, where item lists are plain text. -/
def argumentOptions (options : Options) : Options := { options with items := false }

/-- Reads one argument: a text in quotes, the word `null`, or any other text. -/
def parseArgument (read : Reader) (options : Options) (piece : Rest) :
    Except Malformed Argument := do
  let text := piece.trimmed
  let inside? :=
    if text.peek?.any isQuote then
      match text.quoted? with
      | some (inside, after) => if after.isEmpty then some inside else none
      | none => none
    else none
  match inside? with
  | some inside => return .quoted (← read (argumentOptions options) inside)
  | none =>
    if text.span.text == "null" then return .null text.span
    else return .bare (← read (argumentOptions options) text)

/-- Reads the arguments between a pair of parentheses; a blank text holds none. -/
def parseArguments (read : Reader) (options : Options) (ref : Span) (inside : Rest) :
    Except Malformed (List Argument) :=
  if inside.trimmed.isEmpty then .ok []
  else
    match inside.splitArguments with
    | none => ref.fail .unterminatedArguments
    | some pieces => pieces.mapM (parseArgument read options)

/-- Reads the texts inside a member of a chain. -/
def parseAccess (read : Reader) (options : Options) (ref : Span) :
    RawAccess → Except Malformed Access
  | .method span name arguments => do
    return .method span name (← parseArguments read options ref arguments)
  | .member span name => .ok (.member span name)
  | .index span argument => do return .index span (← parseArgument read options argument)
  | .fault fault => ref.fail fault

/-- Reads a static type, its first member and the members after it. -/
def parseStatic (read : Reader) (options : Options) (ref : Span) (body : Rest) :
    Except Malformed Property := do
  match body.group? '[' ']' with
  | none => ref.fail .unclosedType
  | some (type, after) =>
    if type.trimmed.isEmpty then ref.fail .emptyType
    else
      let colons := after.skipBlanks
      if colons.chars.take 2 != [':', ':'] then ref.fail .colonsExpected
      else
        match (colons.drop 2).skipBlanks.name? false with
        | none => ref.fail .staticMember
        | some (name, after) =>
          let (first, after) := Rest.memberTail colons name after
          let first ← parseAccess read options ref first
          let others ← after.accesses.mapM (parseAccess read options ref)
          return .chain ref (.type type.trimmed.span) (first :: others)

/-- What stands in front of a registry key. -/
def registryMark : String := "registry:"

/-- The hives that a registry path may begin with when nothing stands in front of it. -/
def bareHives : List String :=
  ["HKEY_LOCAL_MACHINE\\", "HKEY_CURRENT_USER\\", "HKEY_CLASSES_ROOT\\", "HKEY_USERS\\",
    "HKEY_CURRENT_CONFIG\\", "HKEY_PERFORMANCE_DATA\\", "HKLM\\", "HKCU\\", "HKCR\\", "HKU\\",
    "HKCC\\"]

/-- Whether a text begins with another, up to the case of the letters A to Z. -/
def startsWithIgnoreCase (cs : List Char) (start : String) : Bool :=
  Text.eqIgnoreCase (String.ofList (cs.take start.length)) start

/-- Whether a text is a path that begins with a hive and goes on after it. -/
def isBareRegistry (cs : List Char) : Bool :=
  bareHives.any fun hive => startsWithIgnoreCase cs hive && hive.length < cs.length

/-- Reads the inside of a property reference. -/
def parseProperty (read : Reader) (options : Options) (ref : Span) (body : Rest) :
    Except Malformed Property := do
  let text := body.trimmed
  if startsWithIgnoreCase body.chars registryMark then
    return .registry ref (body.drop registryMark.length).span
  else if text.peek? == some '[' then parseStatic read options ref text
  else if body.chars.contains '\\' && isBareRegistry text.chars then
    return .bareRegistry ref text.span
  else if !body.chars.any (fun c => c == '.' || c == '[' || c == '(') then
    if body.chars.contains '\\' then ref.fail .propertyName
    else return .named ref body.span
  else
    match text.name? true with
    | none => ref.fail .propertyName
    | some (name, after) =>
      return .chain ref (.property name)
        (← after.accesses.mapM (parseAccess read options ref))

/-- Reads the texts inside a part of an item list and adds it to the parts before it. -/
def parseStage (read : Reader) (options : Options) (ref : Span)
    (parts : List Transform × Option Expression) :
    RawStage → Except Malformed (List Transform × Option Expression)
  | .pattern span value => do
    return (parts.1 ++ [.pattern span (← read (listOptions options) value)], parts.2)
  | .function span name arguments => do
    let arguments ← parseArguments read (listOptions options) ref arguments
    return (parts.1 ++ [.function span name arguments], parts.2)
  | .separator value => do return (parts.1, some (← read (listOptions options) value))
  | .fault fault => ref.fail fault

/-- Reads the inside of an item list. -/
def parseItems (read : Reader) (options : Options) (ref : Span) (body : Rest) :
    Except Malformed ItemList := do
  match body.skipBlanks.name? true with
  | none => ref.fail .itemType
  | some (itemType, after) =>
    let (transforms, separator) ←
      after.stages.foldlM (parseStage read options ref) ([], none)
    return .mk ref itemType transforms separator

/-- Reads the inside of a chunk. -/
def parseChunk (read : Reader) (options : Options) : Chunk → Except Malformed (List Segment)
  | .literal span => .ok [.literal span]
  | .property span body => do return [.property (← parseProperty read options span body)]
  | .items span body => do return [.items (← parseItems read options span body)]
  | .metadata ref => .ok [.metadata ref]
  | .copied body => do return (← read { options with metadata := false } body).segments
  | .unclosed rest => rest.fail .unclosedParenthesis

/-- Reads a text whose nested texts are read by `read`. -/
def parseLevel (read : Reader) : Reader := fun options r => do
  let segments ← (r.chunks options).mapM (parseChunk read options)
  return .mk r.span segments.flatten

/-- Reads a text in which references nest less than `depth` deep. -/
def parseUpTo : Nat → Reader
  | 0 => fun _ r => .ok (.mk r.span [])
  | depth + 1 => parseLevel (parseUpTo depth)

/-- Reads a text. Every nested text is shorter than the one around it, so references nest less
deep than the text is long. -/
def parse (options : Options) (text : String) : Except Malformed Expression :=
  parseUpTo (text.length + 1) options (Rest.ofText text)

end Expression

end BuildExpr
