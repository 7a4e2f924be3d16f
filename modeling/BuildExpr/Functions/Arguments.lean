import BuildExpr.Calendar.Reader
import BuildExpr.Registry.Basic

/-!
# Arguments of functions

A function is given values and takes each parameter as the type it wants. A value that cannot
be taken that way is a mismatch; a value of the right type that the function cannot use is a
fault. A member of a value gets that value as its first argument.
-/

namespace BuildExpr

/-- What a parameter wants. -/
inductive Wanted
  | integer
  | integer32
  | number
  | boolean
  | character
  | characters
  | version
  | date
  | span
  | array
  | flags
  deriving DecidableEq

/-- The wording of a wanted type. -/
def Wanted.text : Wanted → String
  | integer => "an integer"
  | integer32 => "a 32-bit integer"
  | number => "a number"
  | boolean => "a boolean"
  | character => "a single character"
  | characters => "an array of characters"
  | version => "a version"
  | date => "a date"
  | span => "a time span"
  | array => "an array"
  | flags => "an enum value"

/-- Why a function gives no value. -/
inductive Failure
  /-- An argument that is not of the wanted type; `actual` is its text. -/
  | mismatch (index : Nat) (wanted : Wanted) (actual : String)
  | fault (cause : Fault)
  deriving DecidableEq

/-- The wording of a failure of a function. -/
def Failure.message (function : String) : Failure → String
  | mismatch index wanted actual =>
    "\x60" ++ function ++ "\x60 expects " ++ wanted.text ++ " for argument " ++
      toString index ++ ". Got \x60" ++ actual ++ "\x60 instead."
  | fault cause => cause.message

/-- A value or the reason why there is none. -/
abbrev Answer := Except Failure

namespace Answer

/-- No value because of a fault. -/
def refuse {α : Type} (cause : Fault) : Answer α := .error (.fault cause)

/-- The result of an operation that knows only faults. -/
def of {α : Type} : Except Fault α → Answer α
  | .ok a => .ok a
  | .error cause => refuse cause

/-- The result of an operation that either succeeds or fails with one fault. -/
def orRefuse {α : Type} (cause : Fault) : Option α → Answer α
  | some a => .ok a
  | none => refuse cause

end Answer

namespace Arguments

/-- The argument at an index. One that is not given is no object. -/
def value (args : List Value) (i : Nat) : Value := args.getD i .null

/-- Whether an argument is given. -/
def isGiven (args : List Value) (i : Nat) : Bool := decide (i < args.length)

/-- The failure of the argument at an index. -/
def mismatch {α : Type} (args : List Value) (i : Nat) (wanted : Wanted) : Answer α :=
  .error (.mismatch i wanted (value args i).display)

/-- The argument, when a reading of it succeeds. -/
def wants {α : Type} (args : List Value) (i : Nat) (wanted : Wanted) : Option α → Answer α
  | some a => .ok a
  | none => mismatch args i wanted

/-- Any value as text. -/
def text (args : List Value) (i : Nat) : String := (value args i).display

/-- Any value as text, except no object. -/
def text? (args : List Value) (i : Nat) : Option String :=
  match value args i with
  | .null => none
  | v => some v.display

/-- The characters of any value as text. -/
def chars (args : List Value) (i : Nat) : List Char := (text args i).toList

/-- An integer, a double without fraction, a character or the text of an integer. -/
def integer? : Value → Option Int64
  | .int n => some n
  | .double x =>
    if Binary64.isIntegral x && x.abs < 9.2e18 then some (Binary64.toWord x) else none
  | .char c => some (Int64.ofInt c.toNat)
  | .text s => Integer.parse? s
  | _ => none

/-- An integer. -/
def integer (args : List Value) (i : Nat) : Answer Int64 :=
  wants args i .integer (integer? (value args i))

/-- An integer of 32 bits. -/
def integer32 (args : List Value) (i : Nat) : Answer Int64 := do
  let n ← integer args i
  if Integer.fits32 n then return n
  else .error (.mismatch i .integer32 (Integer.text n))

/-- A number or the text of a number, as a double. -/
def double? : Value → Option Float
  | .double x => some x
  | .int n => some (Binary64.ofInt n.toInt)
  | .text s => Binary64.parse? s
  | _ => none

/-- A double. -/
def double (args : List Value) (i : Nat) : Answer Float :=
  wants args i .number (double? (value args i))

/-- An operand of arithmetic, where nothing counts as zero. -/
def number? : Value → Option Number
  | .int n => some (.int n)
  | .double x => some (.double x)
  | .null => some (.int 0)
  | .text s => if Text.isBlank s then some (.int 0) else Number.parse? s
  | _ => none

/-- An operand of arithmetic. -/
def number (args : List Value) (i : Nat) : Answer Number :=
  wants args i .number (number? (value args i))

/-- A boolean or its name. -/
def bool? : Value → Option Bool
  | .bool b => some b
  | .text s =>
    match Text.foldAscii (Text.trim s) with
    | "true" => some true
    | "false" => some false
    | _ => none
  | _ => none

/-- A boolean. -/
def bool (args : List Value) (i : Nat) : Answer Bool :=
  wants args i .boolean (bool? (value args i))

/-- A character or a text of one character. -/
def char? : Value → Option Char
  | .char c => some c
  | .text s =>
    match s.toList with
    | [c] => some c
    | _ => none
  | _ => none

/-- A character. -/
def char (args : List Value) (i : Nat) : Answer Char :=
  wants args i .character (char? (value args i))

/-- Characters: one, those of a text, or an array of them. -/
def charList (args : List Value) (i : Nat) : Answer (List Char) :=
  match value args i with
  | .char c => .ok [c]
  | .text s => .ok s.toList
  | .array elements => (List.range elements.length).mapM (char elements)
  | _ => mismatch args i .characters

/-- A version or the text of a version. -/
def version? : Value → Option Version
  | .version v => some v
  | .text s => (Version.parse s).toOption
  | _ => none

/-- A version. -/
def version (args : List Value) (i : Nat) : Answer Version :=
  wants args i .version (version? (value args i))

/-- A date or the text of a date. -/
def date? : Value → Option DateTime
  | .dateTime t => some t
  | .text s => DateTime.parse? s
  | _ => none

/-- A date. -/
def date (args : List Value) (i : Nat) : Answer DateTime :=
  wants args i .date (date? (value args i))

/-- A time span. -/
def span (args : List Value) (i : Nat) : Answer TimeSpan :=
  match value args i with
  | .timeSpan s => .ok s
  | _ => mismatch args i .span

/-- The texts of the elements of an array, or of a value by itself. -/
def texts (args : List Value) (i : Nat) : Answer (List String) :=
  match value args i with
  | .array elements => .ok (elements.map Value.display)
  | .null => mismatch args i .array
  | v => .ok [v.display]

/-- An array. -/
def array (args : List Value) (i : Nat) : Answer (List Value) :=
  match value args i with
  | .array elements => .ok elements
  | _ => mismatch args i .array

/-- Named flags of a type, with their bits. -/
structure FlagSet where
  type : String
  names : List (String × Nat)

/-- The name of a flag without the name of its type in front. -/
def FlagSet.bareName (set : FlagSet) (part : List Char) : List Char :=
  match Chars.cutLast? '.' part with
  | some (before, name) =>
    let type := (Chars.cutLast? '.' before).elim before Prod.snd
    if Text.eqIgnoreCase (String.ofList type) set.type then name else part
  | none => part

/-- The bits of a flag given by number or by name. -/
def FlagSet.bits? (set : FlagSet) (part : List Char) : Option Nat :=
  match Numeral.readBounded? Numeral.bound32 part with
  | some n => some n
  | none =>
    let name := String.ofList (set.bareName part)
    (set.names.find? fun (n, _) => Text.eqIgnoreCase n name).map Prod.snd

/-- Flags between `|` or `,`, or their bits as an integer. -/
def flags (args : List Value) (i : Nat) (set : FlagSet) : Answer Nat :=
  match value args i with
  | .int n =>
    if 0 ≤ n.toInt ∧ n.toInt < Numeral.bound32 then .ok n.toInt.toNat else mismatch args i .flags
  | .text s =>
    let parts := (Chars.splitWhere (fun c => c == '|' || c == ',') s.toList).map Chars.trim
    parts.foldlM (fun bits part =>
      match set.bits? part with
      | some more => .ok (bits ||| more)
      | none => .error (.mismatch i .flags (String.ofList part))) 0
  | _ => mismatch args i .flags

end Arguments

/-- What a function can see beside its arguments. -/
structure Context where
  registry : Registry := {}
  /-- The directory that relative paths are read from. -/
  base : Option (List Char) := none
  world : World

/-- What a function does. -/
inductive Body
  /-- It looks and gives a value. -/
  | reads (run : Context → List Value → Answer Value)
  /-- It also changes the surroundings. -/
  | changes (run : Context → List Value → Answer (Value × World))

/-- A function with the type it belongs to, its name and the least and greatest number of
arguments, all names in lower case. -/
structure Function where
  type : String
  name : String
  least : Nat
  most : Nat
  body : Body

namespace Function

/-- A function of a type that depends on nothing but its arguments. -/
def pure (type name : String) (least most : Nat) (run : List Value → Answer Value) : Function :=
  { type, name, least, most, body := .reads fun _ args => run args }

/-- A function of a type that looks at the surroundings. -/
def reading (type name : String) (least most : Nat)
    (run : Context → List Value → Answer Value) : Function :=
  { type, name, least, most, body := .reads run }

/-- A constant of a type. -/
def constant (type name : String) (value : Value) : Function :=
  { type, name, least := 0, most := 0, body := .reads fun _ _ => .ok value }

/-- Whether a function only looks at the surroundings. -/
def isReader (f : Function) : Bool :=
  match f.body with
  | .reads _ => true
  | .changes _ => false

/-- Whether a number of arguments is accepted. -/
def accepts (f : Function) (count : Nat) : Bool :=
  decide (f.least ≤ count ∧ count ≤ f.most)

end Function

end BuildExpr
