import BuildExpr.Functions.Texts
import BuildExpr.Text.LetterTable

/-!
# Functions on numbers, characters and arrays

Mathematics, limits and reading of numbers, conversions, classes of characters, and the members
of numbers, booleans, characters and arrays.
-/

namespace BuildExpr

namespace NumberFunctions

open Arguments

/-- A double as an answer. -/
def answer (x : Float) : Answer Value := .ok (.double x)

/-- An integer where the value is one or is the text of one, and a double otherwise. -/
def mixed (args : List Value) (i : Nat) : Answer Number :=
  match value args i with
  | .int n => .ok (.int n)
  | .text s =>
    match Integer.parse? s with
    | some n => .ok (.int n)
    | none => do return .double (← double args i)
  | _ => do return .double (← double args i)

/-- `Abs(number)`. -/
def abs (args : List Value) : Answer Value := do
  match ← mixed args 0 with
  | .int n => return .int (← Answer.orRefuse .negatedMinimum (Integer.fit? n.toInt.natAbs))
  | .double x => answer x.abs

/-- A function of one double. -/
def apply (f : Float → Float) (args : List Value) : Answer Value := do
  answer (f (← double args 0))

/-- `Log(number[, base])`. -/
def log (args : List Value) : Answer Value := do
  let x ← double args 0
  if isGiven args 1 then answer (x.log / (← double args 1).log) else answer x.log

/-- The one of two numbers that is on the wanted side of the other. -/
def choose (side : Ordering) (args : List Value) : Answer Value := do
  match ← mixed args 0, ← mixed args 1 with
  | .int a, .int b => return .int (if Ord.compare a.toInt b.toInt == side then a else b)
  | _, _ =>
    let x ← double args 0
    let y ← double args 1
    if x.isNaN || y.isNaN then answer Binary64.nan
    else
      let first := if side == .gt then y < x else x < y
      answer (if first then x else y)

/-- `Pow(number, exponent)`. -/
def power (args : List Value) : Answer Value := do
  answer (Float.pow (← double args 0) (← double args 1))

/-- `Round(number[, digits])`. -/
def round (args : List Value) : Answer Value := do
  let x ← double args 0
  let digits ← if isGiven args 1 then integer32 args 1 else pure 0
  if digits < 0 ∨ 15 < digits then Answer.refuse .roundingDigits
  else
    let scale := Binary64.ofInt (Nat.pow 10 digits.toInt.toNat)
    answer (Binary64.roundEven (x * scale) / scale)

/-- `Sign(number)`. -/
def sign (args : List Value) : Answer Value := do
  let x ← double args 0
  if x.isNaN then Answer.refuse .notANumber
  else return .ofInt (if 0 < x then 1 else if x < 0 then -1 else 0)

/-- A text read as an integer of 64 bits. -/
def readInteger (args : List Value) : Answer Int64 :=
  let cs := Chars.trim (chars args 0)
  let digits := cs.dropWhile fun c => c == '-' || c == '+'
  if cs.isEmpty || !digits.all Numeral.isDigit then
    Answer.refuse (.numberText (text args 0))
  else Answer.orRefuse .beyondInt64 (Integer.parse? (text args 0))

/-- An integer that has to fit in 32 bits. -/
def in32 (n : Answer Int64) : Answer Value := do
  let n ← n
  if Integer.fits32 n then return .int n else Answer.refuse .beyondInt32

/-- An integer of 64 bits. -/
def in64 (n : Answer Int64) : Answer Value := Value.int <$> n

/-- A text read as a double. -/
def readDouble (args : List Value) : Answer Value := do
  answer (← Answer.orRefuse (.numberText (text args 0)) (Binary64.parse? (text args 0)))

/-- `ToBoolean(value)`. -/
def toBoolean (args : List Value) : Answer Value :=
  match value args 0 with
  | .int n => .ok (.bool (n != 0))
  | .double x => .ok (.bool (x != 0))
  | .null => .ok (.bool false)
  | v => Value.bool <$> Answer.orRefuse (.booleanText v.display) (bool? v)

/-- `ToDouble(value)`. -/
def toDouble (args : List Value) : Answer Value :=
  match value args 0 with
  | .null => answer 0
  | .bool b => answer (if b then 1 else 0)
  | .int _ | .double _ => apply id args
  | _ => readDouble args

/-- Without all repetitions of a text in front. -/
def dropRepeated (start cs : List Char) : Nat → List Char
  | 0 => cs
  | fuel + 1 =>
    if start.isPrefixOf cs then dropRepeated start (cs.drop start.length) fuel else cs

/-- The digits of a number in a base, for base 16 without `0x` in front. -/
def digitsInBase (base : Int64) (cs : List Char) : List Char :=
  let cs := Chars.trim cs
  if base == 16 then
    let cs := dropRepeated ['0', 'x'] cs cs.length
    dropRepeated ['0', 'X'] cs cs.length
  else cs

/-- A text read as an integer in base 2, 8, 10 or 16. -/
def readInBase (args : List Value) : Answer Int64 := do
  let base ← integer args 1
  if base == 2 || base == 8 || base == 10 || base == 16 then
    Answer.orRefuse .noDigits
      (Integer.readSigned? base.toInt.toNat (digitsInBase base (chars args 0)))
  else Answer.refuse .base

/-- A double rounded to an integer of 64 bits. -/
def roundedInteger (x : Float) : Answer Int64 :=
  let r := Binary64.roundEven x
  if r.abs < 9.223372036854775808e18 then .ok (Binary64.toWord r) else Answer.refuse .beyondInt64

/-- A value converted to an integer of 64 bits, read in a base if one is given. -/
def toInteger (args : List Value) : Answer Int64 :=
  if isGiven args 1 then readInBase args
  else
    match value args 0 with
    | .null => .ok 0
    | .bool b => .ok (if b then 1 else 0)
    | .int n => .ok n
    | .char c => .ok (Int64.ofInt c.toNat)
    | .double x => roundedInteger x
    | _ => readInteger args

/-- `Convert.ToString(value[, base])`. -/
def convertToText (args : List Value) : Answer Value :=
  if isGiven args 1 then do
    let n ← integer args 0
    let base ← integer args 1
    return .text (← Answer.orRefuse .base (Integer.textInBase? n base))
  else .ok (.text (text args 0))

/-- A class of characters, for a character or for the character of a text at an index. -/
def isClass (p : Char → Bool) (args : List Value) : Answer Value := do
  if isGiven args 1 then
    let index ← integer args 1
    let found := TextFunctions.element? (chars args 0) index
    return .bool (p (← Answer.orRefuse .characterIndex found))
  else return .bool (p (← char args 0))

/-- The first character of a case mapping. -/
def mapChar (f : Char → List Char) (args : List Value) : Answer Value := do
  let c ← char args 0
  return .char ((f c).headD c)

/-- `CompareTo(other)` of integers. -/
def compareIntegers (args : List Value) : Answer Value := do
  return .ofOrdering (Ord.compare (← integer args 0).toInt (← integer args 1).toInt)

/-- Equality with another value, which is false when that is of another type. -/
def equalTo {α : Type} (take : Value → Option α) (same : α → α → Bool)
    (first : List Value → Answer α) (args : List Value) : Answer Value := do
  let a ← first args
  return .bool ((take (value args 1)).any (same a))

/-- `ToString([format])` of an integer. -/
def integerToText (args : List Value) : Answer Value := do
  let n ← integer args 0
  if isGiven args 1 then
    let format ← Answer.orRefuse .formatSpecifier (Integer.Format.parse? (text args 1))
    return .text (format.apply n)
  else return .text (Integer.text n)

/-- `CompareTo(other)` of doubles; a number that is none equals everything. -/
def compareDoubles (args : List Value) : Answer Value := do
  let a ← double args 0
  let b ← double args 1
  return .ofInt (if a < b then -1 else if b < a then 1 else 0)

/-- `ToString([format])` of a double. -/
def doubleToText (args : List Value) : Answer Value := do
  let x ← double args 0
  let format ← Answer.orRefuse .formatSpecifier (Binary64.Format.parse? (text args 1))
  return .text (format.apply x)

/-- `CompareTo(other)` of booleans; false comes first. -/
def compareBooleans (args : List Value) : Answer Value := do
  let a ← bool args 0
  let b ← bool args 1
  return .ofOrdering (Ord.compare a.toNat b.toNat)

/-- `CompareTo(other)` of characters. -/
def compareChars (args : List Value) : Answer Value := do
  let a ← char args 0
  let b ← char args 1
  return .ofOrdering (Ord.compare a.toNat b.toNat)

/-- The text of a value. -/
def toText (args : List Value) : Answer Value := .ok (.text (text args 0))

/-- `GetValue(index)`, which is what brackets behind an array mean. -/
def getValue (args : List Value) : Answer Value := do
  let elements ← array args 0
  let index ← integer args 1
  Answer.orRefuse .elementIndex (TextFunctions.element? elements index)

/-- The number of elements of an array. -/
def arrayLength (args : List Value) : Answer Value := do
  return .ofInt (← array args 0).length

/-- The static functions of the types of mathematics. -/
def mathematics : List Function :=
  let type := "system.math"
  [ .pure type "abs" 1 1 abs,
    .pure type "ceiling" 1 1 (apply Binary64.ceil),
    .constant type "e" (.double 2.718281828459045),
    .pure type "floor" 1 1 (apply Binary64.floor),
    .pure type "log" 1 2 log,
    .pure type "log10" 1 1 (apply Float.log10),
    .pure type "max" 2 2 (choose .gt),
    .pure type "min" 2 2 (choose .lt),
    .constant type "pi" (.double 3.141592653589793),
    .pure type "pow" 2 2 power,
    .pure type "round" 1 2 round,
    .pure type "sign" 1 1 sign,
    .pure type "sqrt" 1 1 (apply Float.sqrt),
    .pure type "truncate" 1 1 (apply Binary64.trunc) ]

/-- The static functions of the types of numbers. -/
def limits : List Function :=
  [ .constant "system.int32" "maxvalue" (.ofInt 2147483647),
    .constant "system.int32" "minvalue" (.ofInt (-2147483648)),
    .pure "system.int32" "parse" 1 1 fun args => in32 (readInteger args),
    .constant "system.int64" "maxvalue" (.ofInt Integer.greatest),
    .constant "system.int64" "minvalue" (.ofInt Integer.least),
    .pure "system.int64" "parse" 1 1 fun args => in64 (readInteger args),
    .constant "system.double" "maxvalue" (.double 1.7976931348623157e308),
    .constant "system.double" "minvalue" (.double (-1.7976931348623157e308)),
    .pure "system.double" "parse" 1 1 readDouble ]

/-- The static functions of conversion. -/
def conversions : List Function :=
  let type := "system.convert"
  [ .pure type "toboolean" 1 1 toBoolean,
    .pure type "todouble" 1 1 toDouble,
    .pure type "toint32" 1 2 fun args => in32 (toInteger args),
    .pure type "toint64" 1 2 fun args => in64 (toInteger args),
    .pure type "tostring" 1 2 convertToText ]

/-- The static functions of the type of characters. -/
def characters : List Function :=
  let type := "system.char"
  [ .pure type "isdigit" 1 2 (isClass Text.isNumeric),
    .pure type "isletter" 1 2 (isClass Text.isLetter),
    .pure type "isletterordigit" 1 2 (isClass fun c => Text.isLetter c || Text.isNumeric c),
    .pure type "iswhitespace" 1 2 (isClass Chars.isBlank),
    .pure type "tolower" 1 1 (mapChar Chars.lowerChar),
    .pure type "toupper" 1 1 (mapChar Chars.upperChar) ]

/-- The static functions of all these types. -/
def statics : List Function := mathematics ++ limits ++ conversions ++ characters

/-- The members of numbers, booleans, characters and arrays. -/
def members : List Function :=
  [ .pure "system.int64" "compareto" 1 1 compareIntegers,
    .pure "system.int64" "equals" 1 1
      (equalTo integer? (· == ·) fun args => integer args 0),
    .pure "system.int64" "tostring" 0 1 integerToText,
    .pure "system.double" "compareto" 1 1 compareDoubles,
    .pure "system.double" "equals" 1 1 (equalTo double? (· == ·) fun args => double args 0),
    .pure "system.double" "tostring" 0 1 doubleToText,
    .pure "system.boolean" "compareto" 1 1 compareBooleans,
    .pure "system.boolean" "equals" 1 1 (equalTo bool? (· == ·) fun args => bool args 0),
    .pure "system.boolean" "tostring" 0 0 toText,
    .pure "system.char" "compareto" 1 1 compareChars,
    .pure "system.char" "equals" 1 1 (equalTo char? (· == ·) fun args => char args 0),
    .pure "system.char" "tostring" 0 0 toText,
    .pure "system.array" "getvalue" 1 1 getValue,
    .pure "system.array" "length" 0 0 arrayLength ]

end NumberFunctions

end BuildExpr
