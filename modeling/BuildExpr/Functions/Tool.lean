import BuildExpr.Functions.Arguments
import BuildExpr.Text.Base64
import BuildExpr.Text.StableHash

/-!
# Functions of the tool itself

Arithmetic, bitwise operations, escaping, encodings, registry access and questions about the
platform, all of which belong to one type that is named for the tool.
-/

namespace BuildExpr

namespace ToolFunctions

open Arguments

/-- The type these functions belong to. -/
def type : String := "msbuild"

/-- An operation on two numbers. -/
def arithmetic (op : Number → Number → Number) (args : List Value) : Answer Value := do
  return .ofNumber (op (← number args 0) (← number args 1))

/-- An operation on two numbers that fails for an integer over zero. -/
def division (op : Number → Number → Option Number) (args : List Value) : Answer Value := do
  let a ← number args 0
  let b ← number args 1
  return .ofNumber (← Answer.orRefuse .divisionByZero (op a b))

/-- A bitwise operation on two whole numbers. -/
def bitwise (op : Int64 → Int64 → Int64) (args : List Value) : Answer Value := do
  let a ← number args 0
  let b ← number args 1
  let cause := .bitwiseOperands (Value.ofNumber a).display (Value.ofNumber b).display
  return .ofNumber (← Answer.orRefuse cause (Number.bitwise? op a b))

/-- The bits of a whole number turned round. -/
def bitwiseNot (args : List Value) : Answer Value := do
  let a ← number args 0
  return .int (~~~(← Answer.orRefuse (.bitwiseOperand (Value.ofNumber a).display) a.toWord?))

/-- A function of one text. -/
def ofText (f : String → String) (args : List Value) : Answer Value := .ok (.text (f (text args 0)))

/-- `ValueOrDefault(value, default)`. -/
def valueOrDefault (args : List Value) : Answer Value :=
  .ok (.text (if (text args 0).isEmpty then text args 1 else text args 0))

/-- `StableStringHash(text)`. -/
def stableStringHash (args : List Value) : Answer Value :=
  .ok (.ofInt (StableHash.hash (chars args 0)).toInt)

/-- A value of the registry. -/
def readRegistry (c : Context) (view : RegistryView) (args : List Value) : Answer Value :=
  Answer.of (c.registry.read c.world.vars view (text args 0) (text args 1))

/-- `GetRegistryValue(key[, name])`. -/
def getRegistryValue (c : Context) (args : List Value) : Answer Value :=
  readRegistry c .default args

/-- The first value that one of several views has. -/
def firstOfViews (c : Context) (args : List Value) : List RegistryView → Answer Value
  | [] => .ok (value args 2)
  | view :: views => do
    let v ← readRegistry c view args
    if v.isNull then firstOfViews c args views else return v

/-- `GetRegistryValueFromView(key, name, default, views…)`. -/
def getRegistryValueFromView (c : Context) (args : List Value) : Answer Value := do
  let names := (args.drop 3).map Value.display
  let views ← (names.filter fun name => !Text.isBlank name).mapM fun name =>
    Answer.of (RegistryView.parse name)
  firstOfViews c args (if views.isEmpty then [.default] else views)

/-- `DoesTaskHostExist(runtime, architecture)`. -/
def doesTaskHostExist (args : List Value) : Answer Value := do
  let runtime := Text.foldAscii (text args 0)
  let architecture := Text.foldAscii (text args 1)
  let known ←
    if ["clr4", "currentruntime", "net", "*", ""].contains runtime then pure true
    else if runtime == "clr2" then pure false
    else Answer.refuse (.taskHostRuntime runtime)
  if ["x86", "x64", "arm64", "currentarchitecture", "*", ""].contains architecture then
    return .bool known
  else Answer.refuse (.taskHostArchitecture architecture)

/-- `IsOSPlatform(name)`. -/
def isPlatform (args : List Value) : Answer Value :=
  .ok (.bool (Text.eqIgnoreCase (Text.trim (text args 0)) "linux"))

/-- `ConvertToBase64(text)`. -/
def toBase64 (args : List Value) : Answer Value :=
  .ok (.text (String.ofList (Base64.encode (Utf8.encode (chars args 0)))))

/-- `ConvertFromBase64(text)`. -/
def fromBase64 (args : List Value) : Answer Value := do
  return .text (String.ofList (← Answer.of (Base64.decodeText (chars args 0))))

/-- The functions of the tool. -/
def statics : List Function :=
  [ .pure type "add" 2 2 (arithmetic Number.add),
    .pure type "subtract" 2 2 (arithmetic Number.sub),
    .pure type "multiply" 2 2 (arithmetic Number.mul),
    .pure type "divide" 2 2 (division Number.div?),
    .pure type "modulo" 2 2 (division Number.mod?),
    .pure type "bitwiseand" 2 2 (bitwise (· &&& ·)),
    .pure type "bitwisenot" 1 1 bitwiseNot,
    .pure type "bitwiseor" 2 2 (bitwise (· ||| ·)),
    .pure type "bitwisexor" 2 2 (bitwise (· ^^^ ·)),
    .pure type "escape" 1 1 (ofText Text.escape),
    .pure type "unescape" 1 1 (ofText Text.unescape),
    .pure type "valueordefault" 2 2 valueOrDefault,
    .pure type "stablestringhash" 1 1 stableStringHash,
    .reading type "getregistryvalue" 1 2 getRegistryValue,
    .reading type "getregistryvaluefromview" 3 16 getRegistryValueFromView,
    .pure type "doestaskhostexist" 2 2 doesTaskHostExist,
    .pure type "isosplatform" 1 1 isPlatform,
    .constant type "isosunixlike" (.bool true),
    .pure type "convertfrombase64" 1 1 fromBase64,
    .pure type "converttobase64" 1 1 toBase64 ]

end ToolFunctions

end BuildExpr
