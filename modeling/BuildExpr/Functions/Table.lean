import BuildExpr.Functions.Dates
import BuildExpr.Functions.Environment
import BuildExpr.Functions.Numbers
import BuildExpr.Functions.Paths
import BuildExpr.Functions.Patterns
import BuildExpr.Functions.Texts
import BuildExpr.Functions.Tool
import BuildExpr.Functions.Versions
import BuildExpr.Diagnostic

/-!
# The tables of functions

Which function a type and a member name stand for. The functions of the extended table are
found only when it is opened; without it no function changes the surroundings
(`isReader_of_mem_statics`, `isReader_of_mem_members`).
-/

namespace BuildExpr

namespace FunctionTable

/-- The static functions that are always found. -/
def statics : List Function :=
  TextFunctions.statics ++ PathFunctions.statics ++ NumberFunctions.statics ++
    VersionFunctions.statics ++ DateFunctions.statics ++ EnvironmentFunctions.statics ++
    ToolFunctions.statics ++ PatternFunctions.statics

/-- The members of values. -/
def members : List Function :=
  TextFunctions.members ++ NumberFunctions.members ++ VersionFunctions.members ++
    DateFunctions.members

/-- The static functions that are found only in the extended table. -/
def extended : List Function := PathFunctions.extended ++ EnvironmentFunctions.extended

/-- Types that exist and have no function that may be called. -/
def restrictedTypes : List String :=
  [ "system.activator", "system.appdomain", "system.diagnostics.process",
    "system.io.filestream", "system.net.webclient", "system.reflection.assembly",
    "system.threading.thread", "system.type" ]

/-- The name of a type as the tables have it. -/
def typeKey (type : String) : String :=
  let name := Text.foldAscii (Text.trim type)
  if name == ToolFunctions.type || name == "microsoft.build.evaluation.intrinsicfunctions" then
    ToolFunctions.type
  else if name.toList.contains '.' then name
  else "system." ++ name

/-- The name of a member as the tables have it: `get_Name` is the same as `Name`. -/
def memberKey (member : String) : String :=
  let name := Text.foldAscii member
  if Text.startsWith name "get_" && name != "get_" then String.ofList (name.toList.drop 4)
  else name

/-- The function with a type and a name. -/
def find? (table : List Function) (type name : String) : Option Function :=
  table.find? fun f => f.type == type && f.name == name

/-- Whether there is a type with a name. -/
def hasType (type : String) : Bool :=
  (statics ++ extended).any (fun f => f.type == type) || restrictedTypes.contains type

/-- Why no function is found. -/
inductive Refusal
  | noType (type : String)
  /-- The function is there and may not be called. -/
  | unavailable (type member : String)
  | noMember (type member : String) (count : Nat)
  deriving DecidableEq

/-- The code of a refusal. -/
def Refusal.code : Refusal → Diagnostic.Code
  | noType _ => .typeNotFound
  | unavailable _ _ => .unavailable
  | noMember _ _ _ => .function

/-- The wording of a refusal. -/
def Refusal.message : Refusal → String
  | noType type => "The type \"" ++ type ++ "\" could not be found."
  | unavailable type member =>
    "The function \"" ++ member ++ "\" on type \"" ++ type ++
      "\" is not available for execution as an MSBuild property function."
  | noMember type member count =>
    "Method '" ++ type ++ "." ++ member ++ "' with " ++ toString count ++
      " argument(s) was not found."

/-- The function of a table entry, when it takes a number of arguments. -/
def accept (f : Function) (type member : String) (count : Nat) : Except Refusal Function :=
  if f.accepts count then .ok f else .error (.noMember type member count)

/-- The static function with a type and a name; `opened` says whether the extended table is
looked at. -/
def resolveStatic (opened : Bool) (type member : String) (count : Nat) :
    Except Refusal Function :=
  let key := typeKey type
  let name := memberKey member
  let shown := Text.trim type
  match find? (if opened then statics ++ extended else statics) key name with
  | some f => accept f shown member count
  | none =>
    if !hasType key then .error (.noType shown)
    else if (find? extended key name).isSome || restrictedTypes.contains key then
      .error (.unavailable shown member)
    else .error (.noMember shown member count)

/-- The member of a value with a name. -/
def resolveMember (receiver : Value) (member : String) (count : Nat) : Except Refusal Function :=
  let type := receiver.typeName
  match find? members (Text.foldAscii type) (memberKey member) with
  | some f => accept f type member count
  | none => .error (.noMember type member count)

/-- Whether a static function gives text in escaped form. -/
def givesEscaped (type member : String) : Bool :=
  typeKey type == ToolFunctions.type &&
    (memberKey member == "escape" || memberKey member == "unescape")

/-- Whether the extended table is open: by a setting, or else by a variable. -/
def isOpen (setting : Option Bool) (vars : Variables) : Bool :=
  setting.getD <|
    match vars.get? "MSBUILDENABLEALLPROPERTYFUNCTIONS" with
    | some value => value == "1" || Text.eqIgnoreCase value "true"
    | none => false

theorem isReader_of_mem_statics : ∀ f ∈ statics, f.isReader = true := by
  have h : statics.all Function.isReader = true := rfl
  simpa using h

theorem isReader_of_mem_members : ∀ f ∈ members, f.isReader = true := by
  have h : members.all Function.isReader = true := rfl
  simpa using h

end FunctionTable

end BuildExpr
