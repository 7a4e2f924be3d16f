import BuildExpr.Functions.Arguments

/-!
# Functions on the surroundings

Environment variables, the machine, the user and new identifiers; in the extended table the
current directory and the setting of variables.
-/

namespace BuildExpr

namespace EnvironmentFunctions

open Arguments

/-- `ExpandEnvironmentVariables(text)`. -/
def expandVariables (c : Context) (args : List Value) : Answer Value :=
  .ok (.text (c.world.vars.expand (text args 0)))

/-- `GetEnvironmentVariable(name)`; no object when it is not set. -/
def getVariable (c : Context) (args : List Value) : Answer Value :=
  .ok ((c.world.vars.get? (text args 0)).elim .null Value.text)

/-- The name of the machine, from a variable or from the file that holds it. -/
def machineName (c : Context) (_ : List Value) : Answer Value :=
  let vars := c.world.vars
  let fromFile :=
    match c.world.files.readText c.world.current "/etc/hostname".toList with
    | .ok s => Text.trim s
    | .error _ => "localhost"
  .ok (.text ((vars.get? "COMPUTERNAME" <|> vars.get? "HOSTNAME").getD fromFile))

/-- The name of the user, from a variable. -/
def userName (c : Context) (_ : List Value) : Answer Value :=
  let vars := c.world.vars
  .ok (.text ((vars.get? "USERNAME" <|> vars.get? "USER").getD ""))

/-- `SetEnvironmentVariable(name, value)`. An empty value removes the variable. -/
def setVariable (c : Context) (args : List Value) : Answer (Value × World) :=
  let name := text args 0
  if name.isEmpty || name.toList.any (fun ch => ch == '=' || ch == '\x00') then
    Answer.refuse .variableName
  else
    let value := text args 1
    let vars := c.world.vars
    let after := if value.isEmpty then vars.unset name else vars.set name value
    .ok (.null, { c.world with vars := after })

/-- The static functions. -/
def statics : List Function :=
  let type := "system.environment"
  [ .reading type "expandenvironmentvariables" 1 1 expandVariables,
    .reading type "getenvironmentvariable" 1 1 getVariable,
    .constant type "is64bitoperatingsystem" (.bool true),
    .constant type "is64bitprocess" (.bool true),
    .reading type "machinename" 0 0 machineName,
    .constant type "newline" (.text "\n"),
    .reading type "processorcount" 0 0 fun c _ => .ok (.ofInt c.world.processors),
    .reading type "username" 0 0 userName,
    .reading "system.guid" "newguid" 0 0 fun c _ => .ok (.text c.world.identifier) ]

/-- The functions in the extended table. -/
def extended : List Function :=
  let type := "system.environment"
  [ .reading type "currentdirectory" 0 0 fun c _ => .ok (.text (String.ofList c.world.current)),
    { type, name := "setenvironmentvariable", least := 2, most := 2
      body := .changes setVariable } ]

end EnvironmentFunctions

end BuildExpr
