import BuildExpr.Functions.Arguments

/-!
# Functions on versions

Making, reading and comparing versions, the members of a version, and the comparisons of texts
as loose versions.
-/

namespace BuildExpr

namespace VersionFunctions

open Arguments

/-- `Parse(text)`. -/
def parse (args : List Value) : Answer Value :=
  Value.version <$> Answer.of (Version.parse (text args 0))

/-- One part of a new version, which is not negative. -/
def part (args : List Value) (i : Nat) : Answer Int32 := do
  let n ← integer32 args i
  if n < 0 then Answer.refuse .versionSign else return n.toInt32

/-- `new(text)` or `new(major, minor[, build[, revision]])`. -/
def new (args : List Value) : Answer Value := do
  if args.length == 1 then parse args
  else
    match ← (List.range args.length).mapM (part args) with
    | [major, minor] => return .version { major, minor }
    | [major, minor, build] => return .version { major, minor, build }
    | major :: minor :: build :: revision :: _ =>
      return .version { major, minor, build, revision }
    | _ => Answer.refuse .versionSign

/-- A part of a version. -/
def field (f : Version → Int32) (args : List Value) : Answer Value := do
  return .ofInt (f (← version args 0)).toInt

/-- `CompareTo(other)`. Every version comes after no object. -/
def compareTo (args : List Value) : Answer Value := do
  let a ← version args 0
  if (value args 1).isNull then return .ofInt 1
  else return .ofOrdering (a.compare (← version args 1))

/-- `Equals(other)`. -/
def equals (args : List Value) : Answer Value := do
  let a ← version args 0
  return .bool ((version? (value args 1)).any (a == ·))

/-- `ToString([fields])`. -/
def toText (args : List Value) : Answer Value := do
  let v ← version args 0
  if isGiven args 1 then
    let count ← integer32 args 1
    return .text (← Answer.of (v.textOfFields count.toInt.toNat))
  else return .text v.text

/-- A comparison of two texts as loose versions. -/
def loose (test : Ordering → Bool) (args : List Value) : Answer Value := do
  return .bool (test (← Answer.of (Version.compareLoose (text args 0) (text args 1))))

/-- The static functions. -/
def statics : List Function :=
  [ .pure "system.version" "new" 1 4 new,
    .pure "system.version" "parse" 1 1 parse,
    .pure "msbuild" "versionequals" 2 2 (loose (· == .eq)),
    .pure "msbuild" "versiongreaterthan" 2 2 (loose (· == .gt)),
    .pure "msbuild" "versiongreaterthanorequals" 2 2 (loose (· != .lt)),
    .pure "msbuild" "versionlessthan" 2 2 (loose (· == .lt)),
    .pure "msbuild" "versionlessthanorequals" 2 2 (loose (· != .gt)),
    .pure "msbuild" "versionnotequals" 2 2 (loose (· != .eq)) ]

/-- The members of a version. -/
def members : List Function :=
  let type := "system.version"
  [ .pure type "build" 0 0 (field Version.build),
    .pure type "compareto" 1 1 compareTo,
    .pure type "equals" 1 1 equals,
    .pure type "major" 0 0 (field Version.major),
    .pure type "minor" 0 0 (field Version.minor),
    .pure type "revision" 0 0 (field Version.revision),
    .pure type "tostring" 0 1 toText ]

end VersionFunctions

end BuildExpr
