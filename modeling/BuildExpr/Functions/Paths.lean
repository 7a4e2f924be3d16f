import BuildExpr.Functions.Arguments
import BuildExpr.Text.Compare
import BuildExpr.Text.Glob

/-!
# Functions on paths and files

Taking paths apart, putting them together and resolving them, looking at files and directories,
and in the extended table reading lines and writing. Relative paths are read from the base
directory of the expansion.
-/

namespace BuildExpr

namespace PathFunctions

open Arguments

/-- A path as an answer. -/
def answer (p : List Char) : Answer Value := .ok (.text (String.ofList p))

/-- A path, or no object. -/
def optional (p : Option (List Char)) : Value :=
  match p with
  | some p => .text (String.ofList p)
  | none => .null

/-- A valid path. -/
def path (args : List Value) (i : Nat) : Answer (List Char) := do
  Answer.of (Path.validate (chars args i))
  return chars args i

/-- A function of one valid path. -/
def ofPath (f : List Char → Value) (args : List Value) : Answer Value := f <$> path args 0

/-- A part of a valid path. -/
def part (f : List Char → List Char) (args : List Value) : Answer Value :=
  ofPath (fun p => .text (String.ofList (f p))) args

/-- The full form of a path. -/
def full (c : Context) (p : List Char) : Answer (List Char) :=
  Answer.of (Path.full c.world.current c.base p)

/-- The path of a file that a function looks at. -/
def filePath (c : Context) (args : List Value) : Except Fault (List Char) := do
  let p := chars args 0
  Path.validate p
  return match c.base with
    | some base => if Path.isRooted p then Path.slashed p else Path.combine base p
    | none => Path.slashed p

/-- `ChangeExtension(path, extension)`. -/
def changeExtension (args : List Value) : Answer Value := do
  let p ← path args 0
  if p.isEmpty then answer []
  else answer (Path.changeExtension p ((text? args 1).map String.toList))

/-- `Combine(paths…)`. -/
def combine (args : List Value) : Answer Value := do
  let combined ← (List.range args.length).foldlM (fun p i => do
    if (value args i).isNull then Answer.refuse .nullPath
    else return Path.combine p (← path args i)) []
  answer combined

/-- `GetFullPath(path)`. -/
def getFullPath (c : Context) (args : List Value) : Answer Value := do
  let p ← path args 0
  if p.all Chars.isBlank then Answer.refuse .emptyPathArgument else answer (← full c p)

/-- `GetTempPath()`. -/
def getTempPath (c : Context) (_ : List Value) : Answer Value :=
  answer (Path.withTrailingSlash ((c.world.vars.get? "TMPDIR").getD "/tmp").toList)

/-- Whether a path leads to what a test accepts. No invalid path does. -/
def leadsTo (test : FileSystem → List Char → List Char → Bool) (c : Context)
    (args : List Value) : Answer Value :=
  .ok <| .bool <|
    match filePath c args with
    | .ok p => test c.world.files c.world.current p
    | .error _ => false

/-- The time of a file that does not exist: the first day of 1601. -/
def missingTime : DateTime := .midnight ⟨1601, 1, 1, by decide⟩

/-- A time of a file. -/
def fileTime (time : FileEntry → DateTime) (c : Context) (args : List Value) : Answer Value := do
  let p ← Answer.of (filePath c args)
  return .dateTime <|
    match c.world.files.find c.world.current p with
    | .ok e => time e
    | .error _ => missingTime

/-- The text in a file. -/
def readText (c : Context) (args : List Value) : Answer String := do
  let p ← Answer.of (filePath c args)
  match c.world.files.readText c.world.current p with
  | .ok s => return s
  | .error cause => Answer.refuse (.unreadable (String.ofList p) cause)

/-- The lines of a text, without the ends of lines. -/
def lines (cs : List Char) : List (List Char) :=
  let pieces := Chars.splitOn '\n' cs
  let whole := if pieces.getLast?.any List.isEmpty then pieces.dropLast else pieces
  let ended := pieces.length - 1
  whole.mapIdx fun i line =>
    if i < ended && line.getLast? == some '\r' then line.dropLast else line

/-- `ReadAllLines(path)`. -/
def readLines (c : Context) (args : List Value) : Answer Value := do
  return .ofTexts ((lines (← readText c args).toList).map String.ofList)

/-- `WriteAllText(path, text)`. -/
def writeText (c : Context) (args : List Value) : Answer (Value × World) := do
  let p ← Answer.of (filePath c args)
  match c.world.files.writeText c.world.current p (text args 1) with
  | .ok files => return (.null, { c.world with files })
  | .error cause => Answer.refuse (.unwritable (String.ofList p) cause)

/-- `GetParent(path)`. -/
def getParent (c : Context) (args : List Value) : Answer Value := do
  if (chars args 0).all Chars.isBlank then Answer.refuse .emptyPathArgument
  else
    let p ← full c (chars args 0)
    let p := if p == ['/'] then p else Chars.dropEndWhile Path.isSeparator p
    return optional (Path.directoryName? p)

/-- How far a search for names goes. -/
def searchOptions : FlagSet where
  type := "SearchOption"
  names := [("TopDirectoryOnly", 0), ("AllDirectories", 1)]

/-- The files or directories in a place whose names are accepted, and with a depth also those
in the directories below. A path begins with the directory as it was written. -/
def entriesBelow (fs : FileSystem) (wanted : Bool) (accepts : List Char → Bool) :
    Nat → Place → List Char → List (List Char)
  | 0, _, _ => []
  | depth + 1, place, shown =>
    (fs.list place).flatMap fun (name, e) =>
      let path := Path.combine shown name
      (if e.isDirectory == wanted && accepts name then [path] else []) ++
        if e.isDirectory then entriesBelow fs wanted accepts depth (place ++ [name]) path
        else []

/-- The order of paths by code points. -/
def precedes (a b : List Char) : Bool := Chars.compare a b != .gt

/-- `GetFiles(directory[, pattern[, option]])`, and the same for directories. -/
def listEntries (directories : Bool) (c : Context) (args : List Value) : Answer Value := do
  let pattern := if isGiven args 1 then text args 1 else "*"
  let recursive ← if isGiven args 2 then (· == 1) <$> flags args 2 searchOptions else pure false
  let tokens ←
    match Glob.parse pattern.toList with
    | .ok tokens => pure tokens
    | .error cause => Answer.refuse (.searchPattern pattern cause)
  let root ← Answer.of (filePath c args)
  let fs := c.world.files
  match fs.walk c.world.current root with
  | .ok place =>
    if fs.isDirectory c.world.current root then
      let depth := if recursive then fs.entries.length + 1 else 1
      let found := entriesBelow fs directories (Glob.accepts tokens) depth place (chars args 0)
      return .ofTexts ((found.mergeSort precedes).map String.ofList)
    else Answer.refuse (.noDirectory (String.ofList root))
  | .error _ => Answer.refuse (.noDirectory (String.ofList root))

/-- The first directory above a path that holds a file, beginning with the path itself. -/
def directoryOfFileAbove (w : World) (start file : List Char) : Option (List Char) :=
  (start :: Path.ancestors start).find? fun d =>
    w.files.exists? w.current (Path.combine d file)

/-- `GetDirectoryNameOfFileAbove(start, file)`. -/
def getDirectoryOfFileAbove (c : Context) (args : List Value) : Answer Value := do
  let start ← full c (chars args 0)
  answer ((directoryOfFileAbove c.world start (chars args 1)).getD [])

/-- `GetPathOfFileAbove(file[, start])`. -/
def getPathOfFileAbove (c : Context) (args : List Value) : Answer Value := do
  let file := chars args 0
  if file.any Path.isSeparator then Answer.refuse .fileNameHasDirectory
  else
    let start ←
      if (chars args 1).isEmpty then pure (c.base.getD c.world.current)
      else full c (chars args 1)
    let start ← Answer.of (Path.full c.world.current none start)
    match directoryOfFileAbove c.world start file with
    | some d => answer (Path.combine d file)
    | none => answer []

/-- `MakeRelative(directory, path)`. -/
def makeRelative (c : Context) (args : List Value) : Answer Value := do
  let base ← full c (Path.withTrailingSlash (chars args 0))
  let p ← full { c with base := some base } (chars args 1)
  answer (← Answer.of (Path.makeRelative c.world.current base p))

/-- Paths combined in turn, in full form. -/
def combinedFull (c : Context) (args : List Value) : Answer (List Char) :=
  let combined := args.foldl (fun p v => Path.combine p v.display.toList) []
  if combined.all Chars.isBlank then Answer.refuse .emptyPath else full c combined

/-- `NormalizePath(paths…)`. -/
def normalizePath (c : Context) (args : List Value) : Answer Value := do
  answer (← combinedFull c args)

/-- `NormalizeDirectory(paths…)`. -/
def normalizeDirectory (c : Context) (args : List Value) : Answer Value := do
  answer (Path.withTrailingSlash (← combinedFull c args))

/-- The static functions on paths. -/
def paths : List Function :=
  let type := "system.io.path"
  [ .constant type "altdirectoryseparatorchar" (.char '/'),
    .pure type "changeextension" 2 2 changeExtension,
    .pure type "combine" 1 16 combine,
    .constant type "directoryseparatorchar" (.char '/'),
    .pure type "getdirectoryname" 1 1 (ofPath fun p => optional (Path.directoryName? p)),
    .pure type "getextension" 1 1 (part Path.extension),
    .pure type "getfilename" 1 1 (part Path.fileName),
    .pure type "getfilenamewithoutextension" 1 1 (part Path.stem),
    .reading type "getfullpath" 1 1 getFullPath,
    .pure type "getpathroot" 1 1 (part Path.root),
    .reading type "gettemppath" 0 0 getTempPath,
    .pure type "hasextension" 1 1 (ofPath fun p => .bool !(Path.extension p).isEmpty),
    .pure type "ispathrooted" 1 1 (ofPath fun p => .bool (Path.isRooted p)),
    .constant type "pathseparator" (.char ':') ]

/-- The static functions on files and directories. -/
def files : List Function :=
  [ .reading "system.io.file" "exists" 1 1 (leadsTo FileSystem.isFile),
    .reading "system.io.file" "getcreationtime" 1 1 (fileTime FileEntry.created),
    .reading "system.io.file" "getlastaccesstime" 1 1 (fileTime FileEntry.accessed),
    .reading "system.io.file" "getlastwritetime" 1 1 (fileTime FileEntry.modified),
    .reading "system.io.file" "readalltext" 1 1 fun c args => Value.text <$> readText c args,
    .reading "system.io.directory" "getdirectories" 1 3 (listEntries true),
    .reading "system.io.directory" "getfiles" 1 3 (listEntries false),
    .reading "system.io.directory" "getlastaccesstime" 1 1 (fileTime FileEntry.accessed),
    .reading "system.io.directory" "getlastwritetime" 1 1 (fileTime FileEntry.modified),
    .reading "system.io.directory" "getparent" 1 1 getParent ]

/-- The functions on paths that build files call by the name of the tool. -/
def searches : List Function :=
  let type := "msbuild"
  [ .pure type "ensuretrailingslash" 1 1 fun args => answer (Path.withTrailingSlash (chars args 0)),
    .reading type "getdirectorynameoffileabove" 2 2 getDirectoryOfFileAbove,
    .reading type "getpathoffileabove" 1 2 getPathOfFileAbove,
    .reading type "makerelative" 2 2 makeRelative,
    .reading type "normalizedirectory" 1 16 normalizeDirectory,
    .reading type "normalizepath" 1 16 normalizePath ]

/-- The static functions of these types. -/
def statics : List Function := paths ++ files ++ searches

/-- The functions of these types in the extended table. -/
def extended : List Function :=
  [ .reading "system.io.directory" "exists" 1 1 (leadsTo FileSystem.isDirectory),
    .reading "system.io.file" "readalllines" 1 1 readLines,
    { type := "system.io.file", name := "writealltext", least := 2, most := 2
      body := .changes writeText } ]

end PathFunctions

end BuildExpr
