import BuildExpr.Fault
import BuildExpr.Text.Blank

/-!
# Search patterns for names

A pattern stands for a set of names: `?` is any byte, `*` any bytes, `[...]` one of a class and
`\x7b...,...\x7d` one of several patterns; a backslash takes a character as it is. `**` between
separators stands for any number of directories. Names are compared byte by byte.
-/

namespace BuildExpr

/-- A part of a search pattern. -/
inductive GlobToken
  | literal (c : Char)
  /-- Any byte but a separator. -/
  | any
  /-- Any bytes but separators. -/
  | many
  | oneOf (negated : Bool) (ranges : List (Char × Char))
  /-- `**` at the front. -/
  | anyFront
  /-- `**` at the end. -/
  | anyEnd
  /-- `**` between separators. -/
  | anyBetween
  | choice (branches : List (List GlobToken))
  deriving Inhabited

namespace Glob

/-- The state of reading a pattern. -/
structure Reading where
  /-- The branches that are open, the innermost first, each with its tokens in reverse. -/
  branches : List (List GlobToken) := [[]]
  /-- How many branches were open before each open group, the innermost first. -/
  groups : List Nat := []
  /-- The character before the one that is read. -/
  before : Option Char := none

/-- The state after one more token. -/
def Reading.push (r : Reading) (t : GlobToken) : Reading :=
  match r.branches with
  | [] => { r with branches := [[t]] }
  | branch :: rest => { r with branches := (t :: branch) :: rest }

/-- The state in which the last token is replaced by `**`, unless that is such a token. -/
def Reading.replaceLast (r : Reading) (t : GlobToken) : Reading :=
  match r.branches with
  | (.anyFront :: _) :: _ | (.anyEnd :: _) :: _ => r
  | (_ :: branch) :: rest => { r with branches := (t :: branch) :: rest }
  | _ => r

/-- Whether the branch that is read is empty. -/
def Reading.isFresh (r : Reading) : Bool := (r.branches.headD []).isEmpty

/-- Closes the innermost group. -/
def Reading.close (r : Reading) : Except GlobFault Reading :=
  match r.groups with
  | [] => .error .unopenedAlternates
  | outer :: groups =>
    let count := r.branches.length - outer
    let inner := (r.branches.take count).reverse.map List.reverse
    .ok ({ r with branches := r.branches.drop count, groups }.push (.choice inner))

/-- Sets the end of the range that was read last. -/
def endRange (ranges : List (Char × Char)) (c : Char) : Except GlobFault (List (Char × Char)) :=
  match ranges with
  | (low, _) :: rest => if c < low then .error (.invalidRange low c) else .ok ((low, c) :: rest)
  | [] => .ok [(c, c)]

/-- Reads a class after its opening bracket: its ranges in reverse and the text after it. -/
def readClass (first inRange : Bool) (ranges : List (Char × Char)) :
    List Char → Except GlobFault (List (Char × Char) × List Char)
  | [] => .error .unclosedClass
  | c :: cs =>
    if c == ']' && !first then
      .ok (if inRange then ('-', '-') :: ranges else ranges, cs)
    else if c == '-' && !first && !inRange then readClass false true ranges cs
    else if inRange then do readClass false false (← endRange ranges c) cs
    else readClass false false ((c, c) :: ranges) cs

/-- Whether `**` at this place stands for directories, when it is not at the front: after a
separator, or at the start of a branch of a group. -/
def Reading.startsSegment (r : Reading) : Bool :=
  r.before == some '/' ||
    (1 < r.branches.length && (r.before == some ',' || r.before == some '\x7b'))

/-- Reads `**` and what belongs to it: the state and the text after it. -/
def readStars (r : Reading) (cs : List Char) : Reading × List Char :=
  let plain := (r.push .many).push .many
  if r.isFresh then
    match cs with
    | [] => (r.push .anyFront, [])
    | c :: rest => if c == '/' then (r.push .anyFront, rest) else (plain, cs)
  else if !r.startsSegment then (plain, cs)
  else
    match cs with
    | [] => (r.replaceLast .anyEnd, [])
    | c :: rest =>
      if c == '/' then (r.replaceLast .anyBetween, rest)
      else if (c == ',' || c == '\x7d') && 1 < r.branches.length then
        (r.replaceLast .anyEnd, cs)
      else (plain, cs)

/-- Reads a pattern. The number bounds the characters that are left. -/
def readTokens : Nat → Reading → List Char → Except GlobFault Reading
  | 0, r, _ => .ok r
  | _, r, [] => .ok r
  | fuel + 1, r, c :: cs =>
    let next := fun (r : Reading) => readTokens fuel { r with before := some c } cs
    match c with
    | '?' => next (r.push .any)
    | '*' =>
      match cs with
      | '*' :: cs =>
        let (r, rest) := readStars r cs
        let before := if rest.length < cs.length then some '/' else some '*'
        readTokens fuel { r with before } rest
      | _ => next (r.push .many)
    | '[' => do
      let (negated, body) :=
        match cs with
        | '!' :: rest | '^' :: rest => (true, rest)
        | _ => (false, cs)
      let (ranges, rest) ← readClass true false [] body
      readTokens fuel { r.push (.oneOf negated ranges.reverse) with before := some ']' } rest
    | '\x7b' =>
      next { r with branches := [] :: r.branches, groups := r.branches.length :: r.groups }
    | '\x7d' => do next (← r.close)
    | ',' =>
      if r.groups.isEmpty then next (r.push (.literal ','))
      else next { r with branches := [] :: r.branches }
    | '\\' =>
      match cs with
      | [] => .error .danglingEscape
      | d :: rest => readTokens fuel { r.push (.literal d) with before := some d } rest
    | c => next (r.push (.literal c))

/-- Reads a whole pattern. -/
def parse (cs : List Char) : Except GlobFault (List GlobToken) := do
  let r ← readTokens cs.length {} cs
  match r.branches with
  | [tokens] => return tokens.reverse
  | _ => .error .unclosedAlternates

/-- The bytes of a character. -/
def bytes (c : Char) : List UInt8 := (String.singleton c).toUTF8.toList

/-- The byte of the separator. -/
def slash : UInt8 := 47

/-- Whether a byte is in the class that a range of characters stands for byte by byte. -/
def inRange (b : UInt8) (range : Char × Char) : Bool :=
  let low := bytes range.1
  if range.1 == range.2 then low.contains b
  else
    let high := bytes range.2
    low.dropLast.contains b || high.tail.contains b ||
      (low.getLastD 0 ≤ b && b ≤ high.headD 0)

/-- All ends of a list, from the list itself to the empty one. -/
def ends : List UInt8 → List (List UInt8)
  | [] => [[]]
  | b :: bs => (b :: bs) :: ends bs

/-- The ends that follow a separator. -/
def afterSlashes : List UInt8 → List (List UInt8)
  | [] => []
  | b :: bs => if b == slash then bs :: afterSlashes bs else afterSlashes bs

/-- The ends that are reached without passing a separator. -/
def withinName : List UInt8 → List (List UInt8)
  | [] => [[]]
  | b :: bs => (b :: bs) :: if b == slash then [] else withinName bs

/-- The rest after one byte with a property. -/
def oneByte (p : UInt8 → Bool) : List UInt8 → List (List UInt8)
  | [] => []
  | b :: bs => if p b then [bs] else []

mutual

/-- Whether a token stands for nothing at all: a group of branches without tokens. -/
def isVoid : GlobToken → Bool
  | .choice branches => areVoidBranches branches
  | _ => false

/-- Whether all of some tokens stand for nothing. -/
def areVoid : List GlobToken → Bool
  | [] => true
  | t :: ts => isVoid t && areVoid ts

/-- Whether all branches stand for nothing. -/
def areVoidBranches : List (List GlobToken) → Bool
  | [] => true
  | branch :: branches => areVoid branch && areVoidBranches branches

end

mutual

/-- What can be left of a name after a token. -/
def rests : GlobToken → List UInt8 → List (List UInt8)
  | .literal c, name =>
    if (bytes c).isPrefixOf name then [name.drop (bytes c).length] else []
  | .any, name => oneByte (· != slash) name
  | .many, name => withinName name
  | .oneOf negated ranges, name => oneByte (fun b => ranges.any (inRange b) != negated) name
  | .anyFront, name => name :: afterSlashes name
  | .anyEnd, name => (oneByte (· == slash) name).flatMap ends
  | .anyBetween, name => (oneByte (· == slash) name).flatMap fun rest => rest :: afterSlashes rest
  | .choice branches, name =>
    if areVoidBranches branches then [name] else restsOfBranches branches name

/-- What can be left of any of some names after tokens in a row. -/
def restsOfAll : List GlobToken → List (List UInt8) → List (List UInt8)
  | [], names => names
  | t :: ts, names => restsOfAll ts (names.flatMap (rests t)).eraseDups

/-- What can be left of a name after one of several branches. A branch that stands for nothing
does not count. -/
def restsOfBranches : List (List GlobToken) → List UInt8 → List (List UInt8)
  | [], _ => []
  | branch :: branches, name =>
    (if areVoid branch then [] else restsOfAll branch [name]) ++ restsOfBranches branches name

end

/-- Whether a pattern stands for a name. -/
def accepts (tokens : List GlobToken) (name : List Char) : Bool :=
  let name := (String.ofList name).toUTF8.toList
  match tokens with
  | [.anyFront] => true
  | _ => (restsOfAll tokens [name]).any List.isEmpty

end Glob

end BuildExpr
