import BuildExpr.Fault
import BuildExpr.Number.Integer
import BuildExpr.Text.Search

/-!
# Version numbers

`major.minor[.build[.revision]]`. A part that is not given is `-1`, so that `1.2` comes before
`1.2.0`. The loose reading used for comparisons takes missing parts as zero and ignores a
label.
-/

namespace BuildExpr

/-- A version number. -/
structure Version where
  major : Int32
  minor : Int32
  build : Int32 := -1
  revision : Int32 := -1
  deriving DecidableEq

namespace Version

/-- The version with four given parts, of which the first two are not negative. -/
def ofParts (major minor build revision : Int32) : Except Fault Version :=
  if major < 0 ∨ minor < 0 then .error .versionSign
  else .ok { major, minor, build, revision }

/-- The four parts in order. -/
def parts (v : Version) : List Int32 := [v.major, v.minor, v.build, v.revision]

/-- The parts before the first negative one. -/
def definedParts (v : Version) : List Int32 := v.parts.takeWhile (0 ≤ ·)

/-- Parts between points. -/
def joinParts (parts : List Int32) : String :=
  String.ofList (Chars.join ['.'] (parts.map fun n => Integer.chars n.toInt))

/-- The version as text: two parts at least, and the others as far as they are given. -/
def text (v : Version) : String :=
  joinParts <|
    if v.build < 0 then [v.major, v.minor]
    else if v.revision < 0 then [v.major, v.minor, v.build]
    else v.parts

/-- The first `count` parts as text. -/
def textOfFields (v : Version) (count : Nat) : Except Fault String :=
  let defined := v.definedParts.length
  if defined < count then .error (.versionFields defined)
  else .ok (joinParts (v.parts.take count))

/-- The order of two versions, part by part. -/
def compare (a b : Version) : Ordering :=
  (a.parts.map Int32.toInt).compareLex Ord.compare (b.parts.map Int32.toInt)

/-- Reads one part: digits between blanks that fit in 32 bits with sign. -/
def parsePart (whole : String) (part : List Char) : Except Fault Int32 :=
  match Numeral.read? 10 (Chars.trim part) with
  | none => .error (.versionText whole)
  | some n => if n < 2147483648 then .ok (Int32.ofInt n) else .error .beyondInt32

/-- Reads two to four parts between points. -/
def parse (s : String) : Except Fault Version :=
  let pieces := Chars.splitOn '.' (Chars.trim s.toList)
  if pieces.length < 2 ∨ 4 < pieces.length then .error .versionLength
  else do
    let read ← pieces.mapM (parsePart s)
    match read with
    | [major, minor] => ofParts major minor (-1) (-1)
    | [major, minor, build] => ofParts major minor build (-1)
    | [major, minor, build, revision] => ofParts major minor build revision
    | _ => .error .versionLength

/-- The text without a `v` in front and without a label after `-` or `+`. -/
def withoutLabel (cs : List Char) : List Char :=
  let cs := Chars.trim cs
  let cs :=
    match cs with
    | 'v' :: rest | 'V' :: rest => rest
    | _ => cs
  cs.takeWhile fun c => c != '-' && c != '+'

/-- Reads one part of a loose version: digits between blanks that fit in 32 bits. -/
def looseFigure? (part : List Char) : Option Nat :=
  (Numeral.read? 10 (Chars.trim part)).filter (· < Numeral.bound32)

/-- Reads one to four parts; those that are missing are zero. -/
def loose? (s : String) : Option (List Nat) :=
  let pieces := Chars.splitOn '.' (withoutLabel s.toList)
  if 4 < pieces.length then none
  else (pieces.mapM looseFigure?).map fun read => read ++ List.replicate (4 - read.length) 0

/-- Compares two texts as loose versions. The first that is none is the fault. -/
def compareLoose (a b : String) : Except Fault Ordering :=
  match loose? a, loose? b with
  | some x, some y => .ok (x.compareLex Ord.compare y)
  | none, _ => .error (.looseVersionText a)
  | _, none => .error (.looseVersionText b)

end Version

end BuildExpr
