import BuildExpr.Regex.Tree

/-!
# Flags of regular expressions

How characters, dots and anchors of a pattern are to be understood. Flags are set from outside
or in the pattern. Without the flag for Unicode, text is seen as bytes: case and classes know
ASCII only, and nothing that could match a single byte of a longer character is accepted.
-/

namespace BuildExpr

namespace Regex

/-- The flags in force at a place in a pattern. -/
structure Flags where
  ignoreCase : Bool := false
  /-- `^` and `$` match at lines. -/
  multiLine : Bool := false
  /-- A dot matches the end of a line, too. -/
  dotAll : Bool := false
  /-- Repetitions are lazy unless marked. -/
  swapGreed : Bool := false
  unicode : Bool := true
  /-- Lines may end in a carriage return. -/
  crlf : Bool := false
  /-- Blanks and comments in the pattern are skipped. -/
  verbose : Bool := false
  deriving DecidableEq, Inhabited

namespace Flags

/-- Sets or clears the flag with a letter. -/
def set? (f : Flags) (letter : Char) (on : Bool) : Option Flags :=
  match letter with
  | 'i' => some { f with ignoreCase := on }
  | 'm' => some { f with multiLine := on }
  | 's' => some { f with dotAll := on }
  | 'U' => some { f with swapGreed := on }
  | 'u' => some { f with unicode := on }
  | 'R' => some { f with crlf := on }
  | 'x' => some { f with verbose := on }
  | _ => none

/-- The text after blanks and comments; `inside` says whether it begins inside of a comment. -/
def skipComments (inside : Bool) : List Char → List Char
  | [] => []
  | c :: cs =>
    if inside then skipComments (c != '\n') cs
    else if Chars.isBlank c then skipComments false cs
    else if c == '#' then skipComments true cs
    else c :: cs

/-- The text after what the flags make meaningless. -/
def skip (f : Flags) (cs : List Char) : List Char :=
  if f.verbose then skipComments false cs else cs

/-- The text before a closing brace and the text after it, without what the flags make
meaningless before the brace; `inside` says whether the text begins inside of a comment. -/
def toBrace (f : Flags) (inside : Bool) : List Char → Option (List Char × List Char)
  | [] => none
  | c :: cs =>
    if inside then toBrace f (c != '\n') cs
    else if c == '\x7d' then some ([], cs)
    else if f.verbose && Chars.isBlank c then toBrace f false cs
    else if f.verbose && c == '#' then toBrace f true cs
    else (toBrace f false cs).map fun (text, rest) => (c :: text, rest)

/-- A class closed under case when case is ignored. -/
def fold (f : Flags) (c : CharClass) : CharClass :=
  if !f.ignoreCase then c else if f.unicode then .folded c else .foldedAscii c

/-- What a class leaves out. -/
def negate? (f : Flags) (c : CharClass) : Option CharClass :=
  if f.unicode then some (.negate c) else none

/-- What a dot matches. -/
def dot? (f : Flags) : Option CharClass :=
  if !f.unicode then none
  else if f.dotAll then some .any
  else if f.crlf then some (.negate (.union (.single '\r') (.single '\n')))
  else some (.negate (.single '\n'))

/-- What `^` stands for. -/
def startAnchor (f : Flags) : Anchor := if f.multiLine then .lineStart f.crlf else .textStart

/-- What `$` stands for. -/
def endAnchor (f : Flags) : Anchor := if f.multiLine then .lineEnd f.crlf else .textEnd

end Flags

end Regex

end BuildExpr
