import BuildExpr.Functions.Arguments
import BuildExpr.Regex.Replacement

/-!
# Functions on regular expressions

Finding, replacing and splitting by a pattern, and the escaping of text in patterns.
-/

namespace BuildExpr

namespace Chars

/-- Whether a character has a meaning of its own in patterns. -/
def isPatternSpecial (c : Char) : Bool :=
  ['\\', '*', '+', '?', '|', '\x7b', '[', '(', ')', '^', '$', '.', '#', ' '].contains c

/-- A character as it is written in a pattern that matches it. -/
def patternEscapeChar (c : Char) : List Char :=
  if isPatternSpecial c then ['\\', c]
  else if c == '\t' then ['\\', 't']
  else if c == '\n' then ['\\', 'n']
  else if c == '\r' then ['\\', 'r']
  else if c == '\x0c' then ['\\', 'f']
  else [c]

/-- A text as it is written in a pattern that matches it. -/
def patternEscape (cs : List Char) : List Char := cs.flatMap patternEscapeChar

/-- What a backslash and a character stand for when escapes are taken away. -/
def patternUnescapeChar : Char → Char
  | 't' => '\t'
  | 'n' => '\n'
  | 'r' => '\r'
  | 'f' => '\x0c'
  | c => c

/-- A text with its escapes taken away. A backslash at the end is refused. -/
def patternUnescape : List Char → Except Fault (List Char)
  | [] => .ok []
  | ['\\'] => .error .danglingBackslash
  | '\\' :: c :: cs => (patternUnescapeChar c :: ·) <$> patternUnescape cs
  | c :: cs => (c :: ·) <$> patternUnescape cs

end Chars

namespace PatternFunctions

open Arguments

/-- The options that a pattern may be given with. -/
def optionSet : FlagSet where
  type := "RegexOptions"
  names :=
    [ ("None", 0), ("IgnoreCase", 1), ("Multiline", 2), ("ExplicitCapture", 4), ("Compiled", 8),
      ("Singleline", 16), ("IgnorePatternWhitespace", 32), ("RightToLeft", 64),
      ("ECMAScript", 256), ("CultureInvariant", 512) ]

/-- Whether an option is among the bits of options. -/
def hasOption (bits option : Nat) : Bool := bits &&& option != 0

/-- The flags that options stand for. -/
def flagsOf (bits : Nat) : Regex.Flags where
  ignoreCase := hasOption bits 1
  multiLine := hasOption bits 2
  dotAll := hasOption bits 16
  verbose := hasOption bits 32

/-- The most bytes that the automaton of a pattern may take. -/
def costLimit : Nat := 10485760

/-- Reads a pattern with its options. -/
def compile (pattern : String) (bits : Nat) : Except Fault Pattern :=
  if hasOption bits 64 then .error .rightToLeft
  else
    match Pattern.read? (flagsOf bits) pattern.toList with
    | none => .error (.regularExpression pattern .malformed)
    | some p =>
      if costLimit < p.regex.cost then .error (.regularExpression pattern .tooLarge) else .ok p

/-- The pattern at index 1 with the options at another index. -/
def pattern (args : List Value) (options : Nat) : Answer Pattern := do
  let bits ← if isGiven args options then flags args options optionSet else pure 0
  Answer.of (compile (text args 1) bits)

/-- Texts as an array. -/
def ofChars (texts : List (List Char)) : Value := .ofTexts (texts.map String.ofList)

/-- `IsMatch(input, pattern[, options])`. -/
def isMatch (args : List Value) : Answer Value := do
  return .bool ((← pattern args 2).find? (chars args 0)).isSome

/-- `Match(input, pattern[, options])`: the text of the first match, or the empty text. -/
def firstMatch (args : List Value) : Answer Value := do
  let found := (← pattern args 2).find? (chars args 0)
  return .text (String.ofList ((found.bind fun m => m.group? (chars args 0) 0).getD []))

/-- `Matches(input, pattern[, options])`: the texts of all matches. -/
def allMatches (args : List Value) : Answer Value := do
  let found := (← pattern args 2).findAll (chars args 0)
  return ofChars (found.filterMap fun m => m.group? (chars args 0) 0)

/-- `Replace(input, pattern, replacement[, options])`. -/
def replace (args : List Value) : Answer Value := do
  return .text (String.ofList ((← pattern args 3).replaceAll (chars args 2) (chars args 0)))

/-- `Split(input, pattern[, options])`. -/
def split (args : List Value) : Answer Value := do
  return ofChars ((← pattern args 2).split (chars args 0))

/-- `Escape(text)`. -/
def escape (args : List Value) : Answer Value :=
  .ok (.text (String.ofList (Chars.patternEscape (chars args 0))))

/-- `Unescape(text)`. -/
def unescape (args : List Value) : Answer Value := do
  return .text (String.ofList (← Answer.of (Chars.patternUnescape (chars args 0))))

/-- The static functions. -/
def statics : List Function :=
  let type := "system.text.regularexpressions.regex"
  [ .pure type "escape" 1 1 escape,
    .pure type "ismatch" 2 3 isMatch,
    .pure type "match" 2 3 firstMatch,
    .pure type "matches" 2 3 allMatches,
    .pure type "replace" 3 4 replace,
    .pure type "split" 2 3 split,
    .pure type "unescape" 1 1 unescape ]

end PatternFunctions

end BuildExpr
