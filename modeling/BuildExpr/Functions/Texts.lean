import BuildExpr.Functions.Arguments
import BuildExpr.Text.Compare
import BuildExpr.Text.Template

/-!
# Functions on texts

The static functions of the type of texts and the members of a text. Positions and lengths
count characters; a range outside the text is refused.
-/

namespace BuildExpr

namespace TextFunctions

open Arguments

/-- A text as an answer. -/
def answer (cs : List Char) : Answer Value := .ok (.text (String.ofList cs))

/-- The ways to compare texts; the odd ones ignore case. -/
def comparisons : FlagSet where
  type := "StringComparison"
  names := [("CurrentCulture", 0), ("CurrentCultureIgnoreCase", 1), ("InvariantCulture", 2),
    ("InvariantCultureIgnoreCase", 3), ("Ordinal", 4), ("OrdinalIgnoreCase", 5)]

/-- What happens to the pieces of a split text. -/
def splitOptions : FlagSet where
  type := "StringSplitOptions"
  names := [("None", 0), ("RemoveEmptyEntries", 1), ("TrimEntries", 2)]

/-- Whether an optional argument asks to ignore case. -/
def ignoreCase (args : List Value) (i : Nat) : Answer Bool :=
  if !isGiven args i then .ok false
  else
    match value args i with
    | .bool b => .ok b
    | _ => do return (← flags args i comparisons) % 2 == 1

/-- `Compare(a, b[, ignoreCase])`. -/
def compare (args : List Value) : Answer Value := do
  let ignore ←
    if !isGiven args 2 then pure false
    else
      match bool args 2 with
      | .ok b => pure b
      | .error _ => ignoreCase args 2
  return .ofOrdering (Text.compare (text args 0) (text args 1) ignore)

/-- The texts of the elements of arrays and of other values. -/
def flatTexts (args : List Value) : List String :=
  args.flatMap fun
    | .array elements => elements.map Value.display
    | v => [v.display]

/-- `Concat(values…)`. -/
def concat (args : List Value) : Answer Value := .ok (.text (String.join (flatTexts args)))

/-- `Copy(text)`, and the text of a text. -/
def copy (args : List Value) : Answer Value := .ok (.text (text args 0))

/-- `Equals(other[, comparison])`. -/
def equals (args : List Value) : Answer Value := do
  return .bool (Text.equal (text args 0) (text args 1) (← ignoreCase args 2))

/-- `Format(template, values…)`. -/
def format (args : List Value) : Answer Value := do
  answer (← Answer.of (Template.fill args.tail (chars args 0)))

/-- `IsNullOrEmpty(text)`. -/
def isNullOrEmpty (args : List Value) : Answer Value := .ok (.bool (text args 0).isEmpty)

/-- `IsNullOrWhiteSpace(text)`. -/
def isNullOrBlank (args : List Value) : Answer Value := .ok (.bool (Text.isBlank (text args 0)))

/-- `Join(separator, array)` or `Join(separator, texts…)`. -/
def join (args : List Value) : Answer Value := do
  let pieces ← if args.length == 2 then texts args 1 else pure (args.tail.map Value.display)
  return .text (Text.join (text args 0) pieces)

/-- `new(characters)` or `new(character, count)`. -/
def new (args : List Value) : Answer Value := do
  let characters ← charList args 0
  if isGiven args 1 then
    let count ← integer32 args 1
    if count < 0 then Answer.refuse .negativeCount
    else answer (List.replicate count.toInt.toNat (characters.headD '\x00'))
  else answer characters

/-- The element at an index. -/
def element? {α : Type} (elements : List α) (index : Int64) : Option α :=
  if index < 0 then none else elements[index.toInt.toNat]?

/-- `Chars(index)`, which is what brackets behind a text mean. -/
def characterAt (args : List Value) : Answer Value := do
  let index ← integer args 1
  return .char (← Answer.orRefuse .elementIndex (element? (chars args 0) index))

/-- `CompareTo(other)`. -/
def compareTo (args : List Value) : Answer Value :=
  .ok (.ofOrdering (Text.compare (text args 0) (text args 1) false))

/-- `Contains(part)`. -/
def contains (args : List Value) : Answer Value :=
  .ok (.bool (Chars.contains (chars args 1) (chars args 0)))

/-- A test of a text and a part, both in lower case if case is ignored. -/
def testPart (test : List Char → List Char → Bool) (args : List Value) : Answer Value := do
  return .bool <|
    if ← ignoreCase args 2 then test (Chars.lower (chars args 1)) (Chars.lower (chars args 0))
    else test (chars args 1) (chars args 0)

/-- A position, or -1 when there is none. -/
def position (found : Option Nat) : Value :=
  match found with
  | some i => .ofInt i
  | none => .ofInt (-1)

/-- The start and length of the part that is searched, from two optional arguments. -/
def searchRange (args : List Value) (length first : Nat) : Answer (Nat × Nat) := do
  let start := (← if isGiven args first then integer args first else pure 0).toInt
  if start < 0 ∨ (length : Int) < start then Answer.refuse .searchStart
  else
    let count ←
      if isGiven args (first + 1) then Int64.toInt <$> integer args (first + 1)
      else pure (length - start)
    if count < 0 ∨ length - start < count then Answer.refuse .searchCount
    else return (start.toNat, count.toNat)

/-- Whether the third argument is there and is no number, so that it names a comparison. -/
def namesComparison (args : List Value) : Bool :=
  args.length == 3 && (integer? (value args 2)).isNone

/-- A search with a comparison, on the lower-case forms if case is ignored. -/
def searchFolded (find : List Char → List Char → Option Nat) (args : List Value) :
    Answer Value := do
  return position <|
    if ← ignoreCase args 2 then find (Chars.lower (chars args 1)) (Chars.lower (chars args 0))
    else find (chars args 1) (chars args 0)

/-- `IndexOf(part[, start[, count]])` or `IndexOf(part, comparison)`. -/
def indexOf (args : List Value) : Answer Value :=
  if namesComparison args then searchFolded Chars.find? args
  else do
    let cs := chars args 0
    let (start, count) ← searchRange args cs.length 2
    let found := Chars.find? (chars args 1) ((cs.drop start).take count)
    return position (found.map (start + ·))

/-- `IndexOfAny(characters[, start[, count]])`. -/
def indexOfAny (args : List Value) : Answer Value := do
  let cs := chars args 0
  let any ← charList args 1
  let (start, count) ← searchRange args cs.length 2
  let found := ((cs.drop start).take count).findIdx? any.contains
  return position (found.map (start + ·))

/-- `LastIndexOf(part[, start])` or `LastIndexOf(part, comparison)`. The search goes backwards
from the character at the start; a further argument has no effect. -/
def lastIndexOf (args : List Value) : Answer Value :=
  if namesComparison args then searchFolded Chars.findLast? args
  else do
    let cs := chars args 0
    let stop ←
      if isGiven args 2 then do
        let start := (← integer args 2).toInt
        if start < 0 ∨ (max cs.length 1 : Int) ≤ start then Answer.refuse .backwardStart
        else pure (start.toNat + 1)
      else pure cs.length
    return position (Chars.findLast? (chars args 1) (cs.take stop))

/-- `LastIndexOfAny(characters)`. -/
def lastIndexOfAny (args : List Value) : Answer Value := do
  let cs := chars args 0
  let any ← charList args 1
  return position ((cs.reverse.findIdx? any.contains).map (cs.length - 1 - ·))

/-- `Insert(index, part)`. -/
def insert (args : List Value) : Answer Value := do
  let cs := chars args 0
  let index := (← integer args 1).toInt
  if index < 0 ∨ (cs.length : Int) < index then Answer.refuse .insertStart
  else answer (cs.take index.toNat ++ chars args 2 ++ cs.drop index.toNat)

/-- The number of characters. -/
def length (args : List Value) : Answer Value := .ok (.ofInt (chars args 0).length)

/-- The padding that a text lacks up to a width, in blanks or in a given character. -/
def padding (args : List Value) : Answer (List Char) := do
  let width ← integer32 args 1
  if width < 0 then Answer.refuse .padWidth
  else
    let fill ← if isGiven args 2 then charList args 2 else pure []
    return List.replicate (width.toInt.toNat - (chars args 0).length) (fill.headD ' ')

/-- `PadLeft(width[, character])`. -/
def padLeft (args : List Value) : Answer Value := do
  answer ((← padding args) ++ chars args 0)

/-- `PadRight(width[, character])`. -/
def padRight (args : List Value) : Answer Value := do
  answer (chars args 0 ++ (← padding args))

/-- The length of a range given by an optional argument, and to the end when it is not. -/
def rangeLength (args : List Value) (length : Nat) (start : Int) : Answer Int :=
  if isGiven args 2 then Int64.toInt <$> integer args 2 else .ok (length - start)

/-- `Remove(start[, count])`. -/
def remove (args : List Value) : Answer Value := do
  let cs := chars args 0
  let start := (← integer args 1).toInt
  if start < 0 then Answer.refuse .removeStart
  else
    let count ← rangeLength args cs.length start
    if count < 0 ∨ cs.length - start < count then Answer.refuse .removeCount
    else answer (cs.take start.toNat ++ cs.drop (start + count).toNat)

/-- `Replace(old, new)`. -/
def replace (args : List Value) : Answer Value :=
  if (chars args 1).isEmpty then Answer.refuse .emptyOld
  else answer (Chars.replace (chars args 1) (chars args 2) (chars args 0))

/-- How many pieces a text is split into at most, if there is a limit, and the options. -/
def splitLimit (args : List Value) : Answer (Option Nat × Nat) :=
  if !isGiven args 2 then .ok (none, 0)
  else
    match integer? (value args 2) with
    | some n => if n < 0 then Answer.refuse .negativeCount else .ok (some n.toInt.toNat, 0)
    | none => do return (none, ← flags args 2 splitOptions)

/-- `Split([separators[, count or options]])`. Without separators blanks separate. -/
def split (args : List Value) : Answer Value := do
  let cs := chars args 0
  let separators ← if isGiven args 1 then charList args 1 else pure []
  let separates := fun c => if separators.isEmpty then Chars.isBlank c else separators.contains c
  let (limit, options) ← splitLimit args
  let pieces :=
    match limit with
    | some 0 => []
    | some (cuts + 1) => Chars.splitAtMost separates cuts cs
    | none => Chars.splitWhere separates cs
  let pieces := if options / 2 % 2 == 1 then pieces.map Chars.trim else pieces
  let pieces := if options % 2 == 1 then pieces.filter fun p => !p.isEmpty else pieces
  return .ofTexts (pieces.map String.ofList)

/-- `Substring(start[, length])`. -/
def substring (args : List Value) : Answer Value := do
  let cs := chars args 0
  let start := (← integer args 1).toInt
  if start < 0 then Answer.refuse .substringStartNegative
  else if (cs.length : Int) < start then Answer.refuse .substringStartBeyond
  else
    let count ← rangeLength args cs.length start
    if count < 0 then Answer.refuse .substringLengthNegative
    else if cs.length - start < count then Answer.refuse .substringLengthBeyond
    else answer ((cs.drop start.toNat).take count.toNat)

/-- `ToCharArray()`. -/
def toCharArray (args : List Value) : Answer Value :=
  .ok (.array ((chars args 0).map Value.char))

/-- A change of the characters of a text. -/
def change (f : List Char → List Char) (args : List Value) : Answer Value :=
  answer (f (chars args 0))

/-- A removal of characters from the ends: of given ones, or of blanks. -/
def trimming (f : (Char → Bool) → List Char → List Char) (args : List Value) :
    Answer Value := do
  match value args 1 with
  | .null => answer (f Chars.isBlank (chars args 0))
  | _ =>
    let any ← charList args 1
    answer (f any.contains (chars args 0))

/-- The static functions of the type of texts. -/
def statics : List Function :=
  let type := "system.string"
  [ .pure type "compare" 2 3 compare,
    .pure type "concat" 1 16 concat,
    .pure type "copy" 1 1 copy,
    .constant type "empty" (.text ""),
    .pure type "equals" 2 3 equals,
    .pure type "format" 1 16 format,
    .pure type "isnullorempty" 1 1 isNullOrEmpty,
    .pure type "isnullorwhitespace" 1 1 isNullOrBlank,
    .pure type "join" 2 16 join,
    .pure type "new" 1 2 new ]

/-- The members of a text. -/
def members : List Function :=
  let type := "system.string"
  let dropEnds := fun p cs => Chars.dropEndWhile p (cs.dropWhile p)
  [ .pure type "chars" 1 1 characterAt,
    .pure type "compareto" 1 1 compareTo,
    .pure type "contains" 1 1 contains,
    .pure type "endswith" 1 2 (testPart List.isSuffixOf),
    .pure type "equals" 1 2 equals,
    .pure type "indexof" 1 3 indexOf,
    .pure type "indexofany" 1 3 indexOfAny,
    .pure type "insert" 2 2 insert,
    .pure type "lastindexof" 1 3 lastIndexOf,
    .pure type "lastindexofany" 1 1 lastIndexOfAny,
    .pure type "length" 0 0 length,
    .pure type "padleft" 1 2 padLeft,
    .pure type "padright" 1 2 padRight,
    .pure type "remove" 1 2 remove,
    .pure type "replace" 2 2 replace,
    .pure type "split" 0 2 split,
    .pure type "startswith" 1 2 (testPart List.isPrefixOf),
    .pure type "substring" 1 2 substring,
    .pure type "tochararray" 0 0 toCharArray,
    .pure type "tolower" 0 0 (change Chars.lower),
    .pure type "tolowerinvariant" 0 0 (change Chars.lower),
    .pure type "tostring" 0 0 copy,
    .pure type "toupper" 0 0 (change Chars.upper),
    .pure type "toupperinvariant" 0 0 (change Chars.upper),
    .pure type "trim" 0 1 (trimming dropEnds),
    .pure type "trimend" 0 1 (trimming Chars.dropEndWhile),
    .pure type "trimstart" 0 1 (trimming List.dropWhile) ]

end TextFunctions

end BuildExpr
