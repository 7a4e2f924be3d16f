import BuildExpr.Number.Numeral
import BuildExpr.Regex.Flags
import BuildExpr.Regex.Property

/-!
# Atoms of patterns

The smallest parts of a pattern: characters, escapes and what they stand for under the flags.
Reading gives nothing when the pattern is malformed.
-/

namespace BuildExpr

namespace Regex

/-- A part of a pattern that is not made of others. -/
inductive Atom
  /-- A character; `asByte` when it is written as a byte by two digits. -/
  | char (c : Char) (asByte : Bool)
  | anchor (a : Anchor)
  /-- A place at a word, which depends on the flags. -/
  | word (edge : WordEdge)
  /-- A class of all scripts, and the same in ASCII. -/
  | kind (wide narrow : CharClass) (negated : Bool)
  /-- The characters with a property of the Unicode standard, which only text that is not seen as
  bytes has. -/
  | property (c : CharClass) (negated : Bool)
  deriving DecidableEq

namespace Atom

/-- The class of an atom, as a part of a class. -/
def class? (f : Flags) : Atom → Option CharClass
  | char c _ => if f.unicode || c.toNat < 128 then some (.single c) else none
  | kind wide narrow negated =>
    let c := if f.unicode then wide else narrow
    if negated then f.negate? c else some c
  | property c negated =>
    if !f.unicode then none
    else if negated then f.negate? (f.fold c)
    else some (f.fold c)
  | anchor _ | word _ => none

/-- The expression of an atom by itself. -/
def regex? (f : Flags) : Atom → Option Regex
  | char c asByte =>
    if !f.unicode && asByte && 128 ≤ c.toNat then none else some (.one (f.fold (.single c)))
  | anchor a => some (.look a)
  | word edge => some (.look (.word edge !f.unicode))
  | kind wide narrow negated => (class? f (kind wide narrow negated)).map .one
  | property c negated => (class? f (property c negated)).map .one

end Atom

/-- The character with a code. -/
def charOfCode? (n : Nat) : Option Char :=
  if h : n.isValidChar then some (Char.ofNatAux n h) else none

/-- The number of exactly so many hexadecimal digits. -/
def hexDigits (f : Flags) : Nat → Nat → List Char → Option (Nat × List Char)
  | 0, n, cs => some (n, cs)
  | _ + 1, _, [] => none
  | k + 1, n, c :: cs =>
    (Numeral.digit? 16 c).bind fun d => hexDigits f k (16 * n + d) (f.skip cs)

/-- A character given by its code in so many digits or between braces. -/
def readCode (f : Flags) (digits : Nat) (cs : List Char) : Option (Atom × List Char) := do
  match f.skip cs with
  | '\x7b' :: cs =>
    let (digits, cs) ← f.toBrace false cs
    return (.char (← charOfCode? (← Numeral.read? 16 digits)) false, f.skip cs)
  | cs =>
    let (n, cs) ← hexDigits f digits 0 cs
    return (.char (← charOfCode? n) (digits == 2), cs)

/-- The kind of place at a word with a name. -/
def wordEdge? : String → Option WordEdge
  | "start" => some .start
  | "end" => some .stop
  | "start-half" => some .startHalf
  | "end-half" => some .stopHalf
  | _ => none

/-- Whether a character can be in the name of a kind of place. -/
def isEdgeLetter (c : Char) : Bool := c.isAlpha || c == '-'

/-- The place at a word after `\b`, whose kind may stand in braces. Braces that do not begin
with a letter count copies and are left alone. -/
def readEdge (f : Flags) (cs : List Char) : Option (Atom × List Char) :=
  match cs with
  | '\x7b' :: inside =>
    match f.skip inside with
    | [] => none
    | c :: _ =>
      if isEdgeLetter c then do
        let (name, rest) ← f.toBrace false inside
        return (.word (← wordEdge? (String.ofList name)), rest)
      else some (.word .boundary, cs)
  | _ => some (.word .boundary, cs)

/-- The property after `\p`, which is one character or described between braces. -/
def readProperty (f : Flags) (negated : Bool) (cs : List Char) : Option (Atom × List Char) :=
  match f.skip cs with
  | [] => none
  | '\x7b' :: cs => do
    let (text, cs) ← f.toBrace false cs
    return (.property (← CharClass.described? text) negated, cs)
  | c :: cs =>
    if c == '\\' then none
    else (CharClass.ofProperty? [c]).map fun k => (.property k negated, f.skip cs)

/-- Whether a backslash before a character makes it stand for itself. -/
def isEscapable (c : Char) : Bool := c.toNat < 128 && !c.isAlphanum && c != '<' && c != '>'

/-- What a backslash and the text after it stand for. -/
def readEscape (f : Flags) : List Char → Option (Atom × List Char)
  | [] => none
  | c :: cs =>
    let char (n : Nat) : Option (Atom × List Char) := some (.char (Char.ofNat n) false, cs)
    match c with
    | 'x' => readCode f 2 cs
    | 'u' => readCode f 4 cs
    | 'U' => readCode f 8 cs
    | 'p' => readProperty f false cs
    | 'P' => readProperty f true cs
    | 'd' => some (.kind .digit .asciiDigit false, cs)
    | 'D' => some (.kind .digit .asciiDigit true, cs)
    | 's' => some (.kind .blank .asciiBlank false, cs)
    | 'S' => some (.kind .blank .asciiBlank true, cs)
    | 'w' => some (.kind .word .asciiWord false, cs)
    | 'W' => some (.kind .word .asciiWord true, cs)
    | 'a' => char 7
    | 'f' => char 12
    | 't' => char 9
    | 'n' => char 10
    | 'r' => char 13
    | 'v' => char 11
    | 'A' => some (.anchor .textStart, cs)
    | 'z' => some (.anchor .textEnd, cs)
    | 'b' => readEdge f cs
    | 'B' => some (.word .inside, cs)
    | '<' => some (.word .start, cs)
    | '>' => some (.word .stop, cs)
    | _ => if isEscapable c then some (.char c false, cs) else none

end Regex

end BuildExpr
