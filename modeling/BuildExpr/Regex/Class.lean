import BuildExpr.Text.Blank
import BuildExpr.Text.CaseVariants
import BuildExpr.Text.WordTable

/-!
# Classes of characters

A class stands for a set of characters: ranges, the classes of digits, blanks and word
characters, and what set operations and case folding make of them.
-/

namespace BuildExpr

/-- A set of characters. -/
inductive CharClass
  | none
  | range (first last : Char)
  /-- Decimal digits of every script. -/
  | digit
  /-- Blanks of every script. -/
  | blank
  /-- Word characters of every script. -/
  | word
  /-- The characters of a table. -/
  | listed (table : Text.CharRanges)
  | negate (a : CharClass)
  | union (a b : CharClass)
  | inter (a b : CharClass)
  | diff (a b : CharClass)
  | symDiff (a b : CharClass)
  /-- The characters with a case variant in the class. -/
  | folded (a : CharClass)
  /-- The characters that are in the class in upper or lower case, for the letters A to Z. -/
  | foldedAscii (a : CharClass)
  deriving DecidableEq, Inhabited

namespace CharClass

/-- Whether a character is in a class. -/
def contains : CharClass → Char → Bool
  | none, _ => false
  | range first last, c => first ≤ c && c ≤ last
  | digit, c => Text.isDecimalDigit c
  | blank, c => Chars.isBlank c
  | word, c => Text.isWord c
  | listed table, c => table.has c
  | negate a, c => !a.contains c
  | union a b, c => a.contains c || b.contains c
  | inter a b, c => a.contains c && b.contains c
  | diff a b, c => a.contains c && !b.contains c
  | symDiff a b, c => a.contains c != b.contains c
  | folded a, c => (Chars.caseVariants c).any a.contains
  | foldedAscii a, c => a.contains c.toLower || a.contains c.toUpper

/-- The class of one character. -/
def single (c : Char) : CharClass := range c c

/-- All characters. -/
def any : CharClass := negate none

/-- The class of several ranges. -/
def ofRanges (ranges : List (Char × Char)) : CharClass :=
  ranges.foldr (fun (first, last) rest => union (range first last) rest) none

/-- The digits 0 to 9. -/
def asciiDigit : CharClass := range '0' '9'

/-- Space, tab, newline, vertical tab, form feed and carriage return. -/
def asciiBlank : CharClass := union (range '\t' '\r') (single ' ')

/-- Letters, digits and underscore in ASCII. -/
def asciiWord : CharClass := ofRanges [('0', '9'), ('A', 'Z'), ('_', '_'), ('a', 'z')]

/-- The classes that have a name between colons. -/
def named? : String → Option CharClass
  | "alnum" => some (ofRanges [('0', '9'), ('A', 'Z'), ('a', 'z')])
  | "alpha" => some (ofRanges [('A', 'Z'), ('a', 'z')])
  | "ascii" => some (range '\x00' '\x7f')
  | "blank" => some (ofRanges [('\t', '\t'), (' ', ' ')])
  | "cntrl" => some (ofRanges [('\x00', '\x1f'), ('\x7f', '\x7f')])
  | "digit" => some asciiDigit
  | "graph" => some (range '!' '~')
  | "lower" => some (range 'a' 'z')
  | "print" => some (range ' ' '~')
  | "punct" => some (ofRanges [('!', '/'), (':', '@'), ('[', '\x60'), ('{', '~')])
  | "space" => some asciiBlank
  | "upper" => some (range 'A' 'Z')
  | "word" => some asciiWord
  | "xdigit" => some (ofRanges [('0', '9'), ('A', 'F'), ('a', 'f')])
  | _ => Option.none

@[simp] theorem contains_single (c d : Char) : (single c).contains d = decide (c ≤ d ∧ d ≤ c) := by
  simp [single, contains, Bool.decide_and]

@[simp] theorem contains_any (c : Char) : any.contains c = true := rfl

end CharClass

end BuildExpr
