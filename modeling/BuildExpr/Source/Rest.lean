import BuildExpr.Source.Nesting
import BuildExpr.Source.Span

/-!
# The unread rest of a source

A `Rest` is what is still to be read of a piece of source text, with the position of its first
byte. Each reading step returns what it read and the rest after it, which is never longer.
-/

namespace BuildExpr

namespace Chars

/-- Letters, digits and the underscore. -/
def isWord (c : Char) : Bool := c.isAlphanum || c == '_'

/-- The characters that continue a name, and the rest. With `dash` a `-` continues it too,
unless a `>` follows. -/
def nameTail (dash : Bool) : List Char → List Char × List Char
  | [] => ([], [])
  | c :: cs =>
    if isWord c || (dash && c == '-' && cs.head? != some '>') then
      let (name, rest) := nameTail dash cs
      (c :: name, rest)
    else ([], c :: cs)

/-- Reads a name: a letter or underscore and the characters that continue it. -/
def name? (dash : Bool) : List Char → Option (List Char × List Char)
  | [] => none
  | c :: cs =>
    if c.isAlpha || c == '_' then
      let (name, rest) := nameTail dash cs
      some (c :: name, rest)
    else none

end Chars

/-- The unread rest of a piece of source text and the position of its first byte. -/
structure Rest where
  pos : Nat
  chars : List Char
  deriving DecidableEq, Inhabited

namespace Rest

/-- All of a text. -/
def ofText (text : String) : Rest := ⟨0, text.toList⟩

/-- The rest as a span. -/
def span (r : Rest) : Span := ⟨r.pos, String.ofList r.chars⟩

/-- Whether nothing is left. -/
def isEmpty (r : Rest) : Bool := r.chars.isEmpty

/-- The next character. -/
def peek? (r : Rest) : Option Char := r.chars.head?

/-- What follows the next `n` characters. -/
def drop (r : Rest) (n : Nat) : Rest :=
  ⟨r.pos + Chars.byteLength (r.chars.take n), r.chars.drop n⟩

/-- What follows the next character. -/
def next (r : Rest) : Rest := r.drop 1

/-- What follows the blanks that may stand between the parts of a reference. -/
def skipBlanks (r : Rest) : Rest :=
  ⟨r.pos + Chars.byteLength (r.chars.takeWhile Chars.isAsciiBlank),
    r.chars.dropWhile Chars.isAsciiBlank⟩

/-- The span from here to a later rest of the same text. -/
def upTo (r later : Rest) : Span :=
  ⟨r.pos, String.ofList (r.chars.take (r.chars.length - later.chars.length))⟩

/-- The text without the blanks at its ends. -/
def trimmed (r : Rest) : Rest :=
  ⟨r.pos + Chars.byteLength (r.chars.takeWhile Chars.isBlank), Chars.trim r.chars⟩

/-- Reads a name. -/
def name? (r : Rest) (dash : Bool) : Option (Span × Rest) :=
  (Chars.name? dash r.chars).map fun (name, rest) =>
    (⟨r.pos, String.ofList name⟩, ⟨r.pos + Chars.byteLength name, rest⟩)

/-- Reads a group when the next character is its opening bracket: the inside and what follows
the closing bracket. -/
def group? (opener closer : Char) (r : Rest) : Option (Rest × Rest) :=
  match r.chars with
  | [] => none
  | c :: cs =>
    (Chars.closing opener closer { depth := 1 } cs).map fun (inside, after) =>
      let start := r.pos + c.utf8Size
      (⟨start, inside⟩, ⟨start + Chars.byteLength inside + closer.utf8Size, after⟩)

/-- Reads a quoted run when the next character is its quote: the inside and what follows the
closing quote. -/
def quoted? (r : Rest) : Option (Rest × Rest) :=
  match r.chars with
  | [] => none
  | q :: cs =>
    (Chars.cut? q cs).map fun (inside, after) =>
      let start := r.pos + q.utf8Size
      (⟨start, inside⟩, ⟨start + Chars.byteLength inside + q.utf8Size, after⟩)

/-- The texts of a list as rests, when each is separated from the next by one byte. -/
def pieces (pos : Nat) : List (List Char) → List Rest
  | [] => []
  | piece :: more => ⟨pos, piece⟩ :: pieces (pos + Chars.byteLength piece + 1) more

/-- The pieces between the commas of an argument list. -/
def splitArguments (r : Rest) : Option (List Rest) :=
  (Chars.splitArguments r.chars).map (pieces r.pos)

end Rest

end BuildExpr
