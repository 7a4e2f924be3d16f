import BuildExpr.Text.PrintableTable
import BuildExpr.Text.Escape

/-!
# Quoted renderings

How a text is shown in diagnostics for developers: control characters by name or number,
quotes and backslashes after a backslash, everything printable as itself.
-/

namespace BuildExpr

namespace Chars

/-- A number in hexadecimal, without leading zeros. -/
def hexText (n : Nat) : List Char := Nat.toDigits 16 n

/-- A character by number. -/
def codeEscape (c : Char) : List Char :=
  ['\\', 'u', '\x7b'] ++ hexText c.toNat ++ ['\x7d']

/-- The shown form of one character. `isQuote` says which quotes take a backslash, and
`extends` whether a combining character is written by number. -/
def shownChar (isQuote : Char → Bool) (extending : Bool) (c : Char) : List Char :=
  if c == '\x00' then ['\\', '0']
  else if c == '\t' then ['\\', 't']
  else if c == '\r' then ['\\', 'r']
  else if c == '\n' then ['\\', 'n']
  else if c == '\\' || isQuote c then ['\\', c]
  else if extending && Text.isGraphemeExtend c then codeEscape c
  else if Text.isPrintable c then [c]
  else codeEscape c

/-- A text between double quotes; single quotes stay as they are. -/
def quoted (cs : List Char) : List Char :=
  '"' :: cs.flatMap (shownChar (· == '"') true) ++ ['"']

/-- A text with both kinds of quotes escaped; a combining character is written by number only
at the front, where it has nothing to combine with. -/
def shown : List Char → List Char
  | [] => []
  | c :: cs =>
    let isQuote := fun q => q == '"' || q == '\''
    shownChar isQuote true c ++ cs.flatMap (shownChar isQuote false)

end Chars

namespace Text

/-- A text between double quotes, with escapes. -/
def quoted (s : String) : String := String.ofList (Chars.quoted s.toList)

end Text

end BuildExpr
