import BuildExpr.Text.Blank
import BuildExpr.Text.Search
import BuildExpr.Text.Utf8

/-!
# Percent escapes

The characters that carry meaning in a build file are written `%xx` inside values, so that a
`;` that comes out of a value is never taken for the separator of a list. `escape` writes
them, `unescape` reads every `%` that two hexadecimal digits follow, and `splitList` cuts a
text at its raw semicolons only.

`unescapeBytes` reads the escapes where a text is kept as UTF-8. A code beyond seven bits is one of
Latin-1 and takes two bytes; all bytes that belong to no escape are copied one by one. The result is
a text again only if its bytes are UTF-8, and a text that they would not be stays as it is.
-/

namespace BuildExpr

namespace Chars

/-- The characters that `escape` writes as a percent escape. -/
def isSpecial (c : Char) : Bool :=
  c == '%' || c == '*' || c == '?' || c == '@' || c == '$' || c == ';' || c == '\''

/-- A number below sixteen as a lower-case hexadecimal digit. -/
def hexDigit (n : Nat) : Char :=
  if n < 10 then Char.ofNat ('0'.toNat + n) else Char.ofNat ('a'.toNat + (n - 10))

/-- The value of a hexadecimal digit in either case. -/
def hexValue? (c : Char) : Option Nat :=
  if '0' ≤ c ∧ c ≤ '9' then some (c.toNat - '0'.toNat)
  else if 'a' ≤ c ∧ c ≤ 'f' then some (c.toNat - 'a'.toNat + 10)
  else if 'A' ≤ c ∧ c ≤ 'F' then some (c.toNat - 'A'.toNat + 10)
  else none

/-- The escaped form of one character. -/
def escapeChar (c : Char) : List Char :=
  if isSpecial c then ['%', hexDigit (c.toNat / 16), hexDigit (c.toNat % 16)] else [c]

/-- Every special character written as a percent escape. -/
def escape (cs : List Char) : List Char := cs.flatMap escapeChar

/-- Every `%` with two hexadecimal digits after it, read from left to right without overlap,
replaced by the character of that code. Any other `%` stays as it is. -/
def unescape : List Char → List Char
  | '%' :: high :: low :: cs =>
    match hexValue? high, hexValue? low with
    | some h, some l => Char.ofNat (16 * h + l) :: unescape cs
    | _, _ => '%' :: unescape (high :: low :: cs)
  | c :: cs => c :: unescape cs
  | [] => []

/-- The entries of a list: the pieces between raw semicolons, trimmed, without the empty
ones. -/
def splitList (cs : List Char) : List (List Char) :=
  ((splitOn ';' cs).map trim).filter fun piece => !piece.isEmpty

end Chars

namespace Text

/-- Every special character written as a percent escape. -/
def escape (s : String) : String := String.ofList (Chars.escape s.toList)

/-- Every percent escape replaced by its character. -/
def unescape (s : String) : String := String.ofList (Chars.unescape s.toList)

/-- The entries between raw semicolons, trimmed, without the empty ones. -/
def splitList (s : String) : List String := (Chars.splitList s.toList).map String.ofList

end Text

/-! ## Escapes in bytes -/

namespace Utf8

/-- The byte that begins an escape. -/
def percent : UInt8 := 0x25

/-- The value of a hexadecimal digit in either case. -/
def hexValue? (b : UInt8) : Option UInt8 :=
  if 0x30 ≤ b ∧ b ≤ 0x39 then some (b - 0x30)
  else if 0x61 ≤ b ∧ b ≤ 0x66 then some (b - 0x61 + 10)
  else if 0x41 ≤ b ∧ b ≤ 0x46 then some (b - 0x41 + 10)
  else none

/-- The bytes of the character with a code. -/
def codeBytes (code : UInt8) : List UInt8 :=
  if code < 0x80 then [code] else encode [Char.ofNat code.toNat]

/-- Every percent escape replaced by the bytes of its character. -/
def unescape : List UInt8 → List UInt8
  | b :: high :: low :: bytes =>
    match b == percent, hexValue? high, hexValue? low with
    | true, some h, some l => codeBytes ((h <<< 4) ||| l) ++ unescape bytes
    | _, _, _ => b :: unescape (high :: low :: bytes)
  | b :: bytes => b :: unescape bytes
  | [] => []

end Utf8

/-- A text with the percent escapes in its bytes replaced, as long as the bytes stay UTF-8. -/
def Text.unescapeBytes (s : String) : String :=
  if s.toList.contains '%' then
    match Utf8.decode (Utf8.unescape (Utf8.encode s.toList)) with
    | .ok cs => String.ofList cs
    | .error _ => s
  else s

end BuildExpr
