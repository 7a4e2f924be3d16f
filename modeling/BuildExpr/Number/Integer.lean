import BuildExpr.Number.Numeral
import BuildExpr.Text.Blank

/-!
# Integers of 64 bits

Exact results are computed in `Int` and kept only when they fit. Bitwise operations and the
bases other than ten see the two's complement of a negative number.
-/

namespace BuildExpr

namespace Integer

/-- The least integer of 64 bits. -/
def least : Int := -9223372036854775808

/-- The greatest integer of 64 bits. -/
def greatest : Int := 9223372036854775807

/-- An integer as a word, when it fits in 64 bits. -/
def fit? (n : Int) : Option Int64 :=
  if least ≤ n ∧ n ≤ greatest then some (Int64.ofInt n) else none

/-- Whether a word fits in 32 bits. -/
def fits32 (n : Int64) : Bool := -2147483648 ≤ n.toInt && n.toInt < 2147483648

/-- The text without one sign in front, and whether that sign is a minus. -/
def splitSign : List Char → Bool × List Char
  | '-' :: cs => (true, cs)
  | '+' :: cs => (false, cs)
  | cs => (false, cs)

/-- Reads an optional sign and digits of a base. -/
def readSigned? (base : Nat) (cs : List Char) : Option Int64 :=
  let (negative, digits) := splitSign cs
  (Numeral.read? base digits).bind fun n => fit? (if negative then -(n : Int) else n)

/-- Reads a decimal integer between blanks. -/
def parse? (s : String) : Option Int64 := readSigned? 10 (Chars.trim s.toList)

/-- An integer in decimal. -/
def chars (n : Int) : List Char :=
  if n < 0 then '-' :: Numeral.decimal n.natAbs else Numeral.decimal n.natAbs

/-- An integer in decimal. -/
def text (n : Int64) : String := String.ofList (chars n.toInt)

/-- The number whose 64 binary digits are those of the word. -/
def bits (n : Int64) : Nat := n.toUInt64.toNat

/-- A word in base 2, 8, 10 or 16; no other base is known. -/
def textInBase? (n : Int64) (base : Int64) : Option String :=
  match base.toInt with
  | 2 => some (String.ofList (Numeral.text 2 (bits n)))
  | 8 => some (String.ofList (Numeral.text 8 (bits n)))
  | 10 => some (text n)
  | 16 => some (String.ofList (Numeral.text 16 (bits n)))
  | _ => none

/-- The letters that choose a rendering, and the number after them: how many digits, or for
`N` how many zeros after the point. -/
inductive Format
  | hexUpper (width : Nat)
  | hexLower (width : Nat)
  | decimal (width : Nat)
  | grouped (places : Nat)
  deriving DecidableEq

/-- Reads a rendering written as a letter and a number. The empty text is plain decimal. -/
def Format.parse? (s : String) : Option Format :=
  match s.toList with
  | [] => some (.decimal 0)
  | c :: cs =>
    let width := if cs.isEmpty then some 0 else Numeral.readBounded? Numeral.bound64 cs
    width.bind fun width =>
      match c with
      | 'X' => some (.hexUpper width)
      | 'x' => some (.hexLower width)
      | 'D' | 'd' => some (.decimal width)
      | 'N' | 'n' => some (.grouped width)
      | _ => none

/-- The digits of the absolute value. -/
def magnitude (n : Int64) : List Char := Numeral.decimal n.toInt.natAbs

/-- A word in a rendering. -/
def Format.apply (format : Format) (n : Int64) : String :=
  let sign := if n.toInt < 0 then ['-'] else []
  String.ofList <|
    match format with
    | .hexUpper width => Numeral.padded width ((Numeral.text 16 (bits n)).map Char.toUpper)
    | .hexLower width => Numeral.padded width (Numeral.text 16 (bits n))
    | .decimal width => sign ++ Numeral.padded width (magnitude n)
    | .grouped places =>
      sign ++ Numeral.grouped (magnitude n) ++
        (if places == 0 then [] else '.' :: List.replicate places '0')

end Integer

end BuildExpr
