import BuildExpr.Text.Blank
import BuildExpr.Number.Integer

/-!
# Floating point numbers of 64 bits

A finite double is `±m · 2^e`. Reading a decimal, converting an integer and cutting the
fraction off are all done on these exact parts: the exact result is rounded once, to the
nearest double, and a tie goes to the even one.
-/

namespace BuildExpr

namespace Binary64

/-- A double taken apart. -/
inductive Parts
  | nan
  | infinite (negative : Bool)
  /-- The number `±mantissa · 2^exponent`. -/
  | finite (negative : Bool) (mantissa : Nat) (exponent : Int)
  deriving DecidableEq

/-- The value of the bit that holds the sign, 2 to the 63rd. -/
def signBit : Nat := 9223372036854775808

/-- The bit in front of the fraction of most doubles, 2 to the 52nd. -/
def leadingBit : Nat := 4503599627370496

/-- The exponent of the least positive double. -/
def leastExponent : Int := -1074

/-- Takes a double apart. The mantissa has 53 bits, and fewer only at the least exponent. -/
def parts (x : Float) : Parts :=
  let bits : Nat := x.toBits.toNat
  let negative := decide (signBit ≤ bits)
  let field : Nat := bits / leadingBit % 2048
  let fraction : Nat := bits % leadingBit
  if field = 2047 then
    if fraction = 0 then .infinite negative else .nan
  else if field = 0 then .finite negative fraction leastExponent
  else .finite negative (leadingBit + fraction) ((field : Int) - 1075)

/-- The double with a sign whose other 63 bits are given. -/
def ofSignBits (negative : Bool) (bits : Nat) : Float :=
  Float.ofBits (UInt64.ofNat (if negative then signBit + bits else bits))

/-- The 63 bits of infinity. -/
def infinityBits : Nat := 2047 * leadingBit

/-- Not a number. -/
def nan : Float := Float.ofBits 0x7ff8000000000000

/-- Infinity with a sign. -/
def infinity (negative : Bool) : Float := ofSignBits negative infinityBits

/-- Zero with a sign. -/
def zero (negative : Bool) : Float := ofSignBits negative 0

/-- A quotient rounded to the nearest integer; a tie goes to the even one. -/
def roundQuotient (num den : Nat) : Nat :=
  let q := num / den
  let r := num % den
  if 2 * r < den then q else if den < 2 * r then q + 1 else q + q % 2

/-- `num / den · 2^(-e)` as a quotient of naturals. -/
def shifted (num den : Nat) (e : Int) : Nat × Nat :=
  if 0 ≤ e then (num, den * Nat.pow 2 e.toNat) else (num * Nat.pow 2 (-e).toNat, den)

/-- The greatest `k` with `2^k ≤ num / den`, for positive `num` and `den`. -/
def binaryExponent (num den : Nat) : Int :=
  let k : Int := (num.log2 : Int) - den.log2
  let (n, d) := shifted num den k
  if d ≤ n then k else k - 1

/-- The double nearest to `±num / den`, for positive `den`. -/
def nearest (negative : Bool) (num den : Nat) : Float :=
  if num = 0 then zero negative
  else
    let e := max (binaryExponent num den - 52) leastExponent
    let (n, d) := shifted num den e
    let bits := (e - leastExponent).toNat * leadingBit + roundQuotient n d
    ofSignBits negative (min bits infinityBits)

/-- The double nearest to an integer. -/
def ofInt (n : Int) : Float := nearest (decide (n < 0)) n.natAbs 1

/-- A finite double rounded to an integer by a rule on the sign and the magnitude
`num / den`. What has no fraction stays as it is, and a zero keeps its sign. -/
def roundWith (rule : Bool → Nat → Nat → Nat) (x : Float) : Float :=
  match parts x with
  | .finite negative m e =>
    if 0 ≤ e then x else nearest negative (rule negative m (Nat.pow 2 (-e).toNat)) 1
  | _ => x

/-- Toward zero. -/
def trunc (x : Float) : Float := roundWith (fun _ n d => n / d) x

/-- The greatest integer that is not above. -/
def floor (x : Float) : Float :=
  roundWith (fun negative n d => if negative then (n + d - 1) / d else n / d) x

/-- The least integer that is not below. -/
def ceil (x : Float) : Float :=
  roundWith (fun negative n d => if negative then n / d else (n + d - 1) / d) x

/-- The nearest integer; a half goes away from zero. -/
def round (x : Float) : Float := roundWith (fun _ n d => (2 * n + d) / (2 * d)) x

/-- The nearest integer; a half goes to the even one, and minus one half to positive zero. -/
def roundEven (x : Float) : Float :=
  match parts x with
  | .finite negative m e =>
    if 0 ≤ e then x
    else
      let n := roundQuotient m (Nat.pow 2 (-e).toNat)
      nearest (negative && !(n == 0 && 2 * m == Nat.pow 2 (-e).toNat)) n 1
  | _ => x

/-- Whether a double is finite and has no fraction. -/
def isIntegral (x : Float) : Bool :=
  match parts x with
  | .finite _ m e => decide (0 ≤ e) || m % Nat.pow 2 (-e).toNat == 0
  | _ => false

/-- The integer part of a finite double. -/
def toInt? (x : Float) : Option Int :=
  match parts x with
  | .finite negative m e =>
    let n := if 0 ≤ e then m * Nat.pow 2 e.toNat else m / Nat.pow 2 (-e).toNat
    some (if negative then -(n : Int) else n)
  | _ => none

/-- The integer part held in the range of 64-bit words; not a number gives zero. -/
def toWord (x : Float) : Int64 :=
  match parts x with
  | .nan => 0
  | .infinite true => Int64.ofInt Integer.least
  | .infinite false => Int64.ofInt Integer.greatest
  | .finite .. =>
    Int64.ofInt (max Integer.least (min ((toInt? x).getD 0) Integer.greatest))

/-- The remainder of a division toward zero, with the sign of the dividend. It is exact. -/
def remainder (x y : Float) : Float :=
  match parts x, parts y with
  | .nan, _ | _, .nan | .infinite _, _ => nan
  | .finite .., .infinite _ => x
  | .finite negative m e, .finite _ n f =>
    if n = 0 then nan
    else
      let unit := min e f
      let r := (m * Nat.pow 2 (e - unit).toNat) % (n * Nat.pow 2 (f - unit).toNat)
      if 0 ≤ unit then nearest negative (r * Nat.pow 2 unit.toNat) 1
      else nearest negative r (Nat.pow 2 (-unit).toNat)

/-- Whether the sign bit is set. -/
def isNegative (x : Float) : Bool := decide (signBit ≤ x.toBits.toNat)

/-- The parts of a decimal: sign, digits as a number, and a power of ten. -/
structure Literal where
  negative : Bool
  digits : Nat
  exponent : Int
  deriving DecidableEq

/-- Reads an exponent: a sign and at least one digit. -/
def readExponent? (cs : List Char) : Option Int :=
  let (negative, digits) := Integer.splitSign cs
  (Numeral.read? 10 digits).map fun n => if negative then -(n : Int) else n

/-- Reads a decimal with an optional sign, point and exponent. There is a digit before or
after the point. -/
def Literal.read? (cs : List Char) : Option Literal :=
  let (negative, cs) := Integer.splitSign cs
  let whole := cs.takeWhile Numeral.isDigit
  let cs := cs.dropWhile Numeral.isDigit
  let (fraction, cs) :=
    match cs with
    | '.' :: cs => (cs.takeWhile Numeral.isDigit, cs.dropWhile Numeral.isDigit)
    | _ => ([], cs)
  let exponent :=
    match cs with
    | [] => some 0
    | c :: cs => if c == 'e' || c == 'E' then readExponent? cs else none
  exponent.bind fun exponent =>
    (Numeral.read? 10 (whole ++ fraction)).map fun digits =>
      { negative, digits, exponent := exponent - fraction.length }

/-- The nearest double. Exponents far outside the range of doubles need no arithmetic. -/
def Literal.value (l : Literal) : Float :=
  let size : Int := (Numeral.decimal l.digits).length + l.exponent
  if l.digits = 0 ∨ size < -400 then zero l.negative
  else if 400 < size then infinity l.negative
  else if 0 ≤ l.exponent then nearest l.negative (l.digits * Nat.pow 10 l.exponent.toNat) 1
  else nearest l.negative l.digits (Nat.pow 10 (-l.exponent).toNat)

/-- Reads a decimal between blanks, or one of the names `NaN`, `Infinity`, `+Infinity` and
`-Infinity`. -/
def parse? (s : String) : Option Float :=
  let cs := Chars.trim s.toList
  match String.ofList cs with
  | "NaN" => some nan
  | "Infinity" | "+Infinity" => some (infinity false)
  | "-Infinity" => some (infinity true)
  | _ => (Literal.read? cs).map Literal.value

end Binary64

end BuildExpr
