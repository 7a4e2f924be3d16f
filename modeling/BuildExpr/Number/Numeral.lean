/-!
# Numerals

Natural numbers as digits in a base, padding, and the grouping of decimal digits by threes.
A numeral that is read holds digits of the base and nothing else.
-/

namespace BuildExpr

namespace Numeral

/-- One more than the greatest number of 32 bits. -/
def bound32 : Nat := 4294967296

/-- One more than the greatest number of 64 bits. -/
def bound64 : Nat := 18446744073709551616

/-- The value of a digit in bases up to sixteen. -/
def digit? (base : Nat) (c : Char) : Option Nat :=
  let value :=
    if '0' ≤ c ∧ c ≤ '9' then some (c.toNat - '0'.toNat)
    else if 'a' ≤ c ∧ c ≤ 'f' then some (c.toNat - 'a'.toNat + 10)
    else if 'A' ≤ c ∧ c ≤ 'F' then some (c.toNat - 'A'.toNat + 10)
    else none
  value.filter (· < base)

/-- Whether a character is one of the ten digits `0` to `9`. -/
def isDigit (c : Char) : Bool := '0' ≤ c && c ≤ '9'

/-- The number that digits stand for, read on from `n`. -/
def readOn (base : Nat) : Nat → List Char → Option Nat
  | n, [] => some n
  | n, c :: cs => (digit? base c).bind fun d => readOn base (n * base + d) cs

/-- The number that one or more digits stand for. -/
def read? (base : Nat) (cs : List Char) : Option Nat :=
  if cs.isEmpty then none else readOn base 0 cs

/-- A number below `bound` in decimal, with an optional plus sign in front. -/
def readBounded? (bound : Nat) (cs : List Char) : Option Nat :=
  let digits :=
    match cs with
    | '+' :: rest => rest
    | _ => cs
  (read? 10 digits).filter (· < bound)

/-- A number in a base up to sixteen, without leading zeros. -/
def text (base n : Nat) : List Char := Nat.toDigits base n

/-- A number in decimal. -/
def decimal (n : Nat) : List Char := text 10 n

/-- Digits with zeros in front up to a width. -/
def padded (width : Nat) (digits : List Char) : List Char :=
  List.replicate (width - digits.length) '0' ++ digits

/-- A comma before every third digit from the right. -/
def grouped : List Char → List Char
  | [] => []
  | c :: cs =>
    if cs.length % 3 == 0 && !cs.isEmpty then c :: ',' :: grouped cs else c :: grouped cs

/-- A number in decimal with at least two digits. -/
def twoDigits (n : Nat) : String := String.ofList (padded 2 (decimal n))

end Numeral

end BuildExpr
