import BuildExpr.Number.Binary64

/-!
# Shortest decimals

The text of a double is the shortest decimal that reads back as the same double, and of those
the nearest to it. A number between `10^-4` and `10^15` is written out, any other with an
exponent.
-/

namespace BuildExpr

namespace Binary64

/-- The number `digits · 10^exponent`. -/
structure Decimal where
  digits : Nat
  exponent : Int
  deriving DecidableEq, Inhabited

/-- The greatest `k` with `10^k ≤ num / den`, for positive `num` and `den`. -/
def decimalExponent (num den : Nat) : Int :=
  if den ≤ num then ((Numeral.decimal (num / den)).length : Int) - 1
  else -((Numeral.decimal ((den - 1) / num)).length : Int)

/-- The numbers that round to a double: those between `low / den` and `high / den`, where
`value / den` is the double itself. The ends belong to it when `closed`. -/
structure Interval where
  low : Nat
  value : Nat
  high : Nat
  den : Nat
  closed : Bool

/-- The numbers that round to the positive double `m · 2^e`. Below a power of two the
neighbour is nearer than above. -/
def interval (m : Nat) (e : Int) : Interval :=
  let below := if m = leadingBit ∧ leastExponent < e then 1 else 2
  let up := if 0 ≤ e - 2 then Nat.pow 2 (e - 2).toNat else 1
  { low := (4 * m - below) * up
    value := 4 * m * up
    high := (4 * m + 2) * up
    den := if 0 ≤ e - 2 then 1 else Nat.pow 2 (2 - e).toNat
    closed := m % 2 == 0 }

/-- Whether `num / den`, over the denominator of the interval, lies in it. -/
def Interval.has (i : Interval) (num den : Nat) : Bool :=
  if i.closed then decide (i.low * den ≤ num ∧ num ≤ i.high * den)
  else decide (i.low * den < num ∧ num < i.high * den)

/-- The decimal nearest to the double among its two neighbours on the grid of multiples of
`10^g`, if one of them lies in the interval. Of two that are equally near the upper wins. -/
def Interval.onGrid? (i : Interval) (g : Int) : Option Decimal :=
  let num := i.value * Nat.pow 10 (-g).toNat
  let den := i.den * Nat.pow 10 g.toNat
  let down := num / den
  let scale := Nat.pow 10 (-g).toNat
  let unit := i.den * Nat.pow 10 g.toNat
  let hasDown := i.has (down * unit) scale
  let hasUp := i.has ((down + 1) * unit) scale
  if hasUp && (!hasDown || den ≤ 2 * (num % den)) then some { digits := down + 1, exponent := g }
  else if hasDown then some { digits := down, exponent := g }
  else none

/-- The shortest decimal in the interval, with `n` digits or more. Seventeen always do. -/
def Interval.shortest (i : Interval) (k : Int) : Nat → Nat → Decimal
  | 0, n => { digits := i.value / i.den, exponent := k - n }
  | fuel + 1, n =>
    match i.onGrid? (k - n + 1) with
    | some d => d
    | none => i.shortest k fuel (n + 1)

/-- The shortest decimal that reads back as `m · 2^e`, for positive `m`. -/
def shortest (m : Nat) (e : Int) : Decimal :=
  let i := interval m e
  i.shortest (decimalExponent i.value i.den) 17 1

/-- The digits without zeros at the end, and the power of ten of the first digit. -/
def Decimal.scientific (d : Decimal) : List Char × Int :=
  let digits := Numeral.decimal d.digits
  (Chars.dropEndWhile (· == '0') digits, d.exponent + digits.length - 1)

/-- Digits written out, the first of them at a power of ten. -/
def positional (digits : List Char) (exponent : Int) : List Char :=
  if exponent < 0 then
    '0' :: '.' :: List.replicate (-exponent - 1).toNat '0' ++ digits
  else
    let whole := exponent.toNat + 1
    if digits.length ≤ whole then digits ++ List.replicate (whole - digits.length) '0'
    else digits.take whole ++ '.' :: digits.drop whole

/-- Digits with a point after the first and an exponent of at least two digits. -/
def withExponent (digits : List Char) (exponent : Int) : List Char :=
  let mantissa :=
    match digits with
    | first :: second :: rest => first :: '.' :: second :: rest
    | digits => digits
  let sign := if exponent < 0 then '-' else '+'
  mantissa ++ 'E' :: sign :: Numeral.padded 2 (Numeral.decimal exponent.natAbs)

/-- The text of a double. -/
def text (x : Float) : String :=
  match parts x with
  | .nan => "NaN"
  | .infinite negative => if negative then "-Infinity" else "Infinity"
  | .finite negative m e =>
    let body :=
      if m = 0 then ['0']
      else
        let (digits, exponent) := (shortest m e).scientific
        if -5 < exponent ∧ exponent < 15 then positional digits exponent
        else withExponent digits exponent
    String.ofList (if negative then '-' :: body else body)

/-- The digits of `num / den` rounded to a number of decimals, before and after the point. -/
def fixedDigits (num den places : Nat) : List Char × List Char :=
  let scaled := roundQuotient (num * Nat.pow 10 places) den
  (Numeral.decimal (scaled / Nat.pow 10 places),
    if places = 0 then [] else Numeral.padded places (Numeral.decimal (scaled % Nat.pow 10 places)))

/-- The whole and fractional digits of `m · 2^e` with a number of decimals. -/
def fixed (m : Nat) (e : Int) (places : Nat) : List Char × List Char :=
  if 0 ≤ e then fixedDigits (m * Nat.pow 2 e.toNat) 1 places
  else fixedDigits m (Nat.pow 2 (-e).toNat) places

/-- The whole part, and the fraction after a point unless it is empty. -/
def withFraction (whole fraction : List Char) : List Char :=
  if fraction.isEmpty then whole else whole ++ '.' :: fraction

/-- The text of a double with a fixed number of decimals, rounded half to even. -/
def fixedText (places : Nat) (x : Float) : String :=
  match parts x with
  | .nan => "NaN"
  | .infinite negative => if negative then "-inf" else "inf"
  | .finite negative m e =>
    let (whole, fraction) := fixed m e places
    String.ofList ((if negative then ['-'] else []) ++ withFraction whole fraction)

/-- The text of a double with a fixed number of decimals and the digits of the whole part in
groups of three. A whole part beyond 64 bits, or none at all, shows as zero. -/
def groupedText (places : Nat) (x : Float) : String :=
  let (whole, fraction) :=
    match parts x with
    | .finite _ m e => fixed m e places
    | _ => (['0'], [])
  let shown :=
    match Integer.readSigned? 10 whole with
    | some n => Numeral.grouped (Integer.magnitude n)
    | none => ['0']
  String.ofList ((if x < 0 then ['-'] else []) ++ withFraction shown fraction)

/-- The renderings of a double. -/
inductive Format
  | shortest
  | fixed (places : Nat)
  | grouped (places : Nat)
  deriving DecidableEq

/-- Reads a rendering: `G` or `R` alone, `F` or `N` with a number of decimals, which is two
unless it is given. The empty text is the shortest form. -/
def Format.parse? (s : String) : Option Format :=
  match s.toList with
  | [] => some .shortest
  | c :: cs =>
    let places := if cs.isEmpty then some 2 else Numeral.readBounded? Numeral.bound64 cs
    places.bind fun places =>
      match c.toUpper with
      | 'G' | 'R' => if cs.isEmpty then some .shortest else none
      | 'F' => some (.fixed places)
      | 'N' => some (.grouped places)
      | _ => none

/-- A double in a rendering. -/
def Format.apply : Format → Float → String
  | shortest, x => text x
  | fixed places, x => fixedText places x
  | grouped places, x => groupedText places x

end Binary64

end BuildExpr
