import BuildExpr.Number.Shortest

/-!
# Arithmetic on mixed numbers

An operand is an integer or a double. Two integers give an integer as long as the exact result
fits in 64 bits, and the double nearest to what doubles give otherwise; the result never
wraps. Bitwise operations take operands that are whole numbers.
-/

namespace BuildExpr

/-- An operand of arithmetic. -/
inductive Number
  | int (n : Int64)
  | double (x : Float)
  deriving DecidableEq

namespace Number

/-- The nearest double. -/
def toDouble : Number → Float
  | int n => Binary64.ofInt n.toInt
  | double x => x

/-- The word equal to an operand, where a double at the upper end of the range counts as the
greatest word. -/
def toWord? : Number → Option Int64
  | int n => some n
  | double x =>
    if Binary64.isIntegral x then
      let n := Binary64.toWord x
      if Binary64.ofInt n.toInt == x then some n else none
    else none

/-- Applies the exact operation to integers, and the one on doubles to all else and to what
does not fit. -/
def combine (exact : Int → Int → Int) (rounded : Float → Float → Float) (a b : Number) :
    Number :=
  match a, b with
  | int m, int n =>
    match Integer.fit? (exact m.toInt n.toInt) with
    | some r => int r
    | none => double (rounded a.toDouble b.toDouble)
  | _, _ => double (rounded a.toDouble b.toDouble)

/-- The sum. -/
def add (a b : Number) : Number := combine (· + ·) (· + ·) a b

/-- The difference. -/
def sub (a b : Number) : Number := combine (· - ·) (· - ·) a b

/-- The product. -/
def mul (a b : Number) : Number := combine (· * ·) (· * ·) a b

/-- Whether an operand is the integer zero. -/
def isIntegerZero : Number → Bool
  | int n => n == 0
  | double _ => false

/-- Whether both operands are integers and the second is zero. -/
def dividesByZero (a b : Number) : Bool :=
  match a with
  | int _ => b.isIntegerZero
  | double _ => false

/-- The quotient, cut toward zero for integers. There is none for an integer over zero. -/
def div? (a b : Number) : Option Number :=
  if dividesByZero a b then none else some (combine Int.tdiv (· / ·) a b)

/-- The remainder, with the sign of the dividend. There is none for an integer over zero. -/
def mod? (a b : Number) : Option Number :=
  if dividesByZero a b then none else some (combine Int.tmod Binary64.remainder a b)

/-- A bitwise operation on whole numbers. -/
def bitwise? (op : Int64 → Int64 → Int64) (a b : Number) : Option Number :=
  a.toWord?.bind fun m => b.toWord?.map fun n => int (op m n)

/-- Reads an integer, or a decimal that is no integer or does not fit. -/
def parse? (s : String) : Option Number :=
  match Integer.parse? s with
  | some n => some (int n)
  | none => (Binary64.parse? s).map double

end Number

end BuildExpr
