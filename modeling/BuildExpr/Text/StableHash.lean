/-!
# A stable hash of texts

Two hashes of 32 bits run over the UTF-16 units of a text, one over those at even and one over
those at odd places, and are mixed at the end. The result does not depend on the machine.
-/

namespace BuildExpr

namespace StableHash

/-- The UTF-16 units of a character. -/
def units (c : Char) : List UInt32 :=
  if c.toNat < 0x10000 then [c.val]
  else
    let n := c.val - 0x10000
    [0xd800 + n / 1024, 0xdc00 + n % 1024]

/-- One hash after one more unit. -/
def step (hash unit : UInt32) : UInt32 := (hash * 32 + hash) ^^^ unit

/-- The hashes over the units at even and at odd places. -/
def run (even odd : UInt32) : List UInt32 → UInt32 × UInt32
  | [] => (even, odd)
  | [a] => (step even a, odd)
  | a :: b :: rest => run (step even a) (step odd b) rest

/-- What both hashes begin with. -/
def seed : UInt32 := 5381 * 65536 + 5381

/-- The hash of a text. -/
def hash (cs : List Char) : Int32 :=
  let (even, odd) := run seed seed (cs.flatMap units)
  (even + odd * 1566083941).toInt32

end StableHash

end BuildExpr
