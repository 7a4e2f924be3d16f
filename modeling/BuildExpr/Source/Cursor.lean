import BuildExpr.Source.Rest

/-!
# Cursors

A cursor stands at a byte of a range of a source text. It offers the reading steps of `Rest`
by absolute positions; a position past the end of the range reads as byte zero.
-/

namespace BuildExpr

namespace Chars

/-- The characters that begin at byte `n` or later, and the position of the first of them. -/
def fromByte (n : Nat) : Nat → List Char → Nat × List Char
  | pos, [] => (pos, [])
  | pos, c :: cs => if n ≤ pos then (pos, c :: cs) else fromByte n (pos + c.utf8Size) cs

/-- The characters that end at byte `n` or before, when the first begins at `pos`. -/
def upToByte (n : Nat) : Nat → List Char → List Char
  | _, [] => []
  | pos, c :: cs =>
    if pos + c.utf8Size ≤ n then c :: upToByte n (pos + c.utf8Size) cs else []

end Chars

/-- A position in a range of a source text. -/
structure Cursor where
  source : String
  pos : Nat
  stop : Nat
  deriving Inhabited

namespace Cursor

/-- The cursor at the front of a range. -/
def ofRange (source : String) (start stop : Nat) : Cursor := ⟨source, start, stop⟩

/-- The characters of the range from a position on. -/
def restAt (k : Cursor) (pos : Nat) : Rest :=
  let (first, cs) := Chars.fromByte pos 0 k.source.toList
  ⟨first, Chars.upToByte k.stop first cs⟩

/-- What is left of the range. -/
def rest (k : Cursor) : Span :=
  ⟨k.pos, String.ofList (k.restAt k.pos).chars⟩

/-- Moves to a position, but not past the end of the range. -/
def setPos (k : Cursor) (pos : Nat) : Cursor := { k with pos := min pos k.stop }

/-- Moves forward. -/
def advance (k : Cursor) (n : Nat) : Cursor := k.setPos (k.pos + n)

/-- Whether the end of the range is reached. -/
def atEnd (k : Cursor) : Bool := k.stop ≤ k.pos

/-- The byte `n` after the cursor. -/
def byteAhead (k : Cursor) (n : Nat) : UInt8 :=
  if k.pos + n < k.stop then (k.source.toUTF8.toList[k.pos + n]?).getD 0 else 0

/-- The byte at the cursor. -/
def byte (k : Cursor) : UInt8 := k.byteAhead 0

/-- Whether the range goes on with this text. -/
def startsWith (k : Cursor) (text : String) : Bool :=
  text.toUTF8.toList.isPrefixOf ((k.source.toUTF8.toList.take k.stop).drop k.pos)

/-- Moves past the blanks that may stand between the parts of a reference. -/
def skipBlanks (k : Cursor) : Cursor :=
  let r := k.restAt k.pos
  if r.pos == k.pos then { k with pos := r.skipBlanks.pos } else k

/-- Reads a name. -/
def name? (k : Cursor) (dash : Bool) : Option (Span × Cursor) :=
  let r := k.restAt k.pos
  if r.pos == k.pos then (r.name? dash).map fun (name, after) => (name, { k with pos := after.pos })
  else none

/-- The bytes of the range from a position on, each as the character of its number. -/
def bytesAt (k : Cursor) (pos : Nat) : List Char :=
  ((k.source.toUTF8.toList.take k.stop).drop pos).map Char.ofUInt8

/-- The position after the run whose quote, any byte, stands at `pos`. -/
def skipQuoted? (k : Cursor) (pos : Nat) : Option Nat :=
  match k.bytesAt pos with
  | [] => none
  | q :: cs => (Chars.cut? q cs).map fun (inside, _) => pos + inside.length + 2

/-- The position of the bracket that closes the one at `pos`. -/
def closing? (k : Cursor) (opener closer : UInt8) (pos : Nat) : Option Nat :=
  (Chars.closing (.ofUInt8 opener) (.ofUInt8 closer) {} (k.bytesAt pos)).map fun (inside, _) =>
    pos + inside.length

/-- The pieces of the argument list from `start` to `stop`. -/
def splitArguments? (k : Cursor) (start stop : Nat) : Option (List Span) :=
  ({ k with stop := stop }.restAt start).splitArguments.map (List.map Rest.span)

end Cursor

end BuildExpr
