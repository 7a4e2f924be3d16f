/-!
# Blank characters and trimming

`isBlank` is the Unicode property White_Space; `isAsciiBlank` is the smaller class that may
stand between the parts of a reference. Trimming removes blank characters from the ends.
-/

namespace BuildExpr

namespace Chars

/-- The Unicode property White_Space. -/
def isBlank (c : Char) : Bool :=
  let n := c.toNat
  (9 ≤ n && n ≤ 13) || n == 0x20 || n == 0x85 || n == 0xa0 || n == 0x1680 ||
    (0x2000 ≤ n && n ≤ 0x200a) || n == 0x2028 || n == 0x2029 || n == 0x202f || n == 0x205f ||
    n == 0x3000

/-- Space, tab, newline, form feed and carriage return. -/
def isAsciiBlank (c : Char) : Bool :=
  c == ' ' || c == '\t' || c == '\n' || c == '\x0c' || c == '\r'

/-- Without the blanks in front. -/
def trimStart (cs : List Char) : List Char := cs.dropWhile isBlank

/-- Without the longest end whose characters all satisfy `p`. -/
def dropEndWhile (p : Char → Bool) (cs : List Char) : List Char :=
  (cs.reverse.dropWhile p).reverse

/-- Without the blanks at the end. -/
def trimEnd (cs : List Char) : List Char := dropEndWhile isBlank cs

/-- Without the blanks at both ends. -/
def trim (cs : List Char) : List Char := trimEnd (trimStart cs)

/-- The number of bytes the characters take in UTF-8. -/
def byteLength : List Char → Nat
  | [] => 0
  | c :: cs => c.utf8Size + byteLength cs

@[simp] theorem byteLength_nil : byteLength [] = 0 := rfl

@[simp] theorem byteLength_cons (c : Char) (cs : List Char) :
    byteLength (c :: cs) = c.utf8Size + byteLength cs := rfl

@[simp] theorem byteLength_append (xs ys : List Char) :
    byteLength (xs ++ ys) = byteLength xs + byteLength ys := by
  induction xs with
  | nil => simp
  | cons c cs ih => simp [ih, Nat.add_assoc]

end Chars

namespace Text

/-- Without the blanks at both ends. -/
def trim (s : String) : String := String.ofList (Chars.trim s.toList)

/-- Without the blanks in front. -/
def trimStart (s : String) : String := String.ofList (Chars.trimStart s.toList)

/-- Without the blanks at the end. -/
def trimEnd (s : String) : String := String.ofList (Chars.trimEnd s.toList)

/-- Whether a text holds nothing but blanks. -/
def isBlank (s : String) : Bool := s.toList.all Chars.isBlank

end Text

end BuildExpr
