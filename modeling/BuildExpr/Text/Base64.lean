import BuildExpr.Text.Utf8
import BuildExpr.Text.Blank

/-!
# Base 64

Three bytes become four symbols, and a shorter last group is filled up with `=`. A text that is
read may hold filled groups in the middle; the bits that a short group leaves over are zero.
-/

namespace BuildExpr

namespace Base64

/-- The symbols in the order of their values. -/
def symbols : List Char :=
  "ABCDEFGHIJKLMNOPQRSTUVWXYZabcdefghijklmnopqrstuvwxyz0123456789+/".toList

/-- The symbol of a value below 64. -/
def symbol (n : Nat) : Char := symbols.getD (n % 64) 'A'

/-- The value of a symbol. -/
def value? (c : Char) : Option Nat := symbols.findIdx? (· == c)

/-- Bytes in base 64. -/
def encode : List UInt8 → List Char
  | [] => []
  | [a] =>
    let n := a.toNat * 16
    [symbol (n / 64), symbol n, '=', '=']
  | [a, b] =>
    let n := (a.toNat * 256 + b.toNat) * 4
    [symbol (n / 4096), symbol (n / 64), symbol n, '=']
  | a :: b :: c :: rest =>
    let n := (a.toNat * 256 + b.toNat) * 256 + c.toNat
    [symbol (n / 262144), symbol (n / 4096), symbol (n / 64), symbol n] ++ encode rest

/-- The values of symbols at a position, or the position of the first that is none. -/
def values (position : Nat) : List Char → Except Nat (List Nat)
  | [] => .ok []
  | c :: cs =>
    match value? c with
    | none => .error position
    | some n => (values (position + 1) cs).map (n :: ·)

/-- The number that values below 64 are the digits of. -/
def number (ns : List Nat) : Nat := ns.foldl (fun n d => n * 64 + d) 0

/-- The `count` bytes of a number. -/
def bytesOf (count n : Nat) : List UInt8 :=
  (List.range count).map fun i => UInt8.ofNat (n / Nat.pow 256 (count - 1 - i))

/-- The bytes of a group of four symbols at a position. -/
def group (position : Nat) (cs : List Char) : Except Fault (List UInt8) :=
  let kept := Chars.dropEndWhile (· == '=') cs
  if kept.length < 2 then .error (.base64 .padding (position + kept.length))
  else
    match values position kept with
    | .error p => .error (.base64 .symbol p)
    | .ok ns =>
      let count := kept.length - 1
      let spare := 6 * kept.length - 8 * count
      if number ns % Nat.pow 2 spare = 0 then .ok (bytesOf count (number ns / Nat.pow 2 spare))
      else .error (.base64 .trailingBits (position + count))

/-- The bytes of groups of four symbols that begin at a position. -/
def groups (position : Nat) : List Char → Except Fault (List UInt8)
  | a :: b :: c :: d :: rest => do
    return (← group position [a, b, c, d]) ++ (← groups (position + 4) rest)
  | _ => .ok []

/-- Reads a text in base 64, whose positions count bytes. -/
def decode (cs : List Char) : Except Fault (List UInt8) :=
  let bytes := (Utf8.encode cs).map fun b => Char.ofNat b.toNat
  if bytes.length % 4 ≠ 0 then .error (.base64 .length (bytes.length - bytes.length % 4))
  else groups 0 bytes

/-- Reads a text in base 64 between blanks as the UTF-8 form of a text. -/
def decodeText (cs : List Char) : Except Fault (List Char) := do
  match Utf8.decode (← decode (Chars.trim cs)) with
  | .ok text => return text
  | .error cause => .error (.utf8 cause)

end Base64

end BuildExpr
