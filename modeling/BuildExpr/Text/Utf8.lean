import BuildExpr.Fault

/-!
# UTF-8

Reading bytes as characters. The fault says where the bytes stop being UTF-8 and how many of
them were looked at: a character that is cut off by the end is told apart from one that is
followed by a wrong byte.
-/

namespace BuildExpr

namespace Utf8

/-- The bits of the first byte of a character and the ranges of the bytes after it. -/
def lead? (b : UInt8) : Option (Nat × List (UInt8 × UInt8)) :=
  let tail : UInt8 × UInt8 := (0x80, 0xbf)
  if b < 0x80 then some (b.toNat, [])
  else if 0xc2 ≤ b && b ≤ 0xdf then some (b.toNat % 32, [tail])
  else if b == 0xe0 then some (b.toNat % 16, [(0xa0, 0xbf), tail])
  else if b == 0xed then some (b.toNat % 16, [(0x80, 0x9f), tail])
  else if 0xe1 ≤ b && b ≤ 0xef then some (b.toNat % 16, [tail, tail])
  else if b == 0xf0 then some (b.toNat % 8, [(0x90, 0xbf), tail, tail])
  else if b == 0xf4 then some (b.toNat % 8, [(0x80, 0x8f), tail, tail])
  else if 0xf1 ≤ b && b ≤ 0xf3 then some (b.toNat % 8, [tail, tail, tail])
  else none

/-- Why no character could be read: the bytes that were looked at before a wrong one, or nothing
when the end came first. -/
abbrev Stop := Option Nat

/-- Reads the bytes after the first: the number they complete and the bytes left. -/
def tailBytes (n seen : Nat) : List (UInt8 × UInt8) → List UInt8 → Except Stop (Nat × List UInt8)
  | [], bytes => .ok (n, bytes)
  | _ :: _, [] => .error none
  | (low, high) :: ranges, b :: bytes =>
    if low ≤ b && b ≤ high then tailBytes (n * 64 + b.toNat % 64) (seen + 1) ranges bytes
    else .error (some seen)

/-- Reads one character from a first byte and those after it. -/
def character (b : UInt8) (bytes : List UInt8) : Except Stop (Char × List UInt8) :=
  match lead? b with
  | none => .error (some 1)
  | some (n, ranges) => (tailBytes n 1 ranges bytes).map fun (n, rest) => (Char.ofNat n, rest)

theorem tailBytes_length {n seen : Nat} {ranges : List (UInt8 × UInt8)} {bytes : List UInt8}
    {r : Nat × List UInt8} (h : tailBytes n seen ranges bytes = .ok r) :
    r.2.length ≤ bytes.length := by
  induction ranges generalizing n seen bytes with
  | nil =>
    simp only [tailBytes, Except.ok.injEq] at h
    simp [← h]
  | cons range ranges ih =>
    cases bytes with
    | nil => simp [tailBytes] at h
    | cons b bytes =>
      rw [tailBytes] at h
      split at h
      · have := ih h
        simp
        omega
      · simp at h

/-- Reading a character uses up its first byte at least. -/
theorem character_length {b : UInt8} {bytes : List UInt8} {r : Char × List UInt8}
    (h : character b bytes = .ok r) : r.2.length ≤ bytes.length := by
  rw [character] at h
  split at h
  · simp at h
  · rename_i n ranges _
    cases ht : tailBytes n 1 ranges bytes with
    | error _ => simp [ht, Except.map] at h
    | ok t =>
      have := tailBytes_length ht
      simp only [ht, Except.map, Except.ok.injEq] at h
      simpa [← h] using this

/-- Reads bytes that begin at an index as characters. -/
def decodeFrom (index : Nat) (bytes : List UInt8) : Except Utf8Fault (List Char) :=
  match bytes with
  | [] => .ok []
  | b :: rest =>
    match _h : character b rest with
    | .error none => .error (.incomplete index)
    | .error (some length) => .error (.invalid length index)
    | .ok (c, after) =>
      (decodeFrom (index + (rest.length + 1 - after.length)) after).map (c :: ·)
  termination_by bytes.length
  decreasing_by
    have := character_length _h
    simp at this ⊢
    omega

/-- Reads bytes as characters. -/
def decode (bytes : List UInt8) : Except Utf8Fault (List Char) := decodeFrom 0 bytes

/-- The bytes of characters. -/
def encode (cs : List Char) : List UInt8 := (String.ofList cs).toUTF8.toList

end Utf8

end BuildExpr
