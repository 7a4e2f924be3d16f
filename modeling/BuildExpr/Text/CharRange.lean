/-!
# Tables of characters

Ranges of code points and rows of case mappings, with the look-ups in them. The tables
themselves are data of the Unicode standard and stand in modules of their own.
-/

namespace BuildExpr.Text

/-- Ranges of code points, both ends included. -/
abbrev CharRanges := Array (Nat × Nat)

/-- Whether a character lies in one of the ranges. -/
def CharRanges.has (ranges : CharRanges) (c : Char) : Bool :=
  ranges.any fun (first, last) => first ≤ c.toNat && c.toNat ≤ last

/-- Rows `(first, last, step, shift)` of a mapping of single characters. -/
abbrev CaseShifts := Array (Nat × Nat × Nat × Int)

/-- The image of a character under the row that covers it. -/
def CaseShifts.image? (rows : CaseShifts) (c : Char) : Option Char :=
  (rows.find? fun (first, last, step, _) =>
      first ≤ c.toNat && c.toNat ≤ last && (c.toNat - first) % step == 0).map
    fun (_, _, _, shift) => Char.ofNat (c.toNat + shift).toNat

/-- Rows `(character, image)` of a mapping to several characters. -/
abbrev CaseSpecials := Array (Nat × List Nat)

/-- The image of a character that is listed. -/
def CaseSpecials.image? (rows : CaseSpecials) (c : Char) : Option (List Char) :=
  (rows.find? fun (code, _) => code == c.toNat).map fun (_, image) => image.map Char.ofNat

end BuildExpr.Text
