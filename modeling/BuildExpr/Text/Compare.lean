import BuildExpr.Text.Case
import BuildExpr.Text.Blank

/-!
# Comparing texts

Texts are ordered by their lower-case forms first. Of two that differ only in case, the one with
a lower-case letter at the first difference comes first, and a shorter one before a longer.
-/

namespace BuildExpr

namespace Chars

/-- The order by code points. -/
def compare : List Char → List Char → Ordering
  | [], [] => .eq
  | [], _ :: _ => .lt
  | _ :: _, [] => .gt
  | a :: as, b :: bs =>
    if a.toNat < b.toNat then .lt else if b.toNat < a.toNat then .gt else compare as bs

/-- The order of texts that have the same lower-case form. -/
def compareCase : List Char → List Char → Option Ordering
  | a :: as, b :: bs =>
    if a == b then compareCase as bs
    else some (if Text.isLowercase a then .lt else .gt)
  | _, _ => none

end Chars

namespace Text

/-- The order by code points. -/
def compareOrdinal (a b : String) : Ordering := Chars.compare a.toList b.toList

/-- The order of texts, with or without regard to case. -/
def compare (a b : String) (ignoreCase : Bool) : Ordering :=
  let folded := Chars.compare (Chars.lower a.toList) (Chars.lower b.toList)
  if folded != .eq || ignoreCase then folded
  else
    match Chars.compareCase a.toList b.toList with
    | some order => order
    | none => Ord.compare a.utf8ByteSize b.utf8ByteSize

/-- Equality with or without regard to case. -/
def equal (a b : String) (ignoreCase : Bool) : Bool :=
  if ignoreCase then lower a == lower b else a == b

end Text

end BuildExpr
