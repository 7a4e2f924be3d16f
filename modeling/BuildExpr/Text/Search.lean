/-!
# Searching, splitting and replacing

Positions are counted in characters. The empty text is found everywhere.
-/

namespace BuildExpr

namespace Chars

/-- The pieces between the characters that satisfy `p`: one more than there are such
characters. -/
def splitWhere (p : Char → Bool) : List Char → List (List Char)
  | [] => [[]]
  | c :: cs =>
    if p c then [] :: splitWhere p cs
    else
      match splitWhere p cs with
      | [] => [[c]]
      | piece :: pieces => (c :: piece) :: pieces

/-- The first pieces between the characters that satisfy `p`, and all the rest in one piece:
`cuts` cuts at most. -/
def splitAtMost (p : Char → Bool) : Nat → List Char → List (List Char)
  | 0, cs => [cs]
  | _ + 1, [] => [[]]
  | cuts + 1, c :: cs =>
    if p c then [] :: splitAtMost p cuts cs
    else
      match splitAtMost p (cuts + 1) cs with
      | [] => [[c]]
      | piece :: pieces => (c :: piece) :: pieces

/-- The pieces between the occurrences of a character. -/
def splitOn (sep : Char) (cs : List Char) : List (List Char) := splitWhere (· == sep) cs

/-- The parts before and after the first occurrence of a character. -/
def cut? (sep : Char) : List Char → Option (List Char × List Char)
  | [] => none
  | c :: cs =>
    if c == sep then some ([], cs)
    else (cut? sep cs).map fun (before, after) => (c :: before, after)

/-- A cut takes out one occurrence of the character and keeps all else. -/
theorem eq_of_cut?_eq_some {sep : Char} {cs before after : List Char}
    (h : cut? sep cs = some (before, after)) : cs = before ++ sep :: after := by
  induction cs generalizing before with
  | nil => simp [cut?] at h
  | cons c cs ih =>
    rw [cut?] at h
    split at h
    · rename_i hc
      simp_all
    · obtain ⟨⟨b, a⟩, hb, hab⟩ := Option.map_eq_some_iff.1 h
      simp only [Prod.mk.injEq] at hab
      obtain ⟨rfl, rfl⟩ := hab
      simp [← ih hb]

/-- The parts before and after the last occurrence of a character. -/
def cutLast? (sep : Char) (cs : List Char) : Option (List Char × List Char) :=
  (cut? sep cs.reverse).map fun (after, before) => (before.reverse, after.reverse)

/-- A cut at the last occurrence takes out that occurrence and keeps all else. -/
theorem eq_of_cutLast?_eq_some {sep : Char} {cs before after : List Char}
    (h : cutLast? sep cs = some (before, after)) : cs = before ++ sep :: after := by
  obtain ⟨⟨rest, first⟩, hcut, hparts⟩ := Option.map_eq_some_iff.1 h
  obtain ⟨rfl, rfl⟩ := Prod.mk.inj hparts
  rw [← List.reverse_reverse cs, eq_of_cut?_eq_some hcut]
  simp

/-- The position of the first occurrence of `needle`. -/
def find? (needle : List Char) : List Char → Option Nat
  | [] => if needle.isEmpty then some 0 else none
  | c :: cs =>
    if needle.isPrefixOf (c :: cs) then some 0 else (find? needle cs).map (· + 1)

/-- The position of the last occurrence of `needle`. -/
def findLast? (needle : List Char) : List Char → Option Nat
  | [] => if needle.isEmpty then some 0 else none
  | c :: cs =>
    match findLast? needle cs with
    | some i => some (i + 1)
    | none => if needle.isPrefixOf (c :: cs) then some 0 else none

/-- Whether `needle` occurs. -/
def contains (needle cs : List Char) : Bool := (find? needle cs).isSome

/-- Replaces occurrences of `old` from left to right without overlap, after leaving out the
first `skip` characters. -/
def replaceFrom (old new : List Char) : Nat → List Char → List Char
  | _, [] => []
  | skip + 1, _ :: cs => replaceFrom old new skip cs
  | 0, c :: cs =>
    if old.isPrefixOf (c :: cs) then new ++ replaceFrom old new (old.length - 1) cs
    else c :: replaceFrom old new 0 cs

/-- Every occurrence of the non-empty text `old` replaced by `new`, from left to right and
without overlap. -/
def replace (old new cs : List Char) : List Char := replaceFrom old new 0 cs

/-- A text given in pieces, with `sep` between them. -/
def join (sep : List Char) : List (List Char) → List Char
  | [] => []
  | [piece] => piece
  | piece :: pieces => piece ++ sep ++ join sep pieces

end Chars

namespace Text

/-- Texts with `sep` between them. -/
def join (sep : String) (pieces : List String) : String :=
  String.ofList (Chars.join sep.toList (pieces.map String.toList))

/-- Whether a text begins with another. -/
def startsWith (s start : String) : Bool := start.toList.isPrefixOf s.toList

/-- Whether a text ends with another. -/
def endsWith (s ending : String) : Bool := ending.toList.isSuffixOf s.toList

/-- The pieces between the occurrences of a character. -/
def splitOn (sep : Char) (s : String) : List String :=
  (Chars.splitOn sep s.toList).map String.ofList

/-- Every occurrence of the non-empty text `old` replaced by `new`. -/
def replace (old new s : String) : String :=
  String.ofList (Chars.replace old.toList new.toList s.toList)

end Text

end BuildExpr
