import BuildExpr.Text.Case

/-!
# Case variants

Two characters are variants of each other when simple case folding maps both to one character.
Mappings to several characters play no part in it.
-/

namespace BuildExpr

namespace Text

/-- The characters that a table of mappings maps to a character. -/
def CaseShifts.preimages (rows : CaseShifts) (c : Char) : List Char :=
  rows.toList.filterMap fun (first, last, step, shift) =>
    let n := (c.toNat - shift : Int).toNat
    if first ≤ n && n ≤ last && (n - first) % step == 0 then some (Char.ofNat n) else none

end Text

namespace Chars

/-- The upper-case form of a character, if that is one character. -/
def simpleUpper (c : Char) : Char :=
  match upperChar c with
  | [u] => u
  | _ => c

/-- The lower-case form of a character, if that is one character. -/
def simpleLower (c : Char) : Char :=
  match lowerChar c with
  | [l] => l
  | _ => c

/-- The characters that differ in case but are not variants: the dotless and the dotted i. -/
def foldsToItself (c : Char) : Bool := c.toNat == 0x130 || c.toNat == 0x131

/-- The character that stands for all variants of a character. Three pairs of precomposed
characters are variants without being mapped to each other. -/
def foldCase (c : Char) : Char :=
  if foldsToItself c then c
  else
    match c.toNat with
    | 0x1fd3 => Char.ofNat 0x390
    | 0x1fe3 => Char.ofNat 0x3b0
    | 0xfb05 => Char.ofNat 0xfb06
    | _ => simpleLower (simpleUpper c)

/-- The variants of a character, itself among them. -/
def caseVariants (c : Char) : List Char :=
  let base := foldCase c
  let capitals := base :: Text.lowerShifts.preimages base
  let small := capitals.flatMap Text.upperShifts.preimages
  let paired := [0x390, 0x1fd3, 0x3b0, 0x1fe3, 0xfb05, 0xfb06].map Char.ofNat
  c :: (capitals ++ small ++ paired).filter fun d => foldCase d == base

theorem mem_caseVariants_self (c : Char) : c ∈ caseVariants c := by
  simp [caseVariants]

end Chars

end BuildExpr
