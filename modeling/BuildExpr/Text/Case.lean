import BuildExpr.Text.CaseTable
import BuildExpr.Text.CaseClassTable

/-!
# Letter case

`lower` and `upper` are the full case mappings of Unicode, in which one character may become
several and a capital sigma at the end of a word becomes a final sigma. `foldAscii` and
`eqIgnoreCase` look at the letters A to Z only; names are compared that way.
-/

namespace BuildExpr

namespace Chars

/-- The lower-case form of a character on its own. -/
def lowerChar (c : Char) : List Char :=
  match Text.lowerSpecials.image? c with
  | some image => image
  | none => [(Text.lowerShifts.image? c).getD c]

/-- The upper-case form of a character. -/
def upperChar (c : Char) : List Char :=
  match Text.upperSpecials.image? c with
  | some image => image
  | none => [(Text.upperShifts.image? c).getD c]

/-- Whether the first character that is not ignorable for case has a case. -/
def nextIsCased (cs : List Char) : Bool :=
  match cs.dropWhile Text.isCaseIgnorable with
  | [] => false
  | c :: _ => Text.isCased c

/-- Lower case of a text read after `before`, which is given last character first. A capital
sigma is final when a cased letter stands before it and none after it. -/
def lowerAfter (before : List Char) : List Char → List Char
  | [] => []
  | c :: cs =>
    let image :=
      if c == 'Σ' then
        if nextIsCased before && !nextIsCased cs then ['ς'] else ['σ']
      else lowerChar c
    image ++ lowerAfter (c :: before) cs

/-- The lower-case form of a text. -/
def lower (cs : List Char) : List Char := lowerAfter [] cs

/-- The upper-case form of a text. -/
def upper (cs : List Char) : List Char := cs.flatMap upperChar

end Chars

namespace Text

/-- The lower-case form of a text. -/
def lower (s : String) : String := String.ofList (Chars.lower s.toList)

/-- The upper-case form of a text. -/
def upper (s : String) : String := String.ofList (Chars.upper s.toList)

/-- The letters A to Z in lower case, all else as it is. -/
def foldAscii (s : String) : String := String.ofList (s.toList.map Char.toLower)

/-- Equality up to the case of the letters A to Z. -/
def eqIgnoreCase (a b : String) : Bool := foldAscii a == foldAscii b

@[simp] theorem eqIgnoreCase_self (a : String) : eqIgnoreCase a a = true := by
  simp [eqIgnoreCase]

theorem eqIgnoreCase_comm (a b : String) : eqIgnoreCase a b = eqIgnoreCase b a := by
  simp only [eqIgnoreCase]
  exact Bool.beq_comm

end Text

end BuildExpr
