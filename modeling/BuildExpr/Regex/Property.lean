import BuildExpr.Regex.Class
import BuildExpr.Text.CaseClassTable
import BuildExpr.Text.Category
import BuildExpr.Text.LetterTable
import BuildExpr.Text.ScriptTable
import BuildExpr.Text.Search

/-!
# Classes named for properties of characters

A name in a pattern may stand for a general category, a script or a property that a character
has or has not. Names are compared in lower case and without separators.
-/

namespace BuildExpr

namespace CharClass

/-- The form in which names of properties are compared: its ASCII characters in lower case,
without blanks, underscores and hyphens and without `is` in front. The name `isc` keeps it, for
it is not the name `c`. -/
def propertyName (name : List Char) : String :=
  let plain (cs : List Char) : List Char :=
    (cs.filter fun c => c.toNat < 128 && c != ' ' && c != '_' && c != '-').map Char.toLower
  match name with
  | i :: s :: rest =>
    if i.toLower == 'i' && s.toLower == 's' then
      match plain rest with
      | ['c'] => "isc"
      | cs => String.ofList cs
    else String.ofList (plain name)
  | _ => String.ofList (plain name)

/-- The characters of several categories. -/
def ofCategories (ks : List Text.Category) : CharClass :=
  ks.foldr (fun k rest => union (listed k.ranges) rest) none

/-- The class that stands for a general category. Unassigned characters are those of no
category, and the group of others has them in it. -/
def ofCategory? : String → Option CharClass
  | "any" => some any
  | "ascii" => some (range '\x00' '\x7f')
  | "cn" | "unassigned" => some (negate (ofCategories Text.Category.all))
  | "c" | "other" => some (negate (ofCategories Text.Category.graphic))
  | name => (Text.Category.named? name).map ofCategories

/-- The class that stands for a script. -/
def ofScript? (name : String) : Option CharClass := (Text.scriptRanges? name).map listed

/-- The class that stands for a property that a character has or has not. Letters in circles
and squares and Roman numerals are upper case besides the upper-case letters. -/
def ofTrait? : String → Option CharClass
  | "alphabetic" | "alpha" => some (listed Text.alphabeticRanges)
  | "lowercase" | "lower" => some (listed Text.lowercaseRanges)
  | "uppercase" | "upper" =>
    some (union (listed Text.uppercaseLetterRanges) (listed Text.otherUppercaseRanges))
  | "cased" => some (listed Text.casedRanges)
  | "caseignorable" | "ci" => some (listed Text.caseIgnorableRanges)
  | "whitespace" | "wspace" | "space" => some blank
  | "asciihexdigit" | "ahex" => some (ofRanges [('0', '9'), ('A', 'F'), ('a', 'f')])
  | _ => Option.none

/-- The class that a name by itself stands for. -/
def ofProperty? (name : List Char) : Option CharClass :=
  let name := propertyName name
  ((ofTrait? name).or (ofCategory? name)).or (ofScript? name)

/-- The class that the value of a property stands for. -/
def ofValue? (property value : List Char) : Option CharClass :=
  match propertyName property with
  | "generalcategory" | "gc" => ofCategory? (propertyName value)
  | "script" | "sc" => ofScript? (propertyName value)
  | _ => Option.none

/-- The class that a description between braces stands for: a name, or a property and its value
with one of the signs `!=`, `:` and `=` between them, which all mean the same. -/
def described? (text : List Char) : Option CharClass :=
  match Chars.find? "!=".toList text with
  | some n => ofValue? (text.take n) (text.drop (n + 2))
  | Option.none =>
    match (Chars.cut? ':' text).or (Chars.cut? '=' text) with
    | some (property, value) => ofValue? property value
    | Option.none => ofProperty? text

end CharClass

end BuildExpr
