import BuildExpr.Calendar.DateTime
import BuildExpr.Number.Arithmetic
import BuildExpr.Version
import BuildExpr.Text.Escape

/-!
# Values

What property functions take and give. The texts in values are plain; they are escaped when a
value becomes part of an expression again, where the elements of an array turn into separate
entries of a list.
-/

namespace BuildExpr

/-- A value. -/
inductive Value
  /-- No object. -/
  | null
  | text (s : String)
  | char (c : Char)
  | bool (b : Bool)
  | int (n : Int64)
  | double (x : Float)
  | version (v : Version)
  | dateTime (t : DateTime)
  | timeSpan (s : TimeSpan)
  | array (elements : List Value)
  deriving Inhabited

namespace Value

/-- The name of the type of a value. -/
def typeName : Value → String
  | null => "System.Object"
  | text _ => "System.String"
  | char _ => "System.Char"
  | bool _ => "System.Boolean"
  | int _ => "System.Int64"
  | double _ => "System.Double"
  | version _ => "System.Version"
  | dateTime _ => "System.DateTime"
  | timeSpan _ => "System.TimeSpan"
  | array _ => "System.Array"

/-- Whether a value is no object. -/
def isNull : Value → Bool
  | null => true
  | _ => false

/-- The text of a value that is a text. -/
def text? : Value → Option String
  | text s => some s
  | _ => none

mutual

/-- The plain text of a value. -/
def display : Value → String
  | null => ""
  | text s => s
  | char c => c.toString
  | bool true => "True"
  | bool false => "False"
  | int n => Integer.text n
  | double x => Binary64.text x
  | version v => v.text
  | dateTime t => t.text
  | timeSpan s => s.text
  | array elements => Text.join ";" (displayAll elements)

/-- The plain texts of values. -/
def displayAll : List Value → List String
  | [] => []
  | v :: vs => display v :: displayAll vs

end

mutual

/-- The text of a value in escaped form. The separators between the elements of an array are
left as they are, so that each element is a list entry. -/
def escaped : Value → String
  | array elements => Text.join ";" (escapedAll elements)
  | v => Text.escape v.display

/-- The escaped texts of values. -/
def escapedAll : List Value → List String
  | [] => []
  | v :: vs => escaped v :: escapedAll vs

end

theorem displayAll_eq_map (vs : List Value) : displayAll vs = vs.map display := by
  induction vs with
  | nil => simp [displayAll]
  | cons v vs ih => simp [displayAll, ih]

theorem escapedAll_eq_map (vs : List Value) : escapedAll vs = vs.map escaped := by
  induction vs with
  | nil => simp [escapedAll]
  | cons v vs ih => simp [escapedAll, ih]

/-- The number an operand stands for as a value. -/
def ofNumber : Number → Value
  | .int n => int n
  | .double x => double x

/-- An integer as a value; it has to fit in 64 bits. -/
def ofInt (n : Int) : Value := int (Int64.ofInt n)

/-- The result of a comparison: -1, 0 or 1. -/
def ofOrdering : Ordering → Value
  | .lt => int (-1)
  | .eq => int 0
  | .gt => int 1

/-- An array of texts. -/
def ofTexts (texts : List String) : Value := array (texts.map text)

end Value

/-- What an expression evaluates to. -/
inductive Outcome
  /-- Text in escaped form. -/
  | text (escaped : String)
  /-- The value of a single property function. -/
  | value (v : Value)
  deriving Inhabited

namespace Outcome

/-- The text of an outcome in escaped form. -/
def escaped : Outcome → String
  | text s => s
  | value v => v.escaped

/-- The value passed to a parameter: text is unescaped, a value stays as it is. -/
def argument : Outcome → Value
  | text s => .text (Text.unescape s)
  | value v => v

end Outcome

end BuildExpr
