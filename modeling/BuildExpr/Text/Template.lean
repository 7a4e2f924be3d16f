import BuildExpr.Fault
import BuildExpr.Text.Search
import BuildExpr.Text.Blank
import BuildExpr.Value

/-!
# Templates

A template is text with places `{index,width:rendering}` for values. A doubled brace stands for
one brace. A negative width puts the blanks after the value, and a rendering applies to integers
only.
-/

namespace BuildExpr

namespace Template

/-- The opening brace. -/
def opening : Char := '\x7b'

/-- The closing brace. -/
def closing : Char := '\x7d'

/-- Reads a width: an optional sign and digits that fit in 32 bits. -/
def width? (cs : List Char) : Option Int :=
  ((Integer.readSigned? 10 cs).filter Integer.fits32).map Int64.toInt

/-- A text with blanks up to a width. -/
def pad (width : Int) (cs : List Char) : List Char :=
  let blanks := List.replicate (width.natAbs - cs.length) ' '
  if width < 0 then cs ++ blanks else blanks ++ cs

/-- A value in a rendering. -/
def render (v : Value) (rendering : List Char) : Except Fault String :=
  match v with
  | .int n =>
    if rendering.isEmpty then .ok v.display
    else
      match Integer.Format.parse? (String.ofList rendering) with
      | some format => .ok (format.apply n)
      | none => .error .formatSpecifier
  | _ => .ok v.display

/-- Fills one place, given the text between its braces. -/
def place (values : List Value) (item : List Char) : Except Fault (List Char) := do
  let (head, rendering) := (Chars.cut? ':' item).getD (item, [])
  let (index, width) :=
    match Chars.cut? ',' head with
    | some (index, width) => (Chars.trim index, width? (Chars.trim width))
    | none => (Chars.trim head, none)
  match (Numeral.readBounded? Numeral.bound64 index).bind (values[·]?) with
  | none => .error .formatIndex
  | some v => return pad (width.getD 0) (← render v rendering).toList

/-- A template with its places filled. -/
def fill (values : List Value) (cs : List Char) : Except Fault (List Char) :=
  match cs with
  | [] => .ok []
  | c :: rest =>
    if c == opening then
      match rest with
      | [] => .error .formatText
      | d :: after =>
        if d == opening then (fill values after).map (opening :: ·)
        else
          match _h : Chars.cut? closing (d :: after) with
          | none => .error .formatText
          | some (item, after) => do
            let text ← place values item
            return text ++ (← fill values after)
    else if c == closing then
      match rest with
      | [] => .error .formatText
      | d :: after =>
        if d == closing then (fill values after).map (closing :: ·) else .error .formatText
    else (fill values rest).map (c :: ·)
  termination_by cs.length
  decreasing_by
    · simp only [List.length_cons]
      omega
    · have := congrArg List.length (Chars.eq_of_cut?_eq_some _h)
      simp at this ⊢
      omega
    · simp only [List.length_cons]
      omega
    · simp

end Template

end BuildExpr
