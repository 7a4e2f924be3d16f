import BuildExpr.Text.Search

/-!
# Quotes and brackets

A text is read from left to right while an open quote and the number of open brackets are kept
in a `Nesting`. `closing` finds the bracket that closes a group, and `splitArguments` cuts an
argument list at the commas that stand outside every quoted run and every group.
-/

namespace BuildExpr

/-- The three characters that open a quoted run; the same one closes it. -/
def isQuote (c : Char) : Bool := c == '\'' || c == '\x60' || c == '"'

/-- How deep a position lies: the open quote, if any, and the opening brackets read less the
closing ones. -/
structure Nesting where
  quote : Option Char := none
  depth : Int := 0
  deriving DecidableEq, Inhabited, Repr

namespace Nesting

/-- The nesting after one more character. Brackets inside a quoted run do not count. -/
def step (opener closer : Char) (n : Nesting) (c : Char) : Nesting :=
  match n.quote with
  | some q => if c == q then { n with quote := none } else n
  | none =>
    if isQuote c then { n with quote := some c }
    else if c == opener then { n with depth := n.depth + 1 }
    else if c == closer then { n with depth := n.depth - 1 }
    else n

end Nesting

namespace Chars

/-- The text before and after the first closing bracket that brings the depth to zero, when
`n` is the nesting at the front. There is none when the text ends before, be it inside a
quoted run or not; a quote closes nothing but its own run. -/
def closing (opener closer : Char) (n : Nesting) : List Char → Option (List Char × List Char)
  | [] => none
  | c :: cs =>
    let next := n.step opener closer c
    if n.quote.isNone && next.quote.isNone && c == closer && next.depth == 0 then some ([], cs)
    else (closing opener closer next cs).map fun (inside, after) => (c :: inside, after)

/-- Where a position of an argument list lies. -/
inductive Region
  /-- Outside every quoted run and group. -/
  | outside
  /-- In a run opened by this quote. -/
  | quoted (quote : Char)
  /-- In a group of these brackets. -/
  | group (opener closer : Char) (n : Nesting)
  deriving DecidableEq, Inhabited

/-- The region after one more character. A group counts its own kind of brackets only. -/
def Region.step : Region → Char → Region
  | .outside, c =>
    if isQuote c then .quoted c
    else if c == '(' then .group '(' ')' { depth := 1 }
    else if c == '[' then .group '[' ']' { depth := 1 }
    else .outside
  | .quoted q, c => if c == q then .outside else .quoted q
  | .group opener closer n, c =>
    let next := n.step opener closer c
    if n.quote.isNone && c == closer && next.depth == 0 then .outside
    else .group opener closer next

/-- The pieces of an argument list whose front lies in the given region; nothing when a quoted
run or a group does not end. -/
def splitArgumentsIn : Region → List Char → Option (List (List Char))
  | .outside, [] => some [[]]
  | _, [] => none
  | region, c :: cs =>
    if region = .outside ∧ c = ',' then (splitArgumentsIn .outside cs).map ([] :: ·)
    else
      (splitArgumentsIn (region.step c) cs).map fun
        | [] => [[c]]
        | piece :: pieces => (c :: piece) :: pieces

/-- The pieces between the commas outside quoted runs, parentheses and square brackets. -/
def splitArguments (cs : List Char) : Option (List (List Char)) := splitArgumentsIn .outside cs

end Chars

end BuildExpr
