import BuildExpr.Regex.Class

/-!
# Regular expressions

The tree that a pattern is read into. Of two branches the first is preferred, and a repetition
prefers more or fewer copies as it is greedy or not; groups remember what they matched.
-/

namespace BuildExpr

/-- What a place between characters may have to be at a word. -/
inductive WordEdge
  | boundary
  | inside
  | start
  | stop
  /-- No word character before. -/
  | startHalf
  /-- No word character after. -/
  | stopHalf
  deriving DecidableEq

/-- A condition on a place between characters. -/
inductive Anchor
  | textStart
  | textEnd
  /-- The start of a line; `crlf` says whether lines may end in a carriage return. -/
  | lineStart (crlf : Bool)
  | lineEnd (crlf : Bool)
  /-- A place at a word; `ascii` says whether words are made of ASCII characters alone. -/
  | word (edge : WordEdge) (ascii : Bool)
  deriving DecidableEq

/-- A regular expression. -/
inductive Regex
  | empty
  /-- One character of a class. -/
  | one (c : CharClass)
  | look (a : Anchor)
  | seq (a b : Regex)
  | either (a b : Regex)
  /-- At least `least` and at most `most` copies. -/
  | copies (r : Regex) (least : Nat) (most : Option Nat) (greedy : Bool)
  /-- What is matched is remembered under a number. -/
  | group (index : Nat) (r : Regex)
  deriving DecidableEq, Inhabited

namespace Regex

/-- Whether there is surely a character in every match. -/
def takesCharacter : Regex → Bool
  | empty | look _ => false
  | one _ => true
  | seq a b => a.takesCharacter || b.takesCharacter
  | either a b => a.takesCharacter && b.takesCharacter
  | copies r least _ _ => least != 0 && r.takesCharacter
  | group _ r => r.takesCharacter

/-- Whether no match has a character. -/
def takesNothing : Regex → Bool
  | empty | look _ => true
  | one _ => false
  | seq a b => a.takesNothing && b.takesNothing
  | either a b => a.takesNothing && b.takesNothing
  | copies r _ most _ => most == some 0 || r.takesNothing
  | group _ r => r.takesNothing

/-- Copies of an expression in the simplest form: what takes no character is not matched twice. -/
def times (r : Regex) (least : Nat) (most : Option Nat) (greedy : Bool) : Regex :=
  let least' := if r.takesNothing then min least 1 else least
  let most' := if r.takesNothing then some (min (most.getD 1) 1) else most
  if most' == some 0 then empty
  else if least' == 1 && most' == some 1 then r
  else copies r least' most' greedy

end Regex

end BuildExpr
