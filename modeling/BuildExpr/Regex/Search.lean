import BuildExpr.Regex.Machine
import BuildExpr.Regex.Reader

/-!
# Searching with regular expressions

All ways to match are followed at the same time, in the order in which they are preferred; ways
that reach one step at one place are the same from there on, and only the first goes on. The
first match in a text starts as early as possible, and of the matches from there it is the one
that is preferred.
-/

namespace BuildExpr

/-! ## Places in a text -/

namespace Regex

/-- A place in a text. -/
structure Place where
  /-- The number of characters before it. -/
  index : Nat
  /-- The character before it. -/
  before : Option Char
  /-- The characters after it. -/
  after : List Char

/-- Whether a character is part of a word. -/
def isWordChar (ascii : Bool) (c : Option Char) : Bool :=
  c.any (if ascii then CharClass.asciiWord else CharClass.word).contains

end Regex

/-- Whether a place is at a word in some way. -/
def WordEdge.holds (edge : WordEdge) (before after : Bool) : Bool :=
  match edge with
  | .boundary => before != after
  | .inside => before == after
  | .start => !before && after
  | .stop => before && !after
  | .startHalf => !before
  | .stopHalf => !after

/-- Whether a condition holds at a place. -/
def Anchor.holds (a : Anchor) (p : Regex.Place) : Bool :=
  let next := p.after.head?
  match a with
  | .textStart => p.before.isNone
  | .textEnd => next.isNone
  | .lineStart crlf =>
    p.before.isNone || p.before == some '\n' ||
      (crlf && p.before == some '\r' && next != some '\n')
  | .lineEnd crlf =>
    next.isNone || (next == some '\n' && !(crlf && p.before == some '\r')) ||
      (crlf && next == some '\r')
  | .word edge ascii => edge.holds (Regex.isWordChar ascii p.before) (Regex.isWordChar ascii next)

/-! ## Ways to match -/

namespace Regex

/-- The places that a match has remembered so far. -/
abbrev Slots := Array (Option Nat)

/-- The ways to match that wait at one place. -/
structure Threads where
  /-- Which steps have been reached. -/
  reached : Array Bool
  /-- The steps that take a character or accept, the preferred last. -/
  waiting : List (Nat × Slots) := []

/-- No way to match. -/
def Threads.none (p : Program) : Threads := { reached := Array.replicate p.size false }

/-- Follows the steps of `todo`, in order, up to those that take a character or accept. Every
turn either drops a step or reaches a new one, which adds two at most; so `fuel` need be no more
than the length of `todo` and twice the number of steps. -/
def follow (p : Program) (place : Place) : Nat → List (Nat × Slots) → Threads → Threads
  | 0, _, t => t
  | _, [], t => t
  | fuel + 1, (i, slots) :: todo, t =>
    if t.reached.getD i true then follow p place fuel todo t
    else
      let t := { t with reached := t.reached.setIfInBounds i true }
      match p.getD i .accept with
      | .accept | .take _ _ => follow p place fuel todo { t with waiting := (i, slots) :: t.waiting }
      | .check a next =>
        follow p place fuel (if a.holds place then (next, slots) :: todo else todo) t
      | .fork first second => follow p place fuel ((first, slots) :: (second, slots) :: todo) t
      | .mark slot next =>
        follow p place fuel ((next, slots.setIfInBounds slot (some place.index)) :: todo) t

/-- Adds a step to the ways to match at a place. -/
def reach (p : Program) (place : Place) (i : Nat) (slots : Slots) (t : Threads) : Threads :=
  follow p place (2 * p.size + 1) [(i, slots)] t

/-- The ways to match after a character, and the best match that was complete before it. Ways
that are less preferred than a complete match are given up. -/
def advance (p : Program) (c : Option Char) (next : Place) :
    List (Nat × Slots) → Threads → Threads × Option Slots
  | [], t => (t, none)
  | (i, slots) :: rest, t =>
    match p.getD i .accept with
    | .take set follower =>
      match c with
      | some c =>
        advance p (some c) next rest (if set.contains c then reach p next follower slots t else t)
      | none => advance p none next rest t
    | _ => (t, some slots)

/-- The first match from a place on, when the ways to match at the place are `t`, and `best` is
the best match that is complete. -/
def run (p : Program) (start : Nat) (slots : Slots) (index : Nat) (before : Option Char) (t : Threads)
    (best : Option Slots) : List Char → Option Slots
  | [] =>
    let place : Place := ⟨index, before, []⟩
    let t := if best.isNone then reach p place start slots t else t
    (advance p none place t.waiting.reverse (.none p)).2 <|> best
  | c :: cs =>
    let place : Place := ⟨index, before, c :: cs⟩
    let t := if best.isNone then reach p place start slots t else t
    if best.isSome && t.waiting.isEmpty then best
    else
      let (t, found) := advance p (some c) ⟨index + 1, some c, cs⟩ t.waiting.reverse (.none p)
      run p start slots (index + 1) (some c) t (found <|> best) cs

end Regex

/-- A match: the places where its groups begin and end. -/
structure Match where
  groups : List (Option (Nat × Nat))

namespace Match

/-- Where the match begins and ends. -/
def whole (m : Match) : Nat × Nat := (m.groups.headD none).getD (0, 0)

/-- The text of a group. -/
def group? (m : Match) (text : List Char) (index : Nat) : Option (List Char) :=
  match m.groups[index]? with
  | some (some (first, stop)) => some ((text.drop first).take (stop - first))
  | _ => none

end Match

namespace Pattern

/-- The match that slots describe. -/
def ofSlots (groups : Nat) (slots : Regex.Slots) : Match :=
  { groups := (List.range (groups + 1)).map fun i =>
      match slots.getD (2 * i) none, slots.getD (2 * i + 1) none with
      | some first, some stop => some (first, stop)
      | _, _ => none }

/-- The first match at or after a place. -/
def findFrom (p : Pattern) (program : Nat × Regex.Program) (index : Nat) (before : Option Char)
    (after : List Char) : Option Match :=
  let slots := Array.replicate (2 * (p.groups + 1)) none
  (Regex.run program.2 program.1 slots index before (.none program.2) none after).map
    (ofSlots p.groups)

/-- The matches from an index on. A match that is empty and begins where the last one ended is
passed over: the search goes on one character later. -/
def matchesFrom (p : Pattern) (program : Nat × Regex.Program) (text : List Char) :
    Nat → Nat → Option Nat → List Match
  | 0, _, _ => []
  | fuel + 1, index, last =>
    let search := fun (i : Nat) =>
      if text.length < i then none
      else p.findFrom program i (if i == 0 then none else text[i - 1]?) (text.drop i)
    let found :=
      match search index with
      | some m => if m.whole.1 == m.whole.2 && last == some m.whole.2 then search (index + 1) else some m
      | none => none
    match found with
    | some m => m :: matchesFrom p program text fuel m.whole.2 (some m.whole.2)
    | none => []

/-- All matches in a text, from left to right and without overlap. -/
def findAll (p : Pattern) (text : List Char) : List Match :=
  p.matchesFrom p.regex.program text (text.length + 2) 0 none

/-- The first match in a text. -/
def find? (p : Pattern) (text : List Char) : Option Match :=
  p.findFrom p.regex.program 0 none text

end Pattern

end BuildExpr
