import BuildExpr.Regex.Tree

/-!
# Machines for regular expressions

An expression becomes a program of numbered steps. Where a step has two followers the first is
preferred. Programs are built from their end: a part is told which step follows it.
-/

namespace BuildExpr

namespace Regex

/-- A step of a program. -/
inductive Step
  /-- The match is complete. -/
  | accept
  /-- Takes a character of a class. -/
  | take (c : CharClass) (next : Nat)
  /-- Goes on where a condition holds. -/
  | check (a : Anchor) (next : Nat)
  | fork (first second : Nat)
  /-- Remembers the place in a slot. -/
  | mark (slot next : Nat)
  deriving Inhabited

/-- The steps of a program. -/
abbrev Program := Array Step

/-- Builds a part of a program and gives its first step. -/
abbrev Build := StateM Program Nat

namespace Build

/-- A new step. -/
def emit (s : Step) : Build := modifyGet fun p => (p.size, p.push s)

/-- A fork that prefers `body` when greedy, and `next` when lazy. -/
def choose (greedy : Bool) (body next : Nat) : Step :=
  if greedy then .fork body next else .fork next body

/-- A part built again and again, so many times. -/
def chain (part : Nat → Build) : Nat → Nat → Build
  | 0, next => pure next
  | n + 1, next => do part (← chain part n next)

/-- A part that may be left out. -/
def optional (part : Nat → Build) (greedy : Bool) (next : Nat) : Build := do
  emit (choose greedy (← part next) next)

/-- At most so many copies, each of which may be the last. All of them lead to `next`. -/
def upTo (part : Nat → Build) (greedy : Bool) (next : Nat) : Nat → Build
  | 0 => pure next
  | n + 1 => do
    let rest ← upTo part greedy next n
    emit (choose greedy (← part rest) next)

/-- A fork that is reached again from the end of a part: the fork and the start of the part. -/
def loop (part : Nat → Build) (greedy : Bool) (next : Nat) : StateM Program (Nat × Nat) := do
  let fork ← emit .accept
  let start ← part fork
  modify fun p => p.setIfInBounds fork (choose greedy start next)
  return (fork, start)

/-- One or more copies. -/
def oneOrMore (part : Nat → Build) (greedy : Bool) (next : Nat) : Build := do
  return (← loop part greedy next).2

/-- Any number of copies. When a copy may take no character, going round without taking one
must not come before taking one, so the loop is one or more copies that may be left out. -/
def anyNumber (part : Nat → Build) (takes greedy : Bool) (next : Nat) : Build := do
  let (fork, start) ← loop part greedy next
  if takes then return fork else emit (choose greedy start next)

end Build

/-- Builds the steps of an expression before a step. -/
def build : Regex → Nat → Build
  | empty, next => pure next
  | one c, next => Build.emit (.take c next)
  | look a, next => Build.emit (.check a next)
  | seq a b, next => do build a (← build b next)
  | either a b, next => do
    let first ← build a next
    let second ← build b next
    Build.emit (.fork first second)
  | group index r, next => do
    let close ← Build.emit (.mark (2 * index + 1) next)
    Build.emit (.mark (2 * index) (← build r close))
  | copies r least (some most) greedy, next => do
    let rest ← Build.upTo (build r) greedy next (most - least)
    Build.chain (build r) least rest
  | copies r 0 none greedy, next => Build.anyNumber (build r) r.takesCharacter greedy next
  | copies r (n + 1) none greedy, next => do
    Build.chain (build r) n (← Build.oneOrMore (build r) greedy next)

/-- The program of an expression, whose match is remembered as group 0, and its first step. -/
def program (r : Regex) : Nat × Program :=
  (do build (.group 0 r) (← Build.emit .accept) : Build).run #[]

end Regex

/-- An estimate of the bytes that the automaton of a class takes. -/
def CharClass.cost : CharClass → Nat
  | none => 32
  | range first last => if first == last then 32 * first.utf8Size else 64 * last.utf8Size
  | digit => 6000
  | blank => 700
  | word => 48000
  | listed table => 64 * table.size
  | negate a => a.cost + 256
  | folded a | foldedAscii a => 2 * a.cost
  | union a b | inter a b | diff a b | symDiff a b => a.cost + b.cost

/-- An estimate of the bytes that the automaton of an expression takes. -/
def Regex.cost : Regex → Nat
  | empty | look _ => 32
  | one c => c.cost
  | seq a b => a.cost + b.cost
  | either a b => a.cost + b.cost + 40
  | copies r least most _ => (r.cost + 40) * max 1 (most.getD least)
  | group _ r => r.cost + 64

end BuildExpr
