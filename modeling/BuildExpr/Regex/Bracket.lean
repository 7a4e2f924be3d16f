import BuildExpr.Regex.Atom
import BuildExpr.Text.Search

/-!
# Classes between brackets

A class lists characters, ranges, named classes and further classes; `&&`, `--` and `~~` take
what both sides have, what the left side alone has and what one side alone has. Reading gives
nothing when the pattern is malformed.
-/

namespace BuildExpr

namespace Regex

/-- An operation on two classes. -/
inductive ClassOp
  | both
  | leftOnly
  | oneOnly
  deriving DecidableEq

/-- The class an operation makes. -/
def ClassOp.apply (f : Flags) (a b : CharClass) : ClassOp → CharClass
  | both => .inter (f.fold a) (f.fold b)
  | leftOnly => .diff (f.fold a) (f.fold b)
  | oneOnly => .symDiff (f.fold a) (f.fold b)

/-- What has been read of a class. -/
structure OpenClass where
  /-- The left side of an operation whose right side is being read. -/
  left : Option (ClassOp × CharClass) := none
  items : CharClass := .none

namespace OpenClass

/-- The class with one more part. -/
def add (k : OpenClass) (c : CharClass) : OpenClass := { k with items := .union k.items c }

/-- The whole class so far. -/
def whole (f : Flags) (k : OpenClass) : CharClass :=
  match k.left with
  | some (op, a) => op.apply f a k.items
  | none => k.items

/-- The class as the left side of an operation. -/
def operate (f : Flags) (k : OpenClass) (op : ClassOp) : OpenClass :=
  { left := some (op, k.whole f) }

end OpenClass

/-- A named class between colons, after the bracket that opens it, and whether it is negated. -/
def readNamed? (cs : List Char) : Option (CharClass × Bool × List Char) :=
  match cs with
  | ':' :: cs =>
    let (negated, cs) :=
      match cs with
      | '^' :: cs => (true, cs)
      | _ => (false, cs)
    match Chars.cut? ':' cs with
    | some (name, ']' :: rest) =>
      (CharClass.named? (String.ofList name)).map fun c => (c, negated, rest)
    | _ => none
  | _ => none

/-- A character or escape in a class. -/
def readItem (f : Flags) : List Char → Option (Atom × List Char)
  | [] => none
  | c :: cs => if c == '\\' then readEscape f cs else some (.char c false, cs)

/-- A range, or a character or escape by itself. -/
def readRange (f : Flags) (cs : List Char) : Option (CharClass × List Char) := do
  let (first, cs) ← readItem f cs
  match f.skip cs with
  | [] => none
  | '-' :: rest =>
    match f.skip rest with
    | [] => none
    | c :: after =>
      if c == ']' || c == '-' then return (← first.class? f, '-' :: rest)
      let (last, cs) ← readItem f (c :: after)
      match first, last with
      | .char a _, .char b _ =>
        if b < a || (!f.unicode && 128 ≤ b.toNat) then none else return (.range a b, cs)
      | _, _ => none
  | cs => return (← first.class? f, cs)

/-- The hyphens at the start of a class, which stand for themselves, and whether there are any. -/
def skipHyphens (f : Flags) : List Char → Bool × List Char
  | [] => (false, [])
  | c :: cs =>
    if c == '-' then (true, (skipHyphens f cs).2)
    else if f.verbose && Chars.isBlank c then skipHyphens f cs
    else (false, c :: cs)

/-- The start of a class after its bracket: what it holds so far, whether it is negated, and
the text after it. A closing bracket at the very start stands for itself. -/
def openClass (f : Flags) (cs : List Char) : OpenClass × Bool × List Char :=
  let cs := f.skip cs
  let (negated, cs) :=
    match cs with
    | '^' :: cs => (true, f.skip cs)
    | _ => (false, cs)
  match skipHyphens f cs with
  | (true, cs) => ({ items := .single '-' }, negated, cs)
  | (false, ']' :: cs) => ({ items := .single ']' }, negated, cs)
  | (false, cs) => ({}, negated, cs)

/-- A class between brackets or colons. -/
def closeClass (f : Flags) (negated : Bool) (c : CharClass) : Option CharClass :=
  if negated then f.negate? (f.fold c) else some (f.fold c)

mutual

/-- Reads a class after its opening bracket. The number bounds the characters that are left. -/
def readBracket (f : Flags) : Nat → List Char → Option (CharClass × List Char)
  | 0, _ => none
  | fuel + 1, cs => do
    let (k, negated, cs) := openClass f cs
    let (k, cs) ← readItems f fuel k cs
    return (← closeClass f negated (k.whole f), cs)

/-- Reads the parts of a class up to its closing bracket. -/
def readItems (f : Flags) : Nat → OpenClass → List Char → Option (OpenClass × List Char)
  | 0, _, _ => none
  | fuel + 1, k, cs =>
    match f.skip cs with
    | [] => none
    | ']' :: cs => some (k, cs)
    | '&' :: '&' :: cs => readItems f fuel (k.operate f .both) cs
    | '-' :: '-' :: cs => readItems f fuel (k.operate f .leftOnly) cs
    | '~' :: '~' :: cs => readItems f fuel (k.operate f .oneOnly) cs
    | '[' :: cs =>
      match readNamed? cs with
      | some (c, negated, rest) =>
        (closeClass f negated c).bind fun c => readItems f fuel (k.add c) rest
      | none =>
        (readBracket f fuel cs).bind fun (c, rest) => readItems f fuel (k.add c) rest
    | cs => (readRange f cs).bind fun (c, rest) => readItems f fuel (k.add c) rest

end

end Regex

end BuildExpr
