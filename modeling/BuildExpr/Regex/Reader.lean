import BuildExpr.Regex.Bracket
import BuildExpr.Text.LetterTable

/-!
# Reading patterns

`Pattern.read?` gives the expression that a pattern is written for, with its groups, and nothing
when the pattern is malformed. Look-around and references back to groups are not accepted.
-/

namespace BuildExpr

namespace Regex

/-- What has been read of a pattern. -/
structure Reading where
  flags : Flags
  /-- The number of groups that remember what they match. -/
  groups : Nat := 0
  /-- The groups with names. -/
  names : List (String × Nat) := []

/-- A part of a pattern that has been read. -/
structure Piece where
  regex : Regex
  /-- How deep parts are nested in it. -/
  height : Nat := 0
  /-- Whether it can be repeated: a setting of flags cannot. -/
  repeatable : Bool := true

/-- The deepest nesting of parts that is accepted. -/
def heightLimit : Nat := 250

/-- One more than the greatest height of pieces. -/
def heightAbove (pieces : List Piece) : Nat := pieces.foldl (fun h p => max h p.height) 0 + 1

/-- Pieces after each other. -/
def Piece.seq : List Piece → Piece
  | [] => { regex := .empty }
  | [p] => p
  | p :: q :: rest =>
    { regex := (q :: rest).foldl (fun r next => .seq r next.regex) p.regex
      height := heightAbove (p :: q :: rest) }

/-- The first of pieces that matches. -/
def Piece.either : List Piece → Piece
  | [] => { regex := .empty }
  | [p] => p
  | p :: q :: rest =>
    { regex := (q :: rest).foldl (fun r next => .either r next.regex) p.regex
      height := heightAbove (p :: q :: rest) }

/-- A number in a count of copies, if digits are there, and what follows it. Blanks may stand
around it. -/
def readCount (f : Flags) (cs : List Char) : Option Nat × List Char :=
  let cs := Chars.trimStart cs
  let digits := cs.takeWhile Numeral.isDigit
  (Numeral.read? 10 digits, f.skip (Chars.trimStart (cs.dropWhile Numeral.isDigit)))

/-- The least and the greatest number of copies after an opening brace. -/
def readBounds (f : Flags) (cs : List Char) : Option (Nat × Option Nat × List Char) := do
  let (least, cs) := readCount f (f.skip cs)
  let least ← least
  let (most, cs) ←
    match cs with
    | ',' :: cs =>
      match f.skip cs with
      | '\x7d' :: _ => some (none, f.skip cs)
      | cs =>
        let (most, cs) := readCount f cs
        most.map fun n => (some n, cs)
    | cs => some (some least, cs)
  match cs with
  | '\x7d' :: cs =>
    let top := most.getD least
    if least ≤ top && top < Numeral.bound32 then return (least, most, f.skip cs) else none
  | _ => none

/-- The piece repeated, and the text after the mark that makes the repetition lazy. -/
def repeatPiece (f : Flags) (p : Piece) (least : Nat) (most : Option Nat) (cs : List Char) :
    Option (Piece × List Char) :=
  if !p.repeatable then none
  else
    let (greedy, cs) :=
      match cs with
      | '?' :: cs => (false, cs)
      | _ => (true, cs)
    some ({ regex := p.regex.times least most (greedy != f.swapGreed), height := p.height + 1 },
      cs)

/-- The flags after letters that set them and, after a hyphen, clear them; with the text from
the colon or parenthesis on. -/
def readFlags (f : Flags) (seen : List Char) (on : Bool) : List Char → Option (Flags × List Char)
  | [] => none
  | c :: cs =>
    if c == ':' || c == ')' then if seen.head? == some '-' then none else some (f, c :: cs)
    else if seen.contains c then none
    else if c == '-' then readFlags f (c :: seen) false cs
    else (f.set? c on).bind fun f => readFlags f (c :: seen) on cs

/-- Whether a character can be in the name of a group. -/
def isNameChar (first : Bool) (c : Char) : Bool :=
  c == '_' || Text.isLetter c ||
    (!first && (c == '.' || c == '[' || c == ']' || Text.isNumeric c))

/-- The name of a group up to its closing bracket. -/
def readName (cs : List Char) : Option (String × List Char) := do
  let (name, rest) ← Chars.cut? '>' cs
  match name with
  | [] => none
  | c :: more =>
    if isNameChar true c && more.all (isNameChar false) then return (String.ofList name, rest)
    else none

/-- The start of a group after its parenthesis. -/
inductive Opening
  /-- A group with a number. -/
  | numbered (name : Option String)
  /-- A group without a number, with the flags inside. -/
  | plain (inside : Flags)
  /-- Flags for what follows. -/
  | flags (after : Flags)

/-- Whether a group looks around, which is not accepted. -/
def looksAround (cs : List Char) : Bool :=
  ["?=", "?!", "?<=", "?<!"].any fun start => start.toList.isPrefixOf cs

/-- Reads the start of a group. -/
def readOpening (f : Flags) (cs : List Char) : Option (Opening × List Char) := do
  let cs := f.skip cs
  if looksAround cs then none
  match cs with
  | '?' :: 'P' :: '<' :: cs | '?' :: '<' :: cs =>
    let (name, cs) ← readName cs
    return (.numbered (some name), cs)
  | '?' :: cs =>
    match ← readFlags f [] true cs with
    | (inside, ':' :: rest) => return (.plain inside, rest)
    | (after, _ :: rest) => if rest.length + 1 == cs.length then none else return (.flags after, rest)
    | _ => none
  | _ => return (.numbered none, cs)

/-- A character, escape, dot, anchor or class. -/
def readAtom (f : Flags) : List Char → Option (Regex × List Char)
  | [] => none
  | c :: cs =>
    match c with
    | '\\' => do
      let (atom, cs) ← readEscape f cs
      return (← atom.regex? f, cs)
    | '.' => f.dot?.map fun c => (.one c, cs)
    | '^' => some (.look f.startAnchor, cs)
    | '$' => some (.look f.endAnchor, cs)
    | _ => (Atom.regex? f (.char c false)).map fun r => (r, cs)

/-- Applies a repetition to the last piece, and nothing when there is none. -/
def repeatLast (f : Flags) (branch : List Piece) (least : Nat) (most : Option Nat)
    (cs : List Char) : Option (List Piece × List Char) :=
  match branch with
  | [] => none
  | p :: before => (repeatPiece f p least most cs).map fun (p, cs) => (p :: before, cs)

mutual

/-- Reads branches up to a closing parenthesis or the end. `done` holds the branches that are
complete and `branch` the pieces of the one that is read, the last first. The number bounds the
characters that are left. -/
def readBranches : Nat → Reading → List Piece → List Piece → List Char →
    Option (Piece × Reading × List Char)
  | 0, _, _, _, _ => none
  | fuel + 1, s, done, branch, cs =>
    let finish := fun (cs : List Char) =>
      some (Piece.either (Piece.seq branch.reverse :: done).reverse, s, cs)
    let again := fun (next : List Piece × List Char) => readBranches fuel s done next.1 next.2
    match s.flags.skip cs with
    | [] => finish []
    | c :: cs =>
      match c with
      | ')' => finish (c :: cs)
      | '|' => readBranches fuel s (Piece.seq branch.reverse :: done) [] cs
      | '(' =>
        (readGroup fuel s cs).bind fun (p, s, cs) => readBranches fuel s done (p :: branch) cs
      | '[' =>
        (readBracket s.flags fuel cs).bind fun (set, cs) =>
          again ({ regex := .one set, height := 1 } :: branch, cs)
      | '?' => (repeatLast s.flags branch 0 (some 1) cs).bind again
      | '*' => (repeatLast s.flags branch 0 none cs).bind again
      | '+' => (repeatLast s.flags branch 1 none cs).bind again
      | '\x7b' =>
        (readBounds s.flags cs).bind fun (least, most, cs) =>
          (repeatLast s.flags branch least most cs).bind again
      | _ => (readAtom s.flags (c :: cs)).bind fun (r, cs) => again ({ regex := r } :: branch, cs)

/-- Reads a group, or a setting of flags, after its opening parenthesis. -/
def readGroup : Nat → Reading → List Char → Option (Piece × Reading × List Char)
  | 0, _, _ => none
  | fuel + 1, s, cs => do
    let (opening, cs) ← readOpening s.flags cs
    match opening with
    | .flags after => return ({ regex := .empty, repeatable := false }, { s with flags := after }, cs)
    | .plain inside =>
      match ← readBranches fuel { s with flags := inside } [] [] cs with
      | (p, t, ')' :: cs) =>
        return ({ p with height := p.height + 1, repeatable := true }, { t with flags := s.flags },
          cs)
      | _ => none
    | .numbered name =>
      let index := s.groups + 1
      let named := name.toList.map fun n => (n, index)
      if named.any fun (n, _) => s.names.any fun (m, _) => m == n then none
      let inner := { s with groups := index, names := s.names ++ named }
      match ← readBranches fuel inner [] [] cs with
      | (p, t, ')' :: cs) =>
        return ({ regex := .group index p.regex, height := p.height + 1 },
          { t with flags := s.flags }, cs)
      | _ => none

end

end Regex

/-- An expression with its groups. -/
structure Pattern where
  regex : Regex
  /-- The number of groups that remember what they match. -/
  groups : Nat
  /-- The groups with names. -/
  names : List (String × Nat)

/-- The expression that a pattern is written for. -/
def Pattern.read? (flags : Regex.Flags) (text : List Char) : Option Pattern :=
  match Regex.readBranches (2 * text.length + 2) { flags } [] [] text with
  | some (p, s, []) =>
    if Regex.heightLimit < p.height then none
    else some { regex := p.regex, groups := s.groups, names := s.names }
  | _ => none

end BuildExpr
