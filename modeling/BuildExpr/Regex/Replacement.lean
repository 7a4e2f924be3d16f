import BuildExpr.Number.Numeral
import BuildExpr.Regex.Search

/-!
# Replacements

A replacement text refers to groups of a match: `$1` and `${1}` by number, `${name}` by name and
`$&` to the whole match; `$$` is one `$`. A group that is not there, or took part in no match,
is empty. Any other `$` stands for itself.
-/

namespace BuildExpr

/-- A part of a replacement. -/
inductive ReplacementPart
  | char (c : Char)
  | number (index : Nat)
  | name (name : String)
  deriving DecidableEq

namespace Replacement

/-- The group that is meant by a text: a number, or else a name. -/
def reference (cs : List Char) : ReplacementPart :=
  match Numeral.readBounded? Numeral.bound64 cs with
  | some n => .number n
  | none => .name (String.ofList cs)

/-- Reads the parts of a replacement, after leaving out the first `skip` characters. -/
def readFrom (skip : Nat) : List Char → List ReplacementPart
  | [] => []
  | c :: cs =>
    match skip with
    | skip + 1 => readFrom skip cs
    | 0 =>
      if c != '$' then .char c :: readFrom 0 cs
      else
        match cs with
        | '$' :: _ => .char '$' :: readFrom 1 cs
        | '&' :: _ => .number 0 :: readFrom 1 cs
        | '\x7b' :: inside =>
          match Chars.cut? '\x7d' inside with
          | some (name, _) => reference name :: readFrom (name.length + 2) cs
          | none => .char '$' :: readFrom 0 cs
        | _ =>
          let digits := cs.takeWhile Numeral.isDigit
          if digits.isEmpty then .char '$' :: readFrom 0 cs
          else reference digits :: readFrom digits.length cs

/-- The parts of a replacement. -/
def read (cs : List Char) : List ReplacementPart := readFrom 0 cs

end Replacement

namespace Pattern

/-- The text that a part of a replacement stands for. -/
def partText (p : Pattern) (text : List Char) (m : Match) : ReplacementPart → List Char
  | .char c => [c]
  | .number i => (m.group? text i).getD []
  | .name n =>
    match p.names.find? fun (name, _) => name == n with
    | some (_, i) => (m.group? text i).getD []
    | none => []

/-- The pieces of a text between matches, from an index on: the text before each match with the
match, and the text after the last. -/
def cutAt (text : List Char) (index : Nat) : List Match → List (List Char × Match) × List Char
  | [] => ([], text.drop index)
  | m :: rest =>
    let (pieces, tail) := cutAt text m.whole.2 rest
    (((text.drop index).take (m.whole.1 - index), m) :: pieces, tail)

/-- The text with every match replaced. -/
def replaceAll (p : Pattern) (replacement text : List Char) : List Char :=
  let parts := Replacement.read replacement
  let (pieces, tail) := cutAt text 0 (p.findAll text)
  pieces.flatMap (fun (before, m) => before ++ parts.flatMap (p.partText text m)) ++ tail

/-- The texts between matches, with what the groups of each match have taken between them. -/
def split (p : Pattern) (text : List Char) : List (List Char) :=
  let (pieces, tail) := cutAt text 0 (p.findAll text)
  pieces.flatMap (fun (before, m) =>
    before :: (List.range p.groups).filterMap fun i => m.group? text (i + 1)) ++ [tail]

end Pattern

end BuildExpr
