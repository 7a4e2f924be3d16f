import BuildExpr.Expression.Tree
import BuildExpr.Options
import BuildExpr.Source.Rest

/-!
# Cutting a text at its references

`chunks` reads a text from left to right and cuts it into literal runs and the references that
are requested. The inside of a reference is not looked at here, except that a metadata
reference is recognised as a whole: anything else after `%(` is plain text.
-/

namespace BuildExpr

/-- A part of a text that is cut at its references. -/
inductive Chunk
  /-- Text that is copied as it is. -/
  | literal (span : Span)
  /-- A property reference with this inside. -/
  | property (span : Span) (body : Rest)
  /-- An item list with this inside. -/
  | items (span : Span) (body : Rest)
  /-- A metadata reference. -/
  | metadata (ref : MetadataRef)
  /-- The inside of an item list that is copied as text: the references in it are evaluated,
  those to metadata excepted, since they belong to its transforms. -/
  | copied (body : Rest)
  /-- The rest of the text from a reference on whose parenthesis is not closed. -/
  | unclosed (rest : Span)
  deriving DecidableEq, Inhabited

namespace MetadataRef

/-- Reads a metadata reference at the front of a text: `%(`, a name, perhaps a point and a
second name, and `)`, with blanks between the parts. -/
def read? (r : Rest) : Option (MetadataRef × Rest) := do
  guard (r.chars.take 2 == ['%', '('])
  let (first, afterFirst) ← (r.drop 2).skipBlanks.name? true
  let afterFirst := afterFirst.skipBlanks
  let (itemType, name, last) ←
    if afterFirst.peek? == some '.' then do
      let (second, afterSecond) ← afterFirst.next.skipBlanks.name? true
      pure (some first, second, afterSecond.skipBlanks)
    else pure (none, first, afterFirst)
  guard (last.peek? == some ')')
  return (⟨r.upTo last.next, itemType, name⟩, last.next)

end MetadataRef

namespace Chunk

/-- What a text begins with. -/
inductive Front
  /-- A character of plain text. -/
  | plain
  /-- A reference that takes this many characters. -/
  | reference (chunk : Chunk) (length : Nat)
  /-- An item list that is copied, with this inside. -/
  | copied (body : Rest)
  /-- A reference that does not end. -/
  | unclosed
  deriving DecidableEq, Inhabited

/-- The inside of a parenthesised reference at the front of a text. -/
def body? (r : Rest) : Option Rest := (r.next.group? '(' ')').map Prod.fst

/-- Looks for a requested reference at the front of a text. -/
def front (options : Options) (r : Rest) : Front :=
  match r.chars with
  | c :: '(' :: _ =>
    if c == '$' && options.properties then
      match body? r with
      | some body =>
        let length := body.chars.length + 3
        .reference (.property (r.upTo (r.drop length)) body) length
      | none => .unclosed
    else if c == '@' && options.items then
      match body? r with
      | some body =>
        let length := body.chars.length + 3
        .reference (.items (r.upTo (r.drop length)) body) length
      | none => .unclosed
    else if c == '@' && options.metadata then
      match body? r with
      | some body => .copied body
      | none => .plain
    else if c == '%' && options.metadata then
      match MetadataRef.read? r with
      | some (ref, after) => .reference (.metadata ref) (r.chars.length - after.chars.length)
      | none => .plain
    else .plain
  | _ => .plain

/-- The literal run that starts at `start` and was read last character first. -/
def flush (start : Nat) : List Char → List Chunk
  | [] => []
  | run => [.literal ⟨start, String.ofList run.reverse⟩]

/-- The chunks of a text, when `skip` characters at its front belong to a reference that was
already read and `run` holds the literal run before them, which starts at `start`. -/
def chunksFrom (options : Options) (start : Nat) (run : List Char) (skip pos : Nat) :
    List Char → List Chunk
  | [] => flush start run
  | c :: cs =>
    let after := pos + c.utf8Size
    match skip with
    | skip + 1 => chunksFrom options after run skip after cs
    | 0 =>
      match front options ⟨pos, c :: cs⟩ with
      | .plain => chunksFrom options start (c :: run) 0 after cs
      | .reference chunk length =>
        flush start run ++ chunk :: chunksFrom options after [] (length - 1) after cs
      | .copied body =>
        flush start ('(' :: c :: run) ++
          .copied body :: chunksFrom options after [] (body.chars.length + 1) after cs
      | .unclosed => flush start run ++ [.unclosed ⟨pos, String.ofList (c :: cs)⟩]

end Chunk

/-- The literal runs and references of a text in order. -/
def Rest.chunks (options : Options) (r : Rest) : List Chunk :=
  Chunk.chunksFrom options r.pos [] 0 r.pos r.chars

end BuildExpr
