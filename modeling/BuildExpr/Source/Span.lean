import BuildExpr.Diagnostic
import BuildExpr.Text.Blank
import BuildExpr.Text.Quoted

/-!
# Spans

A span is a piece of a source text together with the position of its first byte. Positions are
counted in bytes of UTF-8; since a span holds its characters, its ends never lie inside one.
-/

namespace BuildExpr

namespace Chars

/-- The characters that take exactly the first `n` bytes; nothing when byte `n` lies inside a
character or beyond the end. -/
def takeBytes? : Nat → List Char → Option (List Char)
  | 0, _ => some []
  | _ + 1, [] => none
  | n + 1, c :: cs =>
    if c.utf8Size ≤ n + 1 then (takeBytes? (n + 1 - c.utf8Size) cs).map (c :: ·) else none

/-- What follows the first `n` bytes; nothing when byte `n` lies inside a character or beyond
the end. -/
def dropBytes? : Nat → List Char → Option (List Char)
  | 0, cs => some cs
  | _ + 1, [] => none
  | n + 1, c :: cs => if c.utf8Size ≤ n + 1 then dropBytes? (n + 1 - c.utf8Size) cs else none

end Chars

/-- A piece of a source text and the position of its first byte. -/
structure Span where
  start : Nat
  text : String
  deriving DecidableEq, Inhabited

namespace Span

/-- The position after the last byte. -/
def stop (s : Span) : Nat := s.start + Chars.byteLength s.text.toList

/-- The bytes `start` to `stop` of a text, when both ends lie between characters. -/
def slice? (text : String) (start stop : Nat) : Option Span := do
  let cs ← Chars.dropBytes? start text.toList
  let piece ← Chars.takeBytes? (stop - start) cs
  return ⟨start, String.ofList piece⟩

/-- The span of a whole text. -/
def ofText (text : String) : Span := ⟨0, text⟩

/-- Whether a span covers nothing. -/
def isEmpty (s : Span) : Bool := s.text.isEmpty

/-- The span without the blanks at its ends. -/
def trimmed (s : Span) : Span :=
  ⟨s.start + Chars.byteLength (s.text.toList.takeWhile Chars.isBlank), Text.trim s.text⟩

/-- The report that the text of a span is not well formed. -/
def malformed (s : Span) (detail : String) : Diagnostic := Diagnostic.malformed s.text detail

/-- The most bytes of text that a rendering for developers shows. -/
def shownBytes : Nat := 32

/-- A rendering for developers: both positions and the escaped text, cut after `shownBytes`
bytes. There is none when the cut would fall inside a character. -/
def show? (s : Span) : Option String :=
  let text := Chars.shown s.text.toList
  let place := toString s.start ++ ":" ++ toString s.stop ++ ", \""
  if Chars.byteLength text ≤ shownBytes then
    some (place ++ String.ofList text ++ "\"")
  else
    (Chars.takeBytes? shownBytes text).map fun cut => place ++ String.ofList cut ++ "...\""

end Span

end BuildExpr
