import BuildExpr.Number.Shortest

/-!
# Time spans

A signed number of nanoseconds. The parts are cut toward zero, so that all of them have the
sign of the span; the text counts in ticks of 100 nanoseconds.
-/

namespace BuildExpr

/-- A length of time. -/
structure TimeSpan where
  nanoseconds : Int
  deriving DecidableEq

namespace TimeSpan

/-- A number of milliseconds. -/
def ofMilliseconds (n : Int) : TimeSpan := ⟨n * 1000000⟩

/-- Whole seconds. -/
def seconds (s : TimeSpan) : Int := s.nanoseconds.tdiv 1000000000

/-- Whole milliseconds. -/
def milliseconds (s : TimeSpan) : Int := s.nanoseconds.tdiv 1000000

/-- Whole ticks. A span whose nanoseconds do not fit in 64 bits shows as the longest one. -/
def ticks (s : TimeSpan) : Int :=
  let n :=
    if Integer.least ≤ s.nanoseconds ∧ s.nanoseconds ≤ Integer.greatest then s.nanoseconds
    else Integer.greatest
  n.tdiv 100

/-- The part of the days. -/
def dayPart (s : TimeSpan) : Int := s.seconds.tdiv 86400

/-- The part of the hours, below 24. -/
def hourPart (s : TimeSpan) : Int := (s.seconds.tdiv 3600).tmod 24

/-- The part of the minutes, below 60. -/
def minutePart (s : TimeSpan) : Int := (s.seconds.tdiv 60).tmod 60

/-- The part of the seconds, below 60. -/
def secondPart (s : TimeSpan) : Int := s.seconds.tmod 60

/-- The part of the milliseconds, below 1000. -/
def millisecondPart (s : TimeSpan) : Int := s.milliseconds.tmod 1000

/-- The span in units of a number of milliseconds. It is counted in microseconds, or in
milliseconds when those do not fit in 64 bits. -/
def total (s : TimeSpan) (unit : Float) : Float :=
  let microseconds := s.nanoseconds.tdiv 1000
  let milliseconds :=
    match Integer.fit? microseconds with
    | some n => Binary64.ofInt n.toInt / 1000
    | none => Binary64.ofInt s.milliseconds
  milliseconds / unit

/-- The text `[-][d.]hh:mm:ss[.fffffff]`. -/
def text (s : TimeSpan) : String :=
  let ticks := s.ticks.natAbs
  let seconds := ticks / 10000000
  let fraction := ticks % 10000000
  let days := seconds / 86400
  let two (n : Nat) : List Char := Numeral.padded 2 (Numeral.decimal n)
  String.ofList <|
    (if s.ticks < 0 then ['-'] else []) ++
      (if days = 0 then [] else Numeral.decimal days ++ ['.']) ++
      two (seconds / 3600 % 24) ++ ':' :: two (seconds / 60 % 60) ++ ':' :: two (seconds % 60) ++
      (if fraction = 0 then [] else '.' :: Numeral.padded 7 (Numeral.decimal fraction))

end TimeSpan

end BuildExpr
