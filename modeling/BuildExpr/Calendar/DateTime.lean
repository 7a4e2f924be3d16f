import BuildExpr.Calendar.Date
import BuildExpr.Calendar.TimeSpan

/-!
# Dates with a time of day

A time of day is a second and the nanoseconds after it. In a leap second the nanoseconds go on
beyond a thousand million, so that the second before it seems two seconds long.
-/

namespace BuildExpr

/-- A thousand million. -/
def nanosPerSecond : Nat := 1000000000

/-- A date with a time of day. -/
structure DateTime where
  date : Date
  /-- The second of the day. -/
  second : Nat
  /-- The nanoseconds after the second. -/
  nano : Nat
  second_lt : second < 86400
  nano_lt : nano < 2 * nanosPerSecond
  deriving DecidableEq

namespace DateTime

/-- A date with a second of the day and nanoseconds, when they are in range. -/
def ofSecond? (date : Date) (second nano : Nat) : Option DateTime :=
  if h : second < 86400 ∧ nano < 2 * nanosPerSecond then
    some ⟨date, second, nano, h.1, h.2⟩
  else none

/-- The start of a day. -/
def midnight (date : Date) : DateTime :=
  ⟨date, 0, 0, by decide, by decide⟩

/-- A date with the parts of a time of day. Only second 59 can be a leap second. -/
def ofParts? (date : Date) (hour minute second nano : Nat) : Option DateTime :=
  if hour < 24 ∧ minute < 60 ∧ second < 60 ∧ (nano < nanosPerSecond ∨ second = 59) then
    ofSecond? date (hour * 3600 + minute * 60 + second) nano
  else none

/-- The hour of the day. -/
def hour (t : DateTime) : Nat := t.second / 3600

/-- The minute of the hour. -/
def minute (t : DateTime) : Nat := t.second / 60 % 60

/-- The second of the minute, which is 59 in a leap second. -/
def secondOfMinute (t : DateTime) : Nat := t.second % 60

/-- The second of the minute, which is 60 in a leap second. -/
def shownSecond (t : DateTime) : Nat := t.secondOfMinute + t.nano / nanosPerSecond

/-- The fraction of the second in ticks of 100 nanoseconds. -/
def fraction (t : DateTime) : Nat := t.nano % nanosPerSecond / 100

/-- The fraction of the second in milliseconds. -/
def millisecond (t : DateTime) : Nat := t.nano % nanosPerSecond / 1000000

/-- The order in time. -/
def compare (a b : DateTime) : Ordering :=
  (Ord.compare a.date.dayNumber b.date.dayNumber).then <|
    (Ord.compare a.second b.second).then (Ord.compare a.nano b.nano)

/-- The time a number of seconds later, with the same nanoseconds. -/
def addSeconds? (t : DateTime) (seconds : Int) : Option DateTime :=
  let second := (t.second : Int) + seconds
  (t.date.addDays? (second / 86400)).bind fun date =>
    ofSecond? date (second % 86400).toNat t.nano

/-- The time a number of seconds after the start of 1970. -/
def ofUnixSeconds? (seconds : Int) (nano : Nat) : Option DateTime :=
  (ofSecond? ⟨1970, 1, 1, by decide⟩ 0 nano).bind fun t => t.addSeconds? seconds

/-- The second and nanoseconds from which to count on when a span of seconds and nanoseconds
of one sign leads out of a leap second, and nothing when it stays in it. -/
def leaveLeap? (second nano : Nat) (seconds nanos : Int) : Option (Int × Int) :=
  if nano < nanosPerSecond then some (second, nano)
  else if 0 < seconds ∨ (0 < nanos ∧ 2 * nanosPerSecond ≤ nano + nanos) then
    some (second, nano - nanosPerSecond)
  else if seconds < 0 then some (second + 1, nano - nanosPerSecond)
  else none

/-- The time a span later, unless it lies outside the years that have dates. -/
def add? (t : DateTime) (span : TimeSpan) : Option DateTime :=
  let seconds := span.nanoseconds.tdiv nanosPerSecond
  let nanos := span.nanoseconds.tmod nanosPerSecond
  match leaveLeap? t.second t.nano seconds nanos with
  | none => ofSecond? t.date t.second (t.nano + nanos).toNat
  | some (second, nano) =>
    let nano := nano + nanos
    let second := second + seconds + nano / nanosPerSecond
    (t.date.addDays? (second / 86400)).bind fun date =>
      ofSecond? date (second % 86400).toNat (nano % nanosPerSecond).toNat

/-- The time a span earlier. -/
def sub? (t : DateTime) (span : TimeSpan) : Option DateTime := t.add? ⟨-span.nanoseconds⟩

/-- The span from `b` to `a`. A leap second counts when it lies between the two. -/
def diff (a b : DateTime) : TimeSpan :=
  let days := a.date.dayNumber - b.date.dayNumber
  let leap : Int :=
    if b.second < a.second ∧ nanosPerSecond ≤ b.nano then 1
    else if a.second < b.second ∧ nanosPerSecond ≤ a.nano then -1
    else 0
  let seconds := days * 86400 + ((a.second : Int) - b.second) + leap
  ⟨seconds * nanosPerSecond + ((a.nano : Int) - b.nano)⟩

/-- The start of year 1. -/
def epoch : DateTime := midnight ⟨1, 1, 1, by decide⟩

/-- The number of ticks since the start of year 1, in 64 bits. -/
def ticks (t : DateTime) : Int64 :=
  Int64.ofInt ((t.diff epoch).seconds * 10000000 + t.fraction)

/-- Two digits. -/
def two (n : Nat) : List Char := Numeral.padded 2 (Numeral.decimal n)

/-- The time of day `hh:mm:ss`. -/
def clockText (t : DateTime) : List Char :=
  two t.hour ++ ':' :: two t.minute ++ ':' :: two t.shownSecond

/-- The text `MM/dd/yyyy hh:mm:ss`. -/
def text (t : DateTime) : String :=
  String.ofList <|
    two t.date.month ++ '/' :: two t.date.day ++ '/' :: Date.yearText t.date.year ++
      ' ' :: t.clockText

/-- The text `yyyy-MM-dd hh:mm:ss.fffffff` that metadata about files has. -/
def stampText (t : DateTime) : String :=
  String.ofList <|
    Date.yearText t.date.year ++ '-' :: two t.date.month ++ '-' :: two t.date.day ++
      ' ' :: t.clockText ++ '.' :: Numeral.padded 7 (Numeral.decimal (t.nano / 100))

end DateTime

end BuildExpr
