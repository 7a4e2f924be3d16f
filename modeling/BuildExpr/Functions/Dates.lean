import BuildExpr.Calendar.Pattern
import BuildExpr.Functions.Arguments

/-!
# Functions on dates and time spans

A span is made from a number of units, rounded to milliseconds. A date moves by spans, and the
difference of two dates is a span.
-/

namespace BuildExpr

namespace DateFunctions

open Arguments

/-- `new(year, month, day[, hour[, minute[, second[, millisecond]]]])`. -/
def new (args : List Value) : Answer Value := do
  let parts ← (List.range args.length).mapM fun i => Int64.toInt <$> integer32 args i
  let part (i : Nat) : Int := parts.getD i 0
  if parts.tail.any (· < 0) then Answer.refuse .dateParts
  else
    let time? := do
      let date ← Date.ofParts? (part 0) (part 1).toNat (part 2).toNat
      DateTime.ofParts? date (part 3).toNat (part 4).toNat (part 5).toNat
        ((part 6).toNat * 1000000)
    return .dateTime (← Answer.orRefuse .dateParts time?)

/-- `Parse(text)`. -/
def parse (args : List Value) : Answer Value :=
  Value.dateTime <$> Answer.orRefuse (.dateText (text args 0)) (DateTime.parse? (text args 0))

/-- The greatest number of milliseconds in a span lies below this. -/
def millisecondLimit : Float := 9.2e15

/-- A number of units of so many milliseconds as a span. -/
def spanOf (unit : Float) (args : List Value) : Answer TimeSpan := do
  let x ← double args 0
  if x.isNaN then Answer.refuse .spanNotANumber
  else
    let milliseconds := Binary64.round (x * unit)
    if millisecondLimit ≤ milliseconds.abs then Answer.refuse .spanRange
    else return .ofMilliseconds (Binary64.toWord milliseconds).toInt

/-- A function that makes a span. -/
def fromUnits (unit : Float) (args : List Value) : Answer Value :=
  Value.timeSpan <$> spanOf unit args

/-- A function that moves a date by a number of units. -/
def add (unit : Float) (args : List Value) : Answer Value := do
  let t ← date args 0
  let s ← spanOf unit args.tail
  return .dateTime (← Answer.orRefuse .dateRange (t.add? s))

/-- `CompareTo(other)`. -/
def compareTo (args : List Value) : Answer Value := do
  return .ofOrdering ((← date args 0).compare (← date args 1))

/-- `Subtract(date)` or `Subtract(span)`. -/
def subtract (args : List Value) : Answer Value := do
  let t ← date args 0
  match value args 1 with
  | .timeSpan s => return .dateTime (← Answer.orRefuse .dateRange (t.sub? s))
  | _ => return .timeSpan (t.diff (← date args 1))

/-- `ToString([pattern])`. -/
def toText (args : List Value) : Answer Value := do
  let t ← date args 0
  return .text (← Answer.of (t.format (text args 1)))

/-- A part of a date. -/
def field (f : DateTime → Int) (args : List Value) : Answer Value := do
  return .ofInt (f (← date args 0))

/-- The start of the day of a date. -/
def startOfDay (args : List Value) : Answer Value := do
  return .dateTime (.midnight (← date args 0).date)

/-- A part of a span. -/
def spanField (f : TimeSpan → Int) (args : List Value) : Answer Value := do
  return .ofInt (f (← span args 0))

/-- A span in units. -/
def total (unit : Float) (args : List Value) : Answer Value := do
  return .double ((← span args 0).total unit)

/-- The milliseconds of a day. -/
def dayUnit : Float := 86400000

/-- The milliseconds of an hour. -/
def hourUnit : Float := 3600000

/-- The milliseconds of a minute. -/
def minuteUnit : Float := 60000

/-- The milliseconds of a second. -/
def secondUnit : Float := 1000

/-- The static functions of the types of dates and spans. -/
def statics : List Function :=
  let now := fun (c : Context) (_ : List Value) => Except.ok (Value.dateTime c.world.now)
  [ .pure "system.datetime" "new" 3 7 new,
    .reading "system.datetime" "now" 0 0 now,
    .pure "system.datetime" "parse" 1 1 parse,
    .reading "system.datetime" "today" 0 0 fun c _ =>
      .ok (.dateTime (.midnight c.world.now.date)),
    .reading "system.datetime" "utcnow" 0 0 now,
    .pure "system.timespan" "fromdays" 1 1 (fromUnits dayUnit),
    .pure "system.timespan" "fromhours" 1 1 (fromUnits hourUnit),
    .pure "system.timespan" "frommilliseconds" 1 1 (fromUnits 1),
    .pure "system.timespan" "fromminutes" 1 1 (fromUnits minuteUnit),
    .pure "system.timespan" "fromseconds" 1 1 (fromUnits secondUnit) ]

/-- The members of a date. -/
def dateMembers : List Function :=
  let type := "system.datetime"
  [ .pure type "adddays" 1 1 (add dayUnit),
    .pure type "addhours" 1 1 (add hourUnit),
    .pure type "addminutes" 1 1 (add minuteUnit),
    .pure type "addseconds" 1 1 (add secondUnit),
    .pure type "compareto" 1 1 compareTo,
    .pure type "date" 0 0 startOfDay,
    .pure type "day" 0 0 (field fun t => t.date.day),
    .pure type "dayofyear" 0 0 (field fun t => t.date.dayOfYear),
    .pure type "hour" 0 0 (field fun t => t.hour),
    .pure type "millisecond" 0 0 (field fun t => t.millisecond),
    .pure type "minute" 0 0 (field fun t => t.minute),
    .pure type "month" 0 0 (field fun t => t.date.month),
    .pure type "second" 0 0 (field fun t => t.secondOfMinute),
    .pure type "subtract" 1 1 subtract,
    .pure type "ticks" 0 0 (field fun t => t.ticks.toInt),
    .pure type "tostring" 0 1 toText,
    .pure type "year" 0 0 (field fun t => t.date.year) ]

/-- The members of a span. -/
def spanMembers : List Function :=
  let type := "system.timespan"
  [ .pure type "days" 0 0 (spanField TimeSpan.dayPart),
    .pure type "hours" 0 0 (spanField TimeSpan.hourPart),
    .pure type "milliseconds" 0 0 (spanField TimeSpan.millisecondPart),
    .pure type "minutes" 0 0 (spanField TimeSpan.minutePart),
    .pure type "seconds" 0 0 (spanField TimeSpan.secondPart),
    .pure type "ticks" 0 0 (spanField TimeSpan.ticks),
    .pure type "tostring" 0 0 fun args => .ok (.text (text args 0)),
    .pure type "totaldays" 0 0 (total dayUnit),
    .pure type "totalhours" 0 0 (total hourUnit),
    .pure type "totalmilliseconds" 0 0 (total 1),
    .pure type "totalminutes" 0 0 (total minuteUnit),
    .pure type "totalseconds" 0 0 (total secondUnit) ]

/-- The members of dates and spans. -/
def members : List Function := dateMembers ++ spanMembers

end DateFunctions

end BuildExpr
