import BuildExpr.Calendar.DateTime
import BuildExpr.Text.Blank

/-!
# Reading dates

A date is read by trying layouts in turn. A layout is a list of items: the parts of a date in
digits, characters that stand for themselves, and blanks that may be missing. Before digits
blanks are skipped, and leading zeros may be left out. In front of all layouts comes the strict
form `yyyy-MM-ddThh:mm:ss` with an offset from UTC, in which every part has all its digits.
-/

namespace BuildExpr

namespace DateTime

/-- What a date is read into. -/
structure Fields where
  year : Int := 0
  month : Nat := 0
  day : Nat := 0
  hour : Nat := 0
  minute : Nat := 0
  /-- Second 60 is a leap second. -/
  second : Nat := 0
  nano : Nat := 0

/-- The time with given parts, if they name one. -/
def Fields.toDateTime? (f : Fields) : Option DateTime :=
  (Date.ofParts? f.year f.month f.day).bind fun date =>
    if f.second = 60 then ofParts? date f.hour f.minute 59 (nanosPerSecond + f.nano)
    else if f.nano < nanosPerSecond then ofParts? date f.hour f.minute f.second f.nano
    else none

/-- Digits from `least` to `most` of them, as many as there are, and the text after them. -/
def digits? (least most : Nat) (cs : List Char) : Option (Nat × List Char) :=
  let digits := (cs.take most).takeWhile Numeral.isDigit
  if digits.length < least then none
  else
    match Numeral.read? 10 digits with
    | some n => some (n, cs.drop digits.length)
    | none => none

/-- A year: four digits at most, or a sign and any number of them. -/
def signedYear? (cs : List Char) : Option (Int × List Char) :=
  match cs with
  | '-' :: rest => (digits? 1 rest.length rest).map fun (n, rest) => (-(n : Int), rest)
  | '+' :: rest => (digits? 1 rest.length rest).map fun (n, rest) => ((n : Int), rest)
  | _ => (digits? 1 4 cs).map fun (n, rest) => ((n : Int), rest)

/-- The nanoseconds written as a fraction, of which nine digits count. -/
def fraction? (cs : List Char) : Option (Nat × List Char) :=
  let digits := (cs.take 9).takeWhile Numeral.isDigit
  (Numeral.read? 10 digits).map fun n =>
    (n * Nat.pow 10 (9 - digits.length), cs.dropWhile Numeral.isDigit)

/-- The nanoseconds after a point, or zero when there is none. -/
def pointFraction? (cs : List Char) : Option (Nat × List Char) :=
  match cs with
  | '.' :: rest => fraction? rest
  | _ => some (0, cs)

/-- An item of a layout. -/
inductive LayoutItem
  | year
  | month
  | day
  | hour
  | minute
  | second
  | fraction
  /-- A character that stands for itself. -/
  | mark (c : Char)
  /-- Any number of blanks, even none. -/
  | blanks
  deriving DecidableEq

/-- Reads one item. -/
def LayoutItem.read? (item : LayoutItem) (f : Fields) (cs : List Char) :
    Option (Fields × List Char) :=
  let figure := digits? 1 2 (Chars.trimStart cs)
  match item with
  | year =>
    (signedYear? (Chars.trimStart cs)).map fun (n, rest) => ({ f with year := n }, rest)
  | month => figure.map fun (n, rest) => ({ f with month := n }, rest)
  | day => figure.map fun (n, rest) => ({ f with day := n }, rest)
  | hour => figure.map fun (n, rest) => ({ f with hour := n }, rest)
  | minute => figure.map fun (n, rest) => ({ f with minute := n }, rest)
  | second => figure.map fun (n, rest) => ({ f with second := n }, rest)
  | fraction => (pointFraction? cs).map fun (n, rest) => ({ f with nano := n }, rest)
  | mark c =>
    match cs with
    | d :: rest => if d == c then some (f, rest) else none
    | [] => none
  | blanks => some (f, Chars.trimStart cs)

/-- Reads a whole text as a layout says. -/
def readLayout? : List LayoutItem → Fields → List Char → Option Fields
  | [], f, cs => if cs.isEmpty then some f else none
  | item :: items, f, cs => (item.read? f cs).bind fun (f, rest) => readLayout? items f rest

/-- The layouts with and without a time of day, in the order in which they are tried. -/
def layouts : List (List LayoutItem) :=
  let dashed := [.year, .mark '-', .month, .mark '-', .day]
  let american := [.month, .mark '/', .day, .mark '/', .year]
  let slashed := [.year, .mark '/', .month, .mark '/', .day]
  let minutes := [.hour, .mark ':', .minute]
  let seconds := minutes ++ [.mark ':', .second]
  [dashed ++ .mark 'T' :: seconds ++ [.fraction],
    dashed ++ .blanks :: seconds ++ [.fraction],
    dashed ++ .mark 'T' :: minutes,
    american ++ .blanks :: seconds,
    american ++ .blanks :: minutes,
    slashed ++ .blanks :: seconds,
    dashed, american, slashed]

/-- Reads a fixed number of digits followed by one of some characters. -/
def figure? (count : Nat) (ends : Char → Bool) (cs : List Char) : Option (Nat × List Char) :=
  (digits? count count cs).bind fun (n, rest) =>
    match rest with
    | c :: rest => if ends c then some (n, rest) else none
    | [] => none

/-- The offset from UTC in seconds: `Z`, or a sign with hours and minutes. -/
def offset? (cs : List Char) : Option Int :=
  match cs with
  | ['Z'] | ['z'] => some 0
  | sign :: rest =>
    if sign == '+' || sign == '-' || sign == '\u2212' then
      (figure? 2 (· == ':') rest).bind fun (hours, rest) =>
        (digits? 2 2 rest).bind fun (minutes, rest) =>
          if rest.isEmpty && minutes < 60 && hours < 24 then
            let seconds : Int := hours * 3600 + minutes * 60
            some (if sign == '+' then seconds else -seconds)
          else none
    else none
  | [] => none

/-- Reads the strict form with an offset; the answer is in UTC. -/
def readStrict? (cs : List Char) : Option DateTime := do
  let (year, cs) ← figure? 4 (· == '-') cs
  let (month, cs) ← figure? 2 (· == '-') cs
  let (day, cs) ← figure? 2 (fun c => c == 't' || c == 'T' || c == ' ') cs
  let (hour, cs) ← figure? 2 (· == ':') cs
  let (minute, cs) ← figure? 2 (· == ':') cs
  let (second, cs) ← digits? 2 2 cs
  let (nano, cs) ← pointFraction? cs
  let offset ← offset? cs
  let t ← Fields.toDateTime? { year, month, day, hour, minute, second, nano }
  t.addSeconds? (-offset)

/-- Reads a date between blanks. -/
def parse? (s : String) : Option DateTime :=
  let cs := Chars.trim s.toList
  match readStrict? cs with
  | some t => some t
  | none =>
    layouts.findSome? fun items => (readLayout? items {} cs).bind Fields.toDateTime?

end DateTime

end BuildExpr
