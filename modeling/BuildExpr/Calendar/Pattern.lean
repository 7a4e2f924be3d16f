import BuildExpr.Calendar.DateTime
import BuildExpr.Fault
import BuildExpr.Text.Blank

/-!
# Writing dates by a pattern

A pattern is a run of one letter for each part, text between quotes, characters after a
backslash, and all else as it is. Some single letters stand for whole patterns.
-/

namespace BuildExpr

namespace DateTime

/-- The names of the months. -/
def monthNames : List String :=
  ["January", "February", "March", "April", "May", "June", "July", "August", "September",
    "October", "November", "December"]

/-- The names of the days of the week, from Monday on. -/
def dayNames : List String :=
  ["Monday", "Tuesday", "Wednesday", "Thursday", "Friday", "Saturday", "Sunday"]

/-- The pattern that a single letter stands for, and any other pattern as it is. -/
def fullPattern (pattern : String) : Except Fault String :=
  match pattern with
  | "" | "G" => .ok "MM/dd/yyyy HH:mm:ss"
  | "g" => .ok "MM/dd/yyyy HH:mm"
  | "d" => .ok "MM/dd/yyyy"
  | "D" => .ok "dddd, dd MMMM yyyy"
  | "t" => .ok "HH:mm"
  | "T" => .ok "HH:mm:ss"
  | "s" => .ok "yyyy'-'MM'-'dd'T'HH':'mm':'ss"
  | "o" | "O" => .ok "yyyy'-'MM'-'dd'T'HH':'mm':'ss'.'fffffff"
  | "u" => .ok "yyyy'-'MM'-'dd HH':'mm':'ss'Z'"
  | _ =>
    match pattern.toList with
    | [c] => if c.isAlpha then .error .formatText else .ok pattern
    | _ => .ok pattern

/-- A piece of a pattern. -/
inductive PatternPiece
  /-- Text that stands for itself. -/
  | text (cs : List Char)
  /-- A letter and how often it stands there. -/
  | run (letter : Char) (length : Nat)
  deriving DecidableEq

/-- Takes a pattern apart. -/
def patternPieces (cs : List Char) : Except Fault (List PatternPiece) :=
  match cs with
  | [] => .ok []
  | '\\' :: [] => .error .formatText
  | '\\' :: c :: rest => (patternPieces rest).map (.text [c] :: ·)
  | c :: rest =>
    if c == '\'' || c == '"' then
      match _h : rest.dropWhile (· != c) with
      | [] => .error (.unmatchedQuote c)
      | _ :: after => (patternPieces after).map (.text (rest.takeWhile (· != c)) :: ·)
    else
      let length := (rest.takeWhile (· == c)).length + 1
      if (c == 'f' || c == 'F') && 7 < length then .error .formatText
      else (patternPieces (rest.dropWhile (· == c))).map (.run c length :: ·)
  termination_by cs.length
  decreasing_by
    · simp only [List.length_cons]
      omega
    · have := (List.dropWhile_sublist (l := rest) (· != c)).length_le
      rw [_h] at this
      simp at this ⊢
      omega
    · have := (List.dropWhile_sublist (l := rest) (· == c)).length_le
      simp
      omega

/-- An integer with zeros in front up to a width, in which a sign counts. -/
def paddedInt (width : Nat) (n : Int) : List Char :=
  let digits := Numeral.decimal n.natAbs
  if n < 0 then '-' :: Numeral.padded (width - 1) digits else Numeral.padded width digits

/-- A number plainly, or with two digits when its letter stands there more than once. -/
def oneOrTwo (length n : Nat) : List Char :=
  if length = 1 then Numeral.decimal n else two n

/-- A part as a number, a short name or a full name. -/
def numberOrName (length n : Nat) (name : String) : List Char :=
  if length ≤ 2 then oneOrTwo length n
  else if length = 3 then name.toList.take 3
  else name.toList

/-- A run of a letter filled in. -/
def runText (t : DateTime) (letter : Char) (length : Nat) : List Char :=
  match letter with
  | 'y' =>
    if length ≤ 2 then paddedInt length (t.date.year.tmod 100) else paddedInt length t.date.year
  | 'M' => numberOrName length t.date.month (monthNames.getD (t.date.month - 1) "")
  | 'd' => numberOrName length t.date.day (dayNames.getD t.date.weekday "")
  | 'H' => oneOrTwo length t.hour
  | 'h' => oneOrTwo length (if t.hour % 12 = 0 then 12 else t.hour % 12)
  | 'm' => oneOrTwo length t.minute
  | 's' => oneOrTwo length t.secondOfMinute
  | 'f' => (Numeral.padded 7 (Numeral.decimal t.fraction)).take length
  | 'F' =>
    Chars.dropEndWhile (· == '0') ((Numeral.padded 7 (Numeral.decimal t.fraction)).take length)
  | 't' => (if t.hour < 12 then ['A', 'M'] else ['P', 'M']).take length
  | c => List.replicate length c

/-- A piece of a pattern filled in. -/
def PatternPiece.fill (t : DateTime) : PatternPiece → List Char
  | text cs => cs
  | run letter length => t.runText letter length

/-- A time written by a pattern. -/
def format (t : DateTime) (pattern : String) : Except Fault String := do
  let pieces ← patternPieces (← fullPattern pattern).toList
  return String.ofList (pieces.flatMap (·.fill t))

end DateTime

end BuildExpr
