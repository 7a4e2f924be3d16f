import BuildExpr.Proofs.Calendar.Figures
import BuildExpr.Proofs.Source.Closing
import BuildExpr.Proofs.Text.Pieces

/-!
# Time spans as texts

A text `[-][d.]hh:mm:ss[.fffffff]` stands for a signed number of ticks (`TimeSpan.read?`). The text
of a span is read as the ticks that the span shows (`TimeSpan.read?_text`), whatever its sign and
its parts are. These are the ticks of the span itself, cut toward zero, exactly if its nanoseconds
fit in 64 bits or exceed the greatest word by less than a tick; every other span shows as the
longest one (`DateFunctions.span_text_exact_iff`).
-/

namespace BuildExpr

namespace TimeSpan

open DateTime

/-! ## Reading -/

/-- Two digits of a number below a bound. -/
def clockPart? (bound : ℕ) (cs : List Char) : Option ℕ :=
  if cs.length = 2 then (Numeral.read? 10 cs).filter (· < bound) else none

/-- The hours in `[d.]hh`. -/
def hours? (cs : List Char) : Option ℕ :=
  match Chars.cut? '.' cs with
  | none => clockPart? 24 cs
  | some (days, hours) =>
    (Numeral.read? 10 days).bind fun d => (clockPart? 24 hours).map (d * 24 + ·)

/-- The ticks in `ss[.fffffff]`. -/
def secondTicks? (cs : List Char) : Option ℕ :=
  match Chars.cut? '.' cs with
  | none => (clockPart? 60 cs).map (· * 10000000)
  | some (seconds, fraction) =>
    if fraction.length = 7 then
      (clockPart? 60 seconds).bind fun s => (Numeral.read? 10 fraction).map (s * 10000000 + ·)
    else none

/-- The ticks in `[d.]hh:mm:ss[.fffffff]`. -/
def magnitude? (cs : List Char) : Option ℕ :=
  match Chars.splitOn ':' cs with
  | [front, minutes, back] =>
    (hours? front).bind fun h => (clockPart? 60 minutes).bind fun m =>
      (secondTicks? back).map ((h * 60 + m) * 600000000 + ·)
  | _ => none

/-- The ticks in `[-][d.]hh:mm:ss[.fffffff]`. -/
def read? (s : String) : Option ℤ :=
  match s.toList with
  | '-' :: cs => (magnitude? cs).map fun n : ℕ => -(n : ℤ)
  | cs => (magnitude? cs).map fun n : ℕ => (n : ℤ)

/-! ## Writing -/

variable {c : Char} {n bound : ℕ}

/-- `[d.]hh` for a number of hours. -/
def hoursText (n : ℕ) : List Char :=
  (if n / 24 = 0 then [] else Numeral.decimal (n / 24) ++ ['.']) ++ two (n % 24)

/-- `ss[.fffffff]` for a number of ticks. -/
def secondText (n : ℕ) : List Char :=
  two (n / 10000000) ++
    if n % 10000000 = 0 then [] else '.' :: Numeral.padded 7 (Numeral.decimal (n % 10000000))

/-- `[d.]hh:mm:ss[.fffffff]` for a number of ticks. -/
def magnitudeText (n : ℕ) : List Char :=
  hoursText (n / 36000000000) ++ ':' :: (two (n / 600000000 % 60) ++
    ':' :: secondText (n % 600000000))

theorem clockPart?_two (hn : n < bound) (hbound : bound ≤ 100) :
    clockPart? bound (two n) = some n := by
  rw [clockPart?, if_pos (length_two (by omega)), read?_two, Option.filter_some,
    if_pos (by simpa using hn)]

theorem hours?_hoursText (n : ℕ) : hours? (hoursText n) = some n := by
  have hpart := clockPart?_two (Nat.mod_lt n (by decide : 0 < 24)) (by decide)
  have hpoint : '.' ∉ two (n % 24) := not_mem_two rfl _
  rw [hoursText]
  split
  · rename_i hdays
    rw [List.nil_append, hours?, Chars.cut?_eq_none.2 hpoint]
    simp only [hpart, Option.some.injEq]
    omega
  · have hdays : Numeral.read? 10 (Numeral.decimal (n / 24)) = some (n / 24) :=
      Numeral.read?_text (by decide) (by decide) _
    have hcut := Chars.cut?_append_of_not_mem (Numeral.not_mem_of_read? hdays (c := '.') rfl)
      (two (n % 24))
    rw [List.append_assoc, List.singleton_append, hours?, hcut]
    simp only [hdays, hpart, Option.bind_some, Option.map_some, Option.some.injEq]
    omega

theorem secondTicks?_secondText (hn : n < 600000000) :
    secondTicks? (secondText n) = some n := by
  have hpart : clockPart? 60 (two (n / 10000000)) = some (n / 10000000) :=
    clockPart?_two (by omega) (by decide)
  have hpoint : '.' ∉ two (n / 10000000) := not_mem_two rfl _
  rw [secondText]
  split
  · rw [List.append_nil, secondTicks?, Chars.cut?_eq_none.2 hpoint]
    simp only [hpart, Option.map_some, Option.some.injEq]
    omega
  · have hlength : (Numeral.padded 7 (Numeral.decimal (n % 10000000))).length = 7 :=
      Numeral.length_padded (by decide) (Nat.mod_lt n (by decide))
    rw [secondTicks?, Chars.cut?_append_of_not_mem hpoint]
    simp only [hlength, if_true, hpart, Numeral.read?_padded, Option.bind_some, Option.map_some,
      Option.some.injEq]
    omega

theorem not_mem_hoursText (hc : Numeral.digit? 10 c = none) (hpoint : c ≠ '.') (n : ℕ) :
    c ∉ hoursText n := by
  have hdays : c ∉ Numeral.decimal (n / 24) :=
    Numeral.not_mem_of_read? (Numeral.read?_text (by decide) (by decide) _) hc
  have hhours := not_mem_two hc (n % 24)
  rw [hoursText]
  split <;> simp [hdays, hhours, hpoint]

theorem not_mem_secondText (hc : Numeral.digit? 10 c = none) (hpoint : c ≠ '.') (n : ℕ) :
    c ∉ secondText n := by
  have hseconds := not_mem_two hc (n / 10000000)
  have hfraction : c ∉ Numeral.padded 7 (Numeral.decimal (n % 10000000)) :=
    Numeral.not_mem_of_read? (Numeral.read?_padded 7 _) hc
  rw [secondText]
  split <;> simp [hseconds, hfraction, hpoint]

/-- The parts of a number of ticks make up the number again. -/
theorem magnitude?_magnitudeText (n : ℕ) : magnitude? (magnitudeText n) = some n := by
  have hminutes : clockPart? 60 (two (n / 600000000 % 60)) = some (n / 600000000 % 60) :=
    clockPart?_two (Nat.mod_lt _ (by decide)) (by decide)
  have hpieces : Chars.splitOn ':' (magnitudeText n) =
      [hoursText (n / 36000000000), two (n / 600000000 % 60),
        secondText (n % 600000000)] := by
    rw [magnitudeText, Chars.splitOn_append, Chars.splitOn_append,
      Chars.splitOn_of_not_mem (not_mem_hoursText rfl (by decide) _),
      Chars.splitOn_of_not_mem (not_mem_two rfl _),
      Chars.splitOn_of_not_mem (not_mem_secondText rfl (by decide) _)]
    rfl
  rw [magnitude?, hpieces]
  simp only [hours?_hoursText, hminutes, secondTicks?_secondText (Nat.mod_lt n (by decide)),
    Option.bind_some, Option.map_some, Option.some.injEq]
  omega

/-! ## The text of a span -/

variable {s : TimeSpan}

theorem toList_text (s : TimeSpan) :
    s.text.toList = Numeral.signChars (s.ticks < 0) ++ magnitudeText s.ticks.natAbs := by
  have hdays (n : ℕ) : n / 36000000000 / 24 = n / 10000000 / 86400 := by omega
  have hhours (n : ℕ) : n / 36000000000 % 24 = n / 10000000 / 3600 % 24 := by omega
  have hminutes (n : ℕ) : n / 600000000 % 60 = n / 10000000 / 60 % 60 := by omega
  have hseconds (n : ℕ) : n % 600000000 / 10000000 = n / 10000000 % 60 := by omega
  have hfraction (n : ℕ) : n % 600000000 % 10000000 = n % 10000000 := by omega
  rw [text, String.toList_ofList, Numeral.signChars_decide, magnitudeText, hoursText, secondText]
  simp only [two, hdays, hhours, hminutes, hseconds, hfraction, List.append_assoc,
    List.cons_append]

theorem not_mem_magnitudeText (hc : Numeral.digit? 10 c = none) (hpoint : c ≠ '.')
    (hcolon : c ≠ ':') (n : ℕ) : c ∉ magnitudeText n := by
  simp only [magnitudeText, List.mem_append, List.mem_cons, not_or]
  exact ⟨not_mem_hoursText hc hpoint _, hcolon, not_mem_two hc _, hcolon,
    not_mem_secondText hc hpoint _⟩

/-- The text of a span is read as the ticks that the span shows. -/
theorem read?_text (s : TimeSpan) : read? s.text = some s.ticks := by
  have hread := magnitude?_magnitudeText s.ticks.natAbs
  have hminus : '-' ∉ magnitudeText s.ticks.natAbs :=
    not_mem_magnitudeText rfl (by decide) (by decide) _
  have htext := toList_text s
  rw [Numeral.signChars_decide] at htext
  split at htext
  · rw [read?, htext]
    show (magnitude? (magnitudeText s.ticks.natAbs)).map (fun n : ℕ => -(n : ℤ)) = some s.ticks
    rw [hread, Option.map_some, Option.some.injEq]
    omega
  · rw [List.nil_append] at htext
    rw [read?, htext]
    split
    · rename_i hcons
      rw [hcons] at hminus
      exact absurd List.mem_cons_self hminus
    · rw [hread, Option.map_some, Option.some.injEq]
      omega

theorem ticks_eq (s : TimeSpan) :
    s.ticks = if -2 ^ 63 ≤ s.nanoseconds ∧ s.nanoseconds < 2 ^ 63 then s.nanoseconds.tdiv 100
      else 92233720368547758 := by
  have hfits : (Integer.least ≤ s.nanoseconds ∧ s.nanoseconds ≤ Integer.greatest) ↔
      -2 ^ 63 ≤ s.nanoseconds ∧ s.nanoseconds < 2 ^ 63 := by
    rw [Integer.least, Integer.greatest]
    omega
  simp only [ticks, hfits]
  split <;> rfl

/-- Division toward zero for a number of nanoseconds. -/
theorem tdiv_hundred (n : ℤ) : n.tdiv 100 = n / 100 + if 0 ≤ n ∨ 100 ∣ n then 0 else 1 :=
  Int.tdiv_eq_ediv

/-- The ticks that a span shows are its own exactly if its nanoseconds fit in 64 bits, or exceed the
greatest word by less than what is cut off. -/
theorem ticks_eq_iff (s : TimeSpan) :
    s.ticks = s.nanoseconds.tdiv 100 ↔ -2 ^ 63 ≤ s.nanoseconds ∧ s.nanoseconds < 2 ^ 63 + 92 := by
  have hdiv := tdiv_hundred s.nanoseconds
  rw [ticks_eq]
  split
  · omega
  · split at hdiv <;> omega

/-- All other spans show the ticks of the greatest word. -/
theorem ticks_of_not (h : ¬(-2 ^ 63 ≤ s.nanoseconds ∧ s.nanoseconds < 2 ^ 63 + 92)) :
    s.ticks = 92233720368547758 := by
  rw [ticks_eq, if_neg (by omega)]

theorem toInt_ticks (s : TimeSpan) : (Int64.ofInt s.ticks).toInt = s.ticks := by
  have hdiv := tdiv_hundred s.nanoseconds
  have hbounds : -2 ^ 63 ≤ s.ticks ∧ s.ticks < 2 ^ 63 := by
    rw [ticks_eq]
    split
    · split at hdiv <;> omega
    · decide
  exact Int64.toInt_ofInt_of_le hbounds.1 hbounds.2

end TimeSpan

namespace DateFunctions

open Arguments FunctionTable

theorem memberAnswers_spanTicks (s : TimeSpan) :
    MemberAnswers (.timeSpan s) "Ticks" [] (spanField TimeSpan.ticks [.timeSpan s]) :=
  memberAnswers_of_find (show Text.foldAscii "System.TimeSpan" = _ from rfl)
    (by rfl : _ = "ticks") (by rfl) rfl

theorem memberAnswers_spanText (s : TimeSpan) :
    MemberAnswers (.timeSpan s) "ToString" [] (.ok (.text (Value.timeSpan s).display)) := by
  have hfind : find? FunctionTable.members "system.timespan" "tostring" =
      some (.pure "system.timespan" "tostring" 0 0 fun args => .ok (.text (text args 0))) := by
    rfl
  have hanswers : MemberAnswers (.timeSpan s) "ToString" [] _ :=
    memberAnswers_of_find (show Text.foldAscii "System.TimeSpan" = _ from rfl)
      (by rfl : _ = "tostring") hfind rfl
  exact hanswers

/-- The text of a span, by itself and as the member `ToString`, is read as the ticks that the member
`Ticks` gives. They are the nanoseconds cut to ticks exactly if these fit in 64 bits or exceed the
greatest word by less than a tick, and the ticks of the greatest word otherwise. -/
theorem span_text_exact_iff (s : TimeSpan) :
    ∃ n : Int64, MemberAnswers (.timeSpan s) "Ticks" [] (.ok (.int n)) ∧
      MemberAnswers (.timeSpan s) "ToString" [] (.ok (.text (Value.timeSpan s).display)) ∧
      TimeSpan.read? (Value.timeSpan s).display = some n.toInt ∧
      (n.toInt = s.nanoseconds.tdiv 100 ↔
        -2 ^ 63 ≤ s.nanoseconds ∧ s.nanoseconds < 2 ^ 63 + 92) ∧
      (¬(-2 ^ 63 ≤ s.nanoseconds ∧ s.nanoseconds < 2 ^ 63 + 92) →
        n.toInt = 92233720368547758) := by
  refine ⟨Int64.ofInt s.ticks, memberAnswers_spanTicks s, memberAnswers_spanText s, ?_⟩
  rw [s.toInt_ticks]
  exact ⟨s.read?_text, s.ticks_eq_iff, TimeSpan.ticks_of_not⟩

theorem spanOf_eq {unit x : Float} {args : List Value} (hx : double args 0 = .ok x)
    (hnan : x.isNaN = false)
    (hlimit : ¬ millisecondLimit ≤ (Binary64.round (x * unit)).abs) :
    spanOf unit args =
      .ok (.ofMilliseconds (Binary64.toWord (Binary64.round (x * unit))).toInt) := by
  rw [spanOf, hx]
  show (if x.isNaN = true then Answer.refuse .spanNotANumber else
    if millisecondLimit ≤ (Binary64.round (x * unit)).abs then Answer.refuse .spanRange else
    return TimeSpan.ofMilliseconds (Binary64.toWord (Binary64.round (x * unit))).toInt) = _
  rw [hnan, if_neg (by decide), if_neg hlimit]
  rfl

/-- A span of minus two hundred thousand days is made, and it shows as a positive one. -/
theorem exists_span_text_other :
    Answers "System.TimeSpan" "FromDays" [.int (-200000)]
      (.ok (.timeSpan (.ofMilliseconds (-17280000000000)))) ∧
    (Value.timeSpan (.ofMilliseconds (-17280000000000))).display = "106751.23:47:16.8547758" ∧
    TimeSpan.read? "106751.23:47:16.8547758" = some 92233720368547758 ∧
    (TimeSpan.ofMilliseconds (-17280000000000)).nanoseconds.tdiv 100 = -172800000000000000 := by
  refine ⟨?_, by decide +kernel, by decide +kernel, by decide⟩
  have hword : (Binary64.toWord (Binary64.round (Binary64.ofInt (-200000) * dayUnit))).toInt =
      -17280000000000 := by
    decide +kernel
  have hspan : spanOf dayUnit [.int (-200000)] = .ok (.ofMilliseconds (-17280000000000)) :=
    hword ▸ spanOf_eq rfl (by decide +kernel) (by decide +kernel)
  have hvalue : fromUnits dayUnit [.int (-200000)] =
      .ok (.timeSpan (.ofMilliseconds (-17280000000000))) := by
    rw [fromUnits, hspan]
    rfl
  rw [← hvalue]
  exact answers_of_resolve (resolveStatic_of_find (by rfl : _ = "system.timespan")
    (by rfl : _ = "fromdays") rfl rfl)

end DateFunctions

end BuildExpr
