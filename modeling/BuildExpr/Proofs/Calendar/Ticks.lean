import BuildExpr.Proofs.Number.Arithmetic

/-!
# Dates in ticks

The moment of a time is its distance from the start of year 1 in nanoseconds (`DateTime.moment`),
and the order of times is that of their moments. Ticks are computed from the whole seconds of that
distance, cut toward zero, and the fraction of the second, which counts upward from the second
before (`DateTime.tickCount_eq`). After the start of year 1 the two fit together. Before it a
fraction makes a second too many, so that a time in the last second of a year and the second after
it may change places (`DateTime.tickCount_lt_iff`).

The years that have dates reach further than 64 bits of ticks. Which times are counted within them
is said by `DateTime.ticksFit_iff_moment`.
-/

namespace BuildExpr

namespace Date

variable {d : Date} {y z : ℤ}

/-! ## Days of years -/

/-- The length of a year in days. -/
def yearLength (leap : Bool) : ℕ := if leap then 366 else 365

theorem daysBeforeYear_succ (y : ℤ) :
    daysBeforeYear (y + 1) = daysBeforeYear y + yearLength (isLeapYear y) := by
  have hleap : isLeapYear y = true ↔ y % 4 = 0 ∧ (y % 100 ≠ 0 ∨ y % 400 = 0) := by
    simp [isLeapYear]
  simp only [daysBeforeYear, yearLength, hleap]
  split <;> omega

theorem daysBeforeYear_mono (h : y ≤ z) : daysBeforeYear y ≤ daysBeforeYear z := by
  simp only [daysBeforeYear]
  omega

/-- The days before the end of a month lie in its year. -/
theorem daysBeforeMonth_add_le : ∀ leap : Bool, ∀ month < 13, month ≠ 0 →
    daysBeforeMonth leap month + (monthLengths leap).getD (month - 1) 0 ≤ yearLength leap := by
  decide

theorem isValid_iff {year : ℤ} {month day : ℕ} :
    isValid year month day = true ↔ (firstYear ≤ year ∧ year ≤ lastYear) ∧
      1 ≤ day ∧ day ≤ daysInMonth year month := by
  simp [isValid, and_assoc]

theorem daysInMonth_of_not {year : ℤ} {month : ℕ} (h : ¬(1 ≤ month ∧ month < 13)) :
    daysInMonth year month = 0 := by
  rw [daysInMonth]
  split
  · rfl
  · have hlength : (monthLengths (isLeapYear year)).length ≤ month - 1 := by
      show 12 ≤ month - 1
      omega
    rw [List.getD_eq_getElem?_getD, List.getElem?_eq_none hlength, Option.getD_none]

theorem month_bounds (d : Date) : 1 ≤ d.month ∧ d.month < 13 := by
  obtain ⟨-, hfirst, hlast⟩ := isValid_iff.1 d.valid
  by_contra h
  rw [daysInMonth_of_not h] at hlast
  omega

theorem dayOfYear_bounds (d : Date) :
    1 ≤ d.dayOfYear ∧ d.dayOfYear ≤ yearLength (isLeapYear d.year) := by
  obtain ⟨-, hfirst, hlast⟩ := isValid_iff.1 d.valid
  obtain ⟨hone, hmonth⟩ := d.month_bounds
  have hle := daysBeforeMonth_add_le (isLeapYear d.year) d.month hmonth (by omega)
  rw [daysInMonth, if_neg (by omega)] at hlast
  rw [dayOfYear]
  omega

/-- The days of a year are those from its first one up to the first one of the next year. -/
theorem dayNumber_bounds (d : Date) :
    daysBeforeYear d.year ≤ d.dayNumber ∧ d.dayNumber < daysBeforeYear (d.year + 1) := by
  obtain ⟨hfirst, hlast⟩ := d.dayOfYear_bounds
  rw [daysBeforeYear_succ, dayNumber]
  omega

theorem le_dayNumber (h : y ≤ d.year) : daysBeforeYear y ≤ d.dayNumber :=
  (daysBeforeYear_mono h).trans d.dayNumber_bounds.1

theorem dayNumber_lt (h : d.year < y) : d.dayNumber < daysBeforeYear y :=
  d.dayNumber_bounds.2.trans_le (daysBeforeYear_mono h)

end Date

namespace DateTime

variable {t a b : DateTime}

/-! ## Moments -/

/-- The nanoseconds from the start of year 1, where a leap second counts as the second after it. -/
def moment (t : DateTime) : ℤ :=
  (t.date.dayNumber * 86400 + t.second) * nanosPerSecond + t.nano

theorem diff_epoch (t : DateTime) : t.diff epoch = ⟨t.moment⟩ := by
  have hday : epoch.date.dayNumber = 0 := by decide
  have hsecond : epoch.second = 0 := rfl
  have hnano : epoch.nano = 0 := rfl
  have hafter : ¬(0 < t.second ∧ nanosPerSecond ≤ 0) := fun h => by cases h.2
  have hbefore : ¬(t.second < 0 ∧ nanosPerSecond ≤ t.nano) := fun h => by cases h.1
  simp only [diff, moment, hday, hsecond, hnano, if_neg hafter, if_neg hbefore, TimeSpan.mk.injEq]
  push_cast
  ring

/-- Without leap seconds the span between two moments is their distance. -/
theorem nanoseconds_diff (ha : a.nano < nanosPerSecond) (hb : b.nano < nanosPerSecond) :
    (b.diff a).nanoseconds = b.moment - a.moment := by
  simp only [diff, moment, if_neg (show ¬(a.second < b.second ∧ nanosPerSecond ≤ a.nano) by omega),
    if_neg (show ¬(b.second < a.second ∧ nanosPerSecond ≤ b.nano) by omega)]
  rw [nanosPerSecond]
  ring

theorem moment_eq (t : DateTime) :
    t.moment = (t.date.dayNumber * 86400 + t.second) * 1000000000 + t.nano := rfl

/-- Year 1 begins at the moment 0. -/
theorem moment_neg_iff (h : t.nano < nanosPerSecond) : t.moment < 0 ↔ t.date.year ≤ 0 := by
  have hsecond := t.second_lt
  rw [nanosPerSecond] at h
  rw [moment_eq]
  have hone : Date.daysBeforeYear 1 = 0 := rfl
  by_cases hyear : t.date.year ≤ 0
  · have hday := Date.dayNumber_lt (show t.date.year < 1 by omega)
    rw [hone] at hday
    omega
  · have hday := Date.le_dayNumber (show 1 ≤ t.date.year by omega)
    rw [hone] at hday
    omega

theorem dvd_moment_iff (h : t.nano < nanosPerSecond) : 10 ^ 9 ∣ t.moment ↔ t.nano = 0 := by
  rw [nanosPerSecond] at h
  rw [moment_eq]
  omega

/-! ## Ticks -/

/-- The number that the ticks of a time are computed to be: the whole seconds from the start of year
1, cut toward zero, in ticks and the fraction of the second. -/
def tickCount (t : DateTime) : ℤ := (t.diff epoch).seconds * 10000000 + t.fraction

/-- No step on the way to the ticks of a time leaves the range of 64 bits. -/
structure TicksFit (t : DateTime) : Prop where
  seconds : Integer.Fits ((t.diff epoch).seconds * 10000000)
  count : Integer.Fits t.tickCount

theorem seconds_diff_epoch (t : DateTime) : (t.diff epoch).seconds =
    t.moment / 10 ^ 9 + if 0 ≤ t.moment ∨ 10 ^ 9 ∣ t.moment then 0 else 1 := by
  rw [diff_epoch]
  exact Int.tdiv_eq_ediv

theorem fraction_eq (t : DateTime) : (t.fraction : ℤ) = t.moment % 10 ^ 9 / 100 := by
  rw [moment_eq, fraction, nanosPerSecond]
  omega

/-- The seconds are cut toward zero and the fraction counts upward from the second before, so in
front of year 1 a fraction makes a second too many. -/
theorem tickCount_eq (t : DateTime) : t.tickCount =
    t.moment / 100 + if 0 ≤ t.moment ∨ 10 ^ 9 ∣ t.moment then 0 else 10 ^ 7 := by
  rw [tickCount, seconds_diff_epoch, fraction_eq]
  split <;> omega

theorem ticksFit_iff_moment (t : DateTime) :
    t.TicksFit ↔ -922337203686 * 10 ^ 9 < t.moment ∧ t.moment < 2 ^ 63 * 100 := by
  have hseconds := t.seconds_diff_epoch
  have hcount := t.tickCount_eq
  constructor
  · rintro ⟨⟨hlow, -⟩, ⟨-, hhigh⟩⟩
    split at hseconds <;> omega
  · rintro ⟨hlow, hhigh⟩
    refine ⟨⟨?_, ?_⟩, ⟨?_, ?_⟩⟩ <;> split at hseconds <;> omega

theorem ticksFit_of_year (hfirst : -29226 ≤ t.date.year) (hlast : t.date.year ≤ 29227) :
    t.TicksFit := by
  have hsecond := t.second_lt
  have hnano := t.nano_lt
  have hlow := Date.le_dayNumber hfirst
  have hhigh := Date.dayNumber_lt (show t.date.year < 29228 by omega)
  have hdaysLow : Date.daysBeforeYear (-29226) = -10674943 := by decide
  have hdaysHigh : Date.daysBeforeYear 29228 = 10674942 := by decide
  rw [nanosPerSecond] at hnano
  rw [ticksFit_iff_moment, moment_eq]
  omega

theorem toInt_ticks (h : t.TicksFit) : t.ticks.toInt = t.tickCount :=
  Int64.toInt_ofInt_of_le h.count.1 h.count.2

/-- What is at least a tick later has more ticks, unless a second too many is counted for the
earlier one alone and it is not more than a second later. -/
theorem tickCount_lt_iff (hapart : a.moment + 100 ≤ b.moment) :
    a.tickCount < b.tickCount ↔ ¬((a.moment < 0 ∧ ¬ 10 ^ 9 ∣ a.moment) ∧
      (10 ^ 9 ∣ b.moment ∨ 0 ≤ b.moment) ∧ b.moment / 100 ≤ a.moment / 100 + 10 ^ 7) := by
  -- If the earlier time alone has a second too many, only a longer gap keeps the two in order.
  rw [tickCount_eq, tickCount_eq]
  split <;> split <;> omega

end DateTime

namespace DateFunctions

open Arguments FunctionTable DateTime

variable {t : DateTime} {f : DateTime → ℤ} {member name : String} {n : Int64}

theorem field_eq (h : f t = n.toInt) : field f [.dateTime t] = .ok (.int n) := by
  show Except.ok (Value.ofInt (f t)) = _
  rw [h, Value.ofInt, Int64.ofInt_toInt]

/-- A part of a date is what its member gives. -/
theorem memberAnswers_field (hname : memberKey member = name)
    (hfind : find? members "system.datetime" name =
      some (.pure "system.datetime" name 0 0 (field f)))
    (h : f t = n.toInt) : MemberAnswers (.dateTime t) member [] (.ok (.int n)) := by
  rw [← field_eq h]
  exact memberAnswers_of_find (show Text.foldAscii "System.DateTime" = _ from rfl) hname hfind rfl

theorem memberAnswers_ticks (t : DateTime) :
    MemberAnswers (.dateTime t) "Ticks" [] (.ok (.int t.ticks)) :=
  memberAnswers_field (f := fun t => t.ticks.toInt) (by rfl : _ = "ticks") (by rfl) rfl

theorem answers_parse (s : String) :
    Answers "System.DateTime" "Parse" [.text s] (parse [.text s]) :=
  answers_of_resolve (resolveStatic_of_find (by rfl : _ = "system.datetime") (by rfl : _ = "parse")
    (by rfl) rfl)

theorem answers_new (args : List Value)
    (hcount : (Function.pure "system.datetime" "new" 3 7 new).accepts args.length = true) :
    Answers "System.DateTime" "new" args (new args) :=
  answers_of_resolve (resolveStatic_of_find (by rfl : _ = "system.datetime") (by rfl : _ = "new")
    (by rfl) hcount)

/-- Whether the ticks of times are in range and in order.

They are computed within 64 bits exactly for the times less than `2 ^ 63` ticks after the start of
year 1 and less than `922337203686` seconds before it, and so for all times of the years from -29226
to 29227. Of two such times without leap seconds and at least a tick apart, the later one has more
ticks, but for one case: the earlier one lies before year 1 and has a fraction of a second, the
later one has none or lies in year 1 or behind, and their ticks are a second apart at most. -/
theorem ticks_in_order_iff (a b : DateTime) :
    (a.TicksFit ↔ -922337203686 * 10 ^ 9 < (a.diff epoch).nanoseconds ∧
      (a.diff epoch).nanoseconds < 2 ^ 63 * 100) ∧
    (-29226 ≤ a.date.year → a.date.year ≤ 29227 → a.TicksFit) ∧
    (a.nano < nanosPerSecond → b.nano < nanosPerSecond → a.TicksFit → b.TicksFit →
      100 ≤ (b.diff a).nanoseconds →
      ∃ m n : Int64, MemberAnswers (.dateTime a) "Ticks" [] (.ok (.int m)) ∧
        MemberAnswers (.dateTime b) "Ticks" [] (.ok (.int n)) ∧
        (m < n ↔ ¬((a.date.year ≤ 0 ∧ a.nano ≠ 0) ∧ (b.nano = 0 ∨ 1 ≤ b.date.year) ∧
          (b.diff a).nanoseconds + a.nano % 100 ≤ 10 ^ 9 + b.nano % 100))) := by
  refine ⟨?_, ticksFit_of_year, fun ha hb hafit hbfit hapart => ?_⟩
  · rw [diff_epoch]
    exact ticksFit_iff_moment a
  · have hdiff := nanoseconds_diff ha hb
    have hbefore : 0 ≤ b.moment ↔ 1 ≤ b.date.year := by
      have := moment_neg_iff hb
      omega
    have hsecond : b.moment / 100 ≤ a.moment / 100 + 10 ^ 7 ↔
        (b.diff a).nanoseconds + a.nano % 100 ≤ 10 ^ 9 + b.nano % 100 := by
      rw [hdiff, moment_eq, moment_eq]
      omega
    have horder := tickCount_lt_iff (a := a) (b := b) (by omega)
    rw [moment_neg_iff ha, dvd_moment_iff ha, dvd_moment_iff hb, hbefore, hsecond] at horder
    refine ⟨a.ticks, b.ticks, memberAnswers_ticks a, memberAnswers_ticks b, ?_⟩
    rw [Int64.lt_iff_toInt_lt, toInt_ticks hafit, toInt_ticks hbfit]
    exact horder

/-- One and a half seconds on the two sides of the start of year 1 are enough. -/
theorem ticks_in_order_iff_of_apart :
    ∃ m n : Int64, MemberAnswers (.dateTime ⟨⟨0, 12, 31, by decide⟩, 86398, 500000000, by decide,
        by decide⟩) "Ticks" [] (.ok (.int m)) ∧
      MemberAnswers (.dateTime epoch) "Ticks" [] (.ok (.int n)) ∧ m < n := by
  obtain ⟨-, hfit, hordered⟩ := ticks_in_order_iff
    ⟨⟨0, 12, 31, by decide⟩, 86398, 500000000, by decide, by decide⟩ epoch
  obtain ⟨m, n, hm, hn, horder⟩ := hordered (by decide) (by decide)
    (hfit (by decide) (by decide)) (ticksFit_of_year (by decide) (by decide)) (by decide)
  exact ⟨m, n, hm, hn, horder.2 (by decide)⟩

/-- Half a second before the start of year 1 there are more ticks than at it, and the ticks of the
year 40000 are out of range. -/
theorem exists_ticks_not_in_order :
    (∃ a b : DateTime, Answers "System.DateTime" "Parse" [.text "0000-12-31T23:59:59.5"]
        (.ok (.dateTime a)) ∧
      Answers "System.DateTime" "new" [.int 1, .int 1, .int 1] (.ok (.dateTime b)) ∧
      a.nano < nanosPerSecond ∧ b.nano < nanosPerSecond ∧ 100 ≤ (b.diff a).nanoseconds ∧
      MemberAnswers (.dateTime a) "Ticks" [] (.ok (.int 5000000)) ∧
      MemberAnswers (.dateTime b) "Ticks" [] (.ok (.int 0))) ∧
    ∃ t : DateTime, Answers "System.DateTime" "new" [.int 40000, .int 1, .int 1]
      (.ok (.dateTime t)) ∧ ¬t.TicksFit := by
  let a : DateTime := ⟨⟨0, 12, 31, by decide⟩, 86399, 500000000, by decide, by decide⟩
  have ha : a.ticks = 5000000 := by decide
  have hb : epoch.ticks = 0 := by decide
  have hfar : new [.int 40000, .int 1, .int 1] =
      .ok (.dateTime (midnight ⟨40000, 1, 1, by decide⟩)) := by rfl
  refine ⟨⟨a, epoch, answers_parse _, answers_new _ rfl, by decide, by decide, by decide,
    ha ▸ memberAnswers_ticks a, hb ▸ memberAnswers_ticks epoch⟩, _, hfar ▸ answers_new _ rfl, ?_⟩
  rw [ticksFit_iff_moment]
  decide

end DateFunctions

end BuildExpr
