import BuildExpr.Proofs.Calendar.Ticks
import Mathlib.Data.List.GetD
import Mathlib.Tactic.IntervalCases

/-!
# The parts of dates

A date is made of three to seven integers, and its members give them back. The calendar takes two
thousand milliseconds for the last second of any minute, where a leap second may stand
(`DateTime.ofParts?_eq_some_iff`), so the milliseconds come back only if they are less than a
thousand.
-/

namespace BuildExpr

/-! ## Parts -/

theorem Date.ofParts?_eq_some_iff {year : ℤ} {month day : ℕ} {d : Date} :
    Date.ofParts? year month day = some d ↔ d.year = year ∧ d.month = month ∧ d.day = day := by
  rw [Date.ofParts?]
  constructor
  · intro h
    split at h
    · cases h
      exact ⟨rfl, rfl, rfl⟩
    · cases h
  · rintro ⟨rfl, rfl, rfl⟩
    exact dif_pos d.valid

namespace DateTime

variable {t : DateTime} {d : Date} {hour minute second nano : ℕ}

/-- A time of day is made from parts in range, and its parts are those it is made from. -/
theorem ofParts?_eq_some_iff : ofParts? d hour minute second nano = some t ↔
    t.date = d ∧ t.hour = hour ∧ t.minute = minute ∧ t.secondOfMinute = second ∧ t.nano = nano ∧
      (nano < nanosPerSecond ∨ second = 59) := by
  constructor
  · intro h
    rw [ofParts?] at h
    split at h
    · rename_i hparts
      rw [ofSecond?] at h
      split at h
      · cases h
        obtain ⟨hhour, hminute, hsecond, hleap⟩ := hparts
        refine ⟨rfl, ?_, ?_, ?_, rfl, hleap⟩ <;>
        · simp only [DateTime.hour, DateTime.minute, secondOfMinute]
          omega
      · cases h
    · cases h
  · rintro ⟨rfl, rfl, rfl, rfl, rfl, hleap⟩
    have hsecond := t.second_lt
    have hsum : t.hour * 3600 + t.minute * 60 + t.secondOfMinute = t.second := by
      simp only [DateTime.hour, DateTime.minute, secondOfMinute]
      omega
    rw [ofParts?, if_pos, hsum, ofSecond?, dif_pos ⟨hsecond, t.nano_lt⟩]
    refine ⟨?_, ?_, ?_, hleap⟩ <;>
    · simp only [DateTime.hour, DateTime.minute, secondOfMinute]
      omega

/-- Parts in range make a time of day. -/
theorem exists_ofParts? (d : Date) (hhour : hour < 24) (hminute : minute < 60)
    (hsecond : second < 60) (hnano : nano < nanosPerSecond ∨ second = 59)
    (hleap : nano < 2 * nanosPerSecond) : ∃ t, ofParts? d hour minute second nano = some t := by
  rw [ofParts?, if_pos ⟨hhour, hminute, hsecond, hnano⟩, ofSecond?, dif_pos ⟨by omega, hleap⟩]
  exact ⟨_, rfl⟩

end DateTime

namespace DateFunctions

open Arguments FunctionTable

/-- The integers that arguments are taken as, and zero for those that are not given. -/
structure GivesParts (args : List Value) (parts : ℕ → Int64) : Prop where
  given : ∀ i < args.length, integer32 args i = .ok (parts i)
  missing : ∀ i, args.length ≤ i → parts i = 0

/-- The parts name a day of the calendar and a time of day. The last second of a minute may have
two thousand milliseconds. -/
structure NamesTime (parts : ℕ → Int64) : Prop where
  date : ∃ d : Date, d.year = (parts 0).toInt ∧ d.month = (parts 1).toInt ∧ d.day = (parts 2).toInt
  hour : 0 ≤ (parts 3).toInt ∧ (parts 3).toInt < 24
  minute : 0 ≤ (parts 4).toInt ∧ (parts 4).toInt < 60
  second : 0 ≤ (parts 5).toInt ∧ (parts 5).toInt < 60
  millisecond : 0 ≤ (parts 6).toInt ∧
    ((parts 6).toInt < 1000 ∨ (parts 5).toInt = 59 ∧ (parts 6).toInt < 2000)

/-- The members that give the parts of a date back, each with the place of its part among the
arguments. -/
def partMembers : List (String × ℕ) :=
  [("Year", 0), ("Month", 1), ("Day", 2), ("Hour", 3), ("Minute", 4), ("Second", 5)]

variable {args : List Value} {parts : ℕ → Int64}

/-- Integers of 32 bits are taken as they are. -/
theorem givesParts_ints (ns : List Int64) (h : ns.all Integer.fits32 = true) :
    GivesParts (ns.map .int) fun i => ns.getD i 0 := by
  constructor
  · intro i hi
    rw [List.length_map] at hi
    have hvalue : value (ns.map .int) i = .int ns[i] := by
      rw [value, List.getD_eq_getElem _ _ (by simpa using hi), List.getElem_map]
    have hinteger : integer (ns.map .int) i = .ok ns[i] := by
      rw [integer, hvalue]
      rfl
    show (integer (ns.map .int) i >>= _) = _
    rw [hinteger]
    show (if Integer.fits32 ns[i] = true then _ else _) = _
    rw [if_pos (List.all_eq_true.1 h _ (List.getElem_mem hi)), List.getD_eq_getElem _ _ hi]
    rfl
  · intro i hi
    rw [List.length_map] at hi
    exact List.getD_eq_default _ _ hi

theorem GivesParts.mapM_eq (h : GivesParts args parts) :
    ((List.range args.length).mapM fun i => Int64.toInt <$> integer32 args i) =
      .ok ((List.range args.length).map fun i => (parts i).toInt) := by
  refine Except.mapM_eq_ok_map fun i hi => ?_
  rw [h.given i (List.mem_range.1 hi)]
  rfl

theorem GivesParts.getD_eq (h : GivesParts args parts) (i : ℕ) :
    ((List.range args.length).map fun i => (parts i).toInt).getD i 0 = (parts i).toInt := by
  by_cases hi : i < args.length
  · rw [List.getD_eq_getElem _ _ (by simpa using hi), List.getElem_map, List.getElem_range]
  · rw [List.getD_eq_default _ _ (by simpa using hi), h.missing i (by omega)]
    rfl

/-- The time that parts name. -/
def partsTime? (parts : ℕ → Int64) : Option DateTime :=
  (Date.ofParts? (parts 0).toInt (parts 1).toInt.toNat (parts 2).toInt.toNat).bind fun d =>
    DateTime.ofParts? d (parts 3).toInt.toNat (parts 4).toInt.toNat (parts 5).toInt.toNat
      ((parts 6).toInt.toNat * 1000000)

theorem GivesParts.any_tail_eq_false_iff (h : GivesParts args parts) :
    ((List.range args.length).map fun i => (parts i).toInt).tail.any (· < 0) = false ↔
      ∀ i, 1 ≤ i → 0 ≤ (parts i).toInt := by
  simp only [List.any_eq_false, decide_eq_true_eq, Int.not_lt, List.forall_mem_iff_getElem,
    List.length_tail, List.length_map, List.length_range, List.getElem_tail, List.getElem_map,
    List.getElem_range]
  constructor
  · intro hall i hi
    by_cases hgiven : i < args.length
    · have hpart := hall (i - 1) (by omega)
      rwa [Nat.sub_add_cancel hi] at hpart
    · rw [h.missing i (by omega)]
      decide
  · intro hall i _
    exact hall (i + 1) (by omega)

/-- Negative parts are refused, but for the year. -/
theorem GivesParts.new_eq_ok_iff (h : GivesParts args parts) {v : Value} : new args = .ok v ↔
    (∀ i, 1 ≤ i → 0 ≤ (parts i).toInt) ∧ ∃ t, partsTime? parts = some t ∧ v = .dateTime t := by
  -- The year stands at the head of the list and may be negative.
  rw [new, h.mapM_eq, ← h.any_tail_eq_false_iff]
  show (if _ then _ else _) = _ ↔ _
  simp only [h.getD_eq]
  split
  next hneg =>
    rw [hneg]
    exact iff_of_false (fun hrefuse => nomatch hrefuse) fun hnonneg => nomatch hnonneg.1
  next hnonneg =>
    rw [Bool.not_eq_true] at hnonneg
    show Except.map Value.dateTime (Answer.orRefuse _ (partsTime? parts)) = _ ↔ _
    cases partsTime? parts with
    | none =>
      exact iff_of_false (fun hrefuse => nomatch hrefuse) fun ⟨_, _, hsome, _⟩ => nomatch hsome
    | some t => simp [hnonneg, Answer.orRefuse, Except.map, eq_comm]

/-- A time has the parts that it is made from. -/
structure HasParts (t : DateTime) (parts : ℕ → Int64) : Prop where
  year : t.date.year = (parts 0).toInt
  month : t.date.month = (parts 1).toInt
  day : t.date.day = (parts 2).toInt
  hour : t.hour = (parts 3).toInt
  minute : t.minute = (parts 4).toInt
  second : t.secondOfMinute = (parts 5).toInt
  nano : t.nano = (parts 6).toInt * 1000000
  leap : (parts 6).toInt < 1000 ∨ (parts 5).toInt = 59

theorem partsTime?_eq_some_iff {t : DateTime} (hnonneg : ∀ i, 1 ≤ i → 0 ≤ (parts i).toInt) :
    partsTime? parts = some t ↔ HasParts t parts := by
  have hmonth := hnonneg 1 le_rfl
  have hday := hnonneg 2 (by decide)
  have hhour := hnonneg 3 (by decide)
  have hminute := hnonneg 4 (by decide)
  have hsecond := hnonneg 5 (by decide)
  have hmilli := hnonneg 6 (by decide)
  rw [partsTime?, Option.bind_eq_some_iff]
  simp only [Date.ofParts?_eq_some_iff, DateTime.ofParts?_eq_some_iff, nanosPerSecond]
  constructor
  · rintro ⟨d, ⟨hyear, hmonth', hday'⟩, rfl, hhour', hminute', hsecond', hnano, hleap⟩
    exact ⟨hyear, by omega, by omega, by omega, by omega, by omega, by omega, by omega⟩
  · rintro ⟨hyear, hmonth', hday', hhour', hminute', hsecond', hnano, hleap⟩
    exact ⟨t.date, ⟨hyear, by omega, by omega⟩, rfl, by omega, by omega, by omega, by omega,
      by omega⟩

theorem HasParts.nonneg {t : DateTime} (h : HasParts t parts) {i : ℕ} (hi : 1 ≤ i) (hlast : i < 7) :
    0 ≤ (parts i).toInt := by
  obtain ⟨-, hmonth, hday, hhour, hminute, hsecond, hnano, -⟩ := h
  interval_cases i <;> omega

/-- `new` makes the times that have the parts it is given. -/
theorem GivesParts.new_eq_ok_iff_hasParts (h : GivesParts args parts) (hhigh : args.length ≤ 7)
    {v : Value} : new args = .ok v ↔ ∃ t, HasParts t parts ∧ v = .dateTime t := by
  rw [h.new_eq_ok_iff]
  constructor
  · rintro ⟨hnonneg, t, ht, rfl⟩
    exact ⟨t, (partsTime?_eq_some_iff hnonneg).1 ht, rfl⟩
  · rintro ⟨t, ht, rfl⟩
    -- What stands behind the last part is never given, and so is zero.
    have hnonneg (i : ℕ) (hi : 1 ≤ i) : 0 ≤ (parts i).toInt := by
      obtain hlast | hbehind := Nat.lt_or_ge i 7
      · exact ht.nonneg hi hlast
      · rw [h.missing i (by omega)]
        decide
    exact ⟨hnonneg, t, (partsTime?_eq_some_iff hnonneg).2 ht, rfl⟩

theorem namesTime_iff : NamesTime parts ↔ ∃ t, HasParts t parts := by
  constructor
  · rintro ⟨⟨d, hyear, hmonth, hday⟩, hhour, hminute, hsecond, hmilli⟩
    have hnanos : nanosPerSecond = 1000000000 := rfl
    have hhourLt : (parts 3).toInt.toNat < 24 := by omega
    have hminuteLt : (parts 4).toInt.toNat < 60 := by omega
    have hsecondLt : (parts 5).toInt.toNat < 60 := by omega
    have hnanoLt : (parts 6).toInt.toNat * 1000000 < 2 * nanosPerSecond := by omega
    obtain ⟨t, ht⟩ := DateTime.exists_ofParts? d hhourLt hminuteLt hsecondLt (by omega) hnanoLt
    obtain ⟨rfl, hhour', hminute', hsecond', hnano, hleap⟩ := DateTime.ofParts?_eq_some_iff.1 ht
    exact ⟨t, hyear, hmonth, hday, by omega, by omega, by omega, by omega, by omega⟩
  · rintro ⟨t, hyear, hmonth, hday, hhour, hminute, hsecond, hnano, hleap⟩
    have hsecondLt := t.second_lt
    have hnanoLt := t.nano_lt
    simp only [DateTime.hour, DateTime.minute, DateTime.secondOfMinute, nanosPerSecond] at *
    exact ⟨⟨t.date, hyear, hmonth, hday⟩, by omega, by omega, by omega, by omega⟩

theorem HasParts.memberAnswers {t : DateTime} (h : HasParts t parts) :
    ∀ p ∈ partMembers, MemberAnswers (.dateTime t) p.1 [] (.ok (.int (parts p.2))) := by
  simp only [partMembers, List.forall_mem_cons, List.not_mem_nil, false_imp_iff, implies_true,
    and_true]
  exact ⟨memberAnswers_field (by rfl : _ = "year") (by rfl) h.year,
    memberAnswers_field (by rfl : _ = "month") (by rfl) h.month,
    memberAnswers_field (by rfl : _ = "day") (by rfl) h.day,
    memberAnswers_field (by rfl : _ = "hour") (by rfl) h.hour,
    memberAnswers_field (by rfl : _ = "minute") (by rfl) h.minute,
    memberAnswers_field (by rfl : _ = "second") (by rfl) h.second⟩

/-- The milliseconds of a date are those of the second that they are in. -/
theorem HasParts.memberAnswers_millisecond_iff {t : DateTime} (h : HasParts t parts) :
    MemberAnswers (.dateTime t) "Millisecond" [] (.ok (.int (parts 6))) ↔
      (parts 6).toInt < 1000 := by
  have hnano := h.nano
  have hnanoLt := t.nano_lt
  rw [nanosPerSecond] at hnanoLt
  have hmilli : (t.millisecond : ℤ) = (parts 6).toInt % 1000 := by
    rw [DateTime.millisecond, nanosPerSecond]
    omega
  have hword : (t.millisecond : ℤ) = (Int64.ofInt t.millisecond).toInt :=
    (Int64.toInt_ofInt_of_le (by omega) (by omega)).symm
  constructor
  · intro hanswer
    have hsame := hanswer.unique
      (memberAnswers_field (by rfl : _ = "millisecond") (by rfl) hword)
    rw [Except.ok.injEq, Value.int.injEq] at hsame
    rw [hsame] at hword
    omega
  · intro hlt
    exact memberAnswers_field (by rfl : _ = "millisecond") (by rfl) (by omega)

/-- Which dates are made, and which of their parts come back.

From three to seven integers a date is made exactly if they name a day and a time of day. Its year, month, day, hour, minute and second are those integers, or
zero for those that are not given, and so are its milliseconds exactly if they are less than a
thousand. In a leap second they are counted from the start of that second. -/
theorem constructed_parts_iff (hlow : 3 ≤ args.length) (hhigh : args.length ≤ 7)
    (hparts : GivesParts args parts) :
    ((∃ v, Answers "System.DateTime" "new" args (.ok v)) ↔ NamesTime parts) ∧
    ∀ v, Answers "System.DateTime" "new" args (.ok v) →
      (∀ p ∈ partMembers, MemberAnswers v p.1 [] (.ok (.int (parts p.2)))) ∧
      (MemberAnswers v "Millisecond" [] (.ok (.int (parts 6))) ↔ (parts 6).toInt < 1000) := by
  have hnew : Answers "System.DateTime" "new" args (new args) :=
    answers_new args (decide_eq_true ⟨hlow, hhigh⟩)
  have hanswer (v : Value) : Answers "System.DateTime" "new" args (.ok v) ↔
      ∃ t, HasParts t parts ∧ v = .dateTime t := by
    rw [← hparts.new_eq_ok_iff_hasParts hhigh]
    exact ⟨fun h => h.unique hnew, fun h => h ▸ hnew⟩
  constructor
  · rw [namesTime_iff]
    constructor
    · rintro ⟨v, hv⟩
      obtain ⟨t, ht, -⟩ := (hanswer v).1 hv
      exact ⟨t, ht⟩
    · rintro ⟨t, ht⟩
      exact ⟨_, (hanswer _).2 ⟨t, ht, rfl⟩⟩
  · intro v hv
    obtain ⟨t, ht, rfl⟩ := (hanswer v).1 hv
    exact ⟨ht.memberAnswers, ht.memberAnswers_millisecond_iff⟩

/-- A leap day is made, and its time of day is midnight. -/
theorem constructed_parts_iff_of_day :
    ∃ v, Answers "System.DateTime" "new" [.int 2000, .int 2, .int 29] (.ok v) ∧
      MemberAnswers v "Day" [] (.ok (.int 29)) ∧ MemberAnswers v "Hour" [] (.ok (.int 0)) ∧
      MemberAnswers v "Millisecond" [] (.ok (.int 0)) := by
  obtain ⟨hnew, hmembers⟩ := constructed_parts_iff (by decide) (by decide)
    (givesParts_ints [2000, 2, 29] rfl)
  have hnames : NamesTime fun i => [2000, 2, 29].getD i 0 :=
    ⟨⟨⟨2000, 2, 29, by decide⟩, rfl, rfl, rfl⟩, by decide, by decide, by decide, by decide⟩
  obtain ⟨v, hv⟩ := hnew.2 hnames
  exact ⟨v, hv, (hmembers v hv).1 ("Day", 2) (by decide), (hmembers v hv).1 ("Hour", 3) (by decide),
    (hmembers v hv).2.2 (by decide)⟩

/-- A second and a half in a leap second are half a second. -/
theorem exists_milliseconds_other :
    ∃ v, Answers "System.DateTime" "new"
        [.int 2000, .int 1, .int 1, .int 0, .int 0, .int 59, .int 1500] (.ok v) ∧
      MemberAnswers v "Millisecond" [] (.ok (.int 500)) :=
  ⟨.dateTime ⟨⟨2000, 1, 1, by decide⟩, 59, 1500000000, by decide, by decide⟩, answers_new _ rfl,
    memberAnswers_field (by rfl : _ = "millisecond") (by rfl) rfl⟩

end DateFunctions

end BuildExpr
