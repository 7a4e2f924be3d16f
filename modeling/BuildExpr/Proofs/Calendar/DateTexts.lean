import BuildExpr.Proofs.Calendar.Figures
import BuildExpr.Proofs.Calendar.Parts

/-!
# Dates written and read back

A layout is a list of items, and an item says both what is written for a part of a time
(`LayoutItem.written`) and how it is read. Each item reads what is written for it
(`DateTime.read?_written`), and so does a layout (`DateTime.readLayout?_written_append`).

The forms `s` and `o` are read by the first of all layouts. The display begins with the month, which
the layouts in front of its own take for the year; they fail at the slash behind it
(`DateTime.readLayout?_dashed`). The strict form reads none of the three, for want of an offset or
of the four digits of a year.
-/

namespace BuildExpr

theorem Date.month_lt (d : Date) : d.month < 100 := d.month_bounds.2.trans (by decide)

theorem Date.day_lt (d : Date) : d.day < 100 := by
  have hlengths : ∀ leap : Bool, ∀ i < 12, (monthLengths leap).getD i 0 < 100 := by decide
  obtain ⟨-, -, hlast⟩ := Date.isValid_iff.1 d.valid
  obtain ⟨hfirst, hmonth⟩ := d.month_bounds
  rw [daysInMonth, if_neg (by omega)] at hlast
  exact hlast.trans_lt (hlengths _ _ (by omega))

namespace DateTime

variable {t : DateTime} {f : Fields} {cs rest : List Char} {n : ℕ} {item : LayoutItem}
  {items more : List LayoutItem}

/-! ## The items of a layout -/

/-- The year is written with four digits and no sign. -/
structure FourDigits (t : DateTime) : Prop where
  nonneg : 0 ≤ t.date.year
  le : t.date.year ≤ 9999

namespace LayoutItem

/-- What stands at an item in the text of a time. -/
def written (t : DateTime) : LayoutItem → List Char
  | year => Numeral.padded 4 (Numeral.decimal t.date.year.natAbs)
  | month => two t.date.month
  | day => two t.date.day
  | hour => two t.hour
  | minute => two t.minute
  | second => two t.secondOfMinute
  | fraction => '.' :: Numeral.padded 7 (Numeral.decimal t.fraction)
  | mark c => [c]
  | blanks => [' ']

/-- The fields with the part of a time that an item stands for. -/
def kept (t : DateTime) (f : Fields) : LayoutItem → Fields
  | year => { f with year := t.date.year }
  | month => { f with month := t.date.month }
  | day => { f with day := t.date.day }
  | hour => { f with hour := t.hour }
  | minute => { f with minute := t.minute }
  | second => { f with second := t.secondOfMinute }
  | fraction => { f with nano := t.fraction * 100 }
  | mark _ => f
  | blanks => f

/-- What is read for an item that is written in front of a text ends where the text begins. -/
def EndsBefore (rest : List Char) : LayoutItem → Prop
  | fraction => rest = []
  | blanks => Chars.trimStart rest = rest
  | _ => True

end LayoutItem

theorem figure_two (hn : n < 100) (rest : List Char) :
    digits? 1 2 (Chars.trimStart (two n ++ rest)) = some (n, rest) := by
  rw [two, trimStart_padded_append]
  exact digits?_append (by decide) (by decide) le_rfl hn (.inl rfl)

theorem signedYear?_padded {width : ℕ} (hwidth : 0 < width) (hmost : width ≤ 4)
    (hn : n < 10 ^ width) (hend : width = 4 ∨ DigitsEnd rest) :
    signedYear? (Numeral.padded width (Numeral.decimal n) ++ rest) = some ((n : ℤ), rest) := by
  have hread : digits? 1 4 (Numeral.padded width (Numeral.decimal n) ++ rest) = some (n, rest) :=
    digits?_append hwidth hwidth hmost hn hend
  have hdigits := Numeral.isDigit_of_mem_padded_decimal width n
  obtain ⟨c, cs, hcs⟩ := List.exists_cons_of_ne_nil
    (Numeral.ne_nil_of_read? (Numeral.read?_padded width n))
  rw [hcs] at hread hdigits ⊢
  have hc := hdigits c List.mem_cons_self
  rw [List.cons_append] at hread ⊢
  -- A digit in front is no sign.
  unfold signedYear?
  split
  next heq =>
    rw [(List.cons.inj heq).1] at hc
    cases hc
  next heq =>
    rw [(List.cons.inj heq).1] at hc
    cases hc
  next => rw [hread, Option.map_some]

theorem fraction_lt (t : DateTime) : t.fraction < 10 ^ 7 := by
  rw [fraction, nanosPerSecond]
  omega

theorem pointFraction?_written (t : DateTime) :
    pointFraction? (LayoutItem.fraction.written t) = some (t.fraction * 100, []) := by
  have hlength := Numeral.length_padded (by decide) t.fraction_lt
  have hdigits := Numeral.isDigit_of_mem_padded_decimal 7 t.fraction
  have hread := Numeral.read?_padded 7 t.fraction
  rw [LayoutItem.written, pointFraction?, fraction?, List.take_of_length_le (by omega),
    List.takeWhile_eq_self_iff.2 hdigits, hread, hlength, List.dropWhile_eq_nil_iff.2 hdigits]
  rfl

theorem FourDigits.natAbs_lt (ht : t.FourDigits) : t.date.year.natAbs < 10 ^ 4 := by
  have := ht.nonneg
  have := ht.le
  omega

theorem clock_lt (t : DateTime) : t.hour < 100 ∧ t.minute < 100 ∧ t.secondOfMinute < 100 := by
  have hsecond := t.second_lt
  simp only [DateTime.hour, DateTime.minute, secondOfMinute]
  omega

/-- Each item is read where it is written. -/
theorem read?_written (ht : t.FourDigits) (hends : item.EndsBefore rest) :
    item.read? f (item.written t ++ rest) = some (item.kept t f, rest) := by
  obtain ⟨hhour, hminute, hsecond⟩ := t.clock_lt
  cases item with
  | year =>
    rw [LayoutItem.read?, LayoutItem.written, trimStart_padded_append,
      signedYear?_padded (by decide) le_rfl ht.natAbs_lt (.inl rfl), Int.natAbs_of_nonneg ht.nonneg]
    rfl
  | month =>
    rw [LayoutItem.read?, LayoutItem.written, figure_two t.date.month_lt]
    rfl
  | day =>
    rw [LayoutItem.read?, LayoutItem.written, figure_two t.date.day_lt]
    rfl
  | hour =>
    rw [LayoutItem.read?, LayoutItem.written, figure_two hhour]
    rfl
  | minute =>
    rw [LayoutItem.read?, LayoutItem.written, figure_two hminute]
    rfl
  | second =>
    rw [LayoutItem.read?, LayoutItem.written, figure_two hsecond]
    rfl
  | fraction =>
    rw [LayoutItem.read?, show rest = [] from hends, List.append_nil, pointFraction?_written]
    rfl
  | mark c =>
    show (if (c == c) = true then some (f, rest) else none) = some (f, rest)
    rw [if_pos (beq_self_eq_true c)]
  | blanks =>
    show some (f, Chars.trimStart (' ' :: rest)) = some (f, rest)
    rw [Chars.trimStart, List.dropWhile_cons_of_pos rfl, ← Chars.trimStart,
      show Chars.trimStart rest = rest from hends]

/-- A time written as the items of a layout say. -/
def layoutText (t : DateTime) (items : List LayoutItem) : List Char := items.flatMap (·.written t)

theorem layoutText_nil (t : DateTime) : t.layoutText [] = [] := rfl

theorem layoutText_cons (t : DateTime) (item : LayoutItem) (items : List LayoutItem) :
    t.layoutText (item :: items) = item.written t ++ t.layoutText items := List.flatMap_cons

theorem layoutText_append (t : DateTime) (items more : List LayoutItem) :
    t.layoutText (items ++ more) = t.layoutText items ++ t.layoutText more := List.flatMap_append

/-- A layout reads the parts that are written as its first items say, and goes on behind them. -/
theorem readLayout?_written_append (ht : t.FourDigits)
    (hitems : ∀ item ∈ items, ∀ rest, LayoutItem.EndsBefore rest item) :
    readLayout? (items ++ more) f (t.layoutText items ++ rest) =
      readLayout? more (items.foldl (fun f item => item.kept t f) f) rest := by
  induction items generalizing f with
  | nil => rfl
  | cons item items ih =>
    obtain ⟨hitem, hitems⟩ := List.forall_mem_cons.1 hitems
    rw [List.cons_append, readLayout?, layoutText_cons, List.append_assoc,
      read?_written ht (hitem _), Option.bind_some]
    exact ih hitems

/-! ## Texts of times -/

/-- The items of `hh:mm:ss`. -/
def clockItems : List LayoutItem := [.hour, .mark ':', .minute, .mark ':', .second]

/-- The items of `yyyy-MM-ddThh:mm:ss`. -/
def sortableItems : List LayoutItem :=
  [.year, .mark '-', .month, .mark '-', .day, .mark 'T'] ++ clockItems

/-- The items of `MM/dd/yyyy`. -/
def americanItems : List LayoutItem := [.month, .mark '/', .day, .mark '/', .year]

/-- The items of `MM/dd/yyyy hh:mm:ss`. -/
def plainItems : List LayoutItem := americanItems ++ .blanks :: clockItems

theorem format_eq {pattern full : String} {pieces : List PatternPiece}
    (hfull : fullPattern pattern = .ok full) (hpieces : patternPieces full.toList = .ok pieces)
    (t : DateTime) : t.format pattern = .ok (String.ofList (pieces.flatMap (·.fill t))) := by
  rw [format, hfull]
  show (patternPieces full.toList >>= _) = _
  rw [hpieces]
  rfl

theorem fill_year (ht : t.FourDigits) :
    (PatternPiece.run 'y' 4).fill t = LayoutItem.year.written t := by
  show paddedInt 4 t.date.year = Numeral.padded 4 (Numeral.decimal t.date.year.natAbs)
  rw [paddedInt, if_neg (Int.not_lt.2 ht.nonneg)]

theorem fill_fraction (t : DateTime) : '.' :: (PatternPiece.run 'f' 7).fill t =
    LayoutItem.fraction.written t := by
  show '.' :: (Numeral.padded 7 (Numeral.decimal t.fraction)).take 7 = _
  rw [List.take_of_length_le (Numeral.length_padded (by decide) t.fraction_lt).le]
  rfl

/-- The pieces of the pattern for `yyyy-MM-ddThh:mm:ss`. -/
def sortablePieces : List PatternPiece :=
  [.run 'y' 4, .text ['-'], .run 'M' 2, .text ['-'], .run 'd' 2, .text ['T'], .run 'H' 2,
    .text [':'], .run 'm' 2, .text [':'], .run 's' 2]

theorem fill_sortablePieces (ht : t.FourDigits) :
    sortablePieces.flatMap (·.fill t) = t.layoutText sortableItems := by
  rw [sortablePieces, List.flatMap_cons, fill_year ht]
  rfl

theorem format_sortable (ht : t.FourDigits) :
    t.format "s" = .ok (String.ofList (t.layoutText sortableItems)) := by
  have hpieces : patternPieces "yyyy'-'MM'-'dd'T'HH':'mm':'ss".toList = .ok sortablePieces := by
    cbv
  rw [format_eq rfl hpieces, fill_sortablePieces ht]

theorem format_round (ht : t.FourDigits) : t.format "o" =
    .ok (String.ofList (t.layoutText sortableItems ++ LayoutItem.fraction.written t)) := by
  have hpieces : patternPieces "yyyy'-'MM'-'dd'T'HH':'mm':'ss'.'fffffff".toList =
      .ok (sortablePieces ++ [.text ['.'], .run 'f' 7]) := by
    cbv
  rw [format_eq rfl hpieces, List.flatMap_append, fill_sortablePieces ht, ← fill_fraction,
    List.flatMap_cons, List.flatMap_cons, List.flatMap_nil, List.append_nil]
  rfl

/-- The text `MM/dd/yyyy hh:mm:ss`. -/
theorem format_plain (ht : t.FourDigits) : t.format "" =
    .ok (String.ofList (t.layoutText plainItems)) := by
  have hpieces : patternPieces "MM/dd/yyyy HH:mm:ss".toList =
      .ok [.run 'M' 2, .run '/' 1, .run 'd' 2, .run '/' 1, .run 'y' 4, .run ' ' 1, .run 'H' 2,
        .run ':' 1, .run 'm' 2, .run ':' 1, .run 's' 2] := by
    cbv
  rw [format_eq rfl hpieces]
  simp only [List.flatMap_cons, fill_year ht]
  rfl

theorem text_eq (ht : t.FourDigits) (hnano : t.nano < nanosPerSecond) : t.text =
    String.ofList (t.layoutText plainItems) := by
  have hyear : Date.yearText t.date.year = LayoutItem.year.written t :=
    if_pos ⟨ht.nonneg, ht.le⟩
  have hsecond : t.shownSecond = t.secondOfMinute := by
    rw [shownSecond, Nat.div_eq_of_lt hnano, Nat.add_zero]
  rw [text, clockText, hyear, hsecond]
  simp [plainItems, americanItems, clockItems, layoutText_cons, layoutText_nil, LayoutItem.written]

/-! ## Reading the texts -/

/-- A text that is not in the strict form is read by the first layout that fits. -/
theorem parse?_of_layout {before after : List (List LayoutItem)}
    (hlayouts : layouts = before ++ items :: after) (htrim : Chars.trim cs = cs)
    (hstrict : readStrict? cs = none) (hbefore : ∀ layout ∈ before, readLayout? layout {} cs = none)
    (hread : readLayout? items {} cs = some f) (htime : f.toDateTime? = some t) :
    parse? (String.ofList cs) = some t := by
  have hnone : before.findSome? (fun layout => (readLayout? layout {} cs).bind
      Fields.toDateTime?) = none :=
    List.findSome?_eq_none_iff.2 fun layout hlayout => by rw [hbefore layout hlayout]; rfl
  rw [parse?, String.toList_ofList, htrim, hstrict, hlayouts]
  show List.findSome? _ _ = _
  rw [List.findSome?_append, hnone, Option.none_or, List.findSome?_cons, hread, Option.bind_some,
    htime]

/-- The fields of a time with another fraction of its second. -/
def fieldsWith (t : DateTime) (nano : ℕ) : Fields :=
  ⟨t.date.year, t.date.month, t.date.day, t.hour, t.minute, t.secondOfMinute, nano⟩

/-- The fields of a time without a leap second name it. -/
theorem toDateTime?_fieldsWith (hnano : t.nano < nanosPerSecond) :
    (t.fieldsWith t.nano).toDateTime? = some t := by
  have hsecond : t.secondOfMinute ≠ 60 := by
    rw [secondOfMinute]
    omega
  rw [fieldsWith, Fields.toDateTime?, Date.ofParts?_eq_some_iff.2 ⟨rfl, rfl, rfl⟩, Option.bind_some,
    if_neg hsecond, if_pos hnano]
  exact ofParts?_eq_some_iff.2 ⟨rfl, rfl, rfl, rfl, rfl, .inl hnano⟩

theorem figure?_append {width : ℕ} (ends : Char → Bool) (c : Char) (hc : ends c = true)
    (hwidth : 0 < width) (hn : n < 10 ^ width) (rest : List Char) :
    figure? width ends (Numeral.padded width (Numeral.decimal n) ++ c :: rest) =
      some (n, rest) := by
  rw [figure?, digits?_append le_rfl hwidth le_rfl hn (.inl rfl), Option.bind_some]
  exact if_pos hc

/-- The strict form has an offset from UTC at its end. -/
theorem readStrict?_sortable (ht : t.FourDigits) {nano : ℕ}
    (hrest : pointFraction? rest = some (nano, [])) :
    readStrict? (t.layoutText sortableItems ++ rest) = none := by
  obtain ⟨hhour, hminute, hsecond⟩ := t.clock_lt
  have htext : t.layoutText sortableItems ++ rest =
      Numeral.padded 4 (Numeral.decimal t.date.year.natAbs) ++ '-' ::
        (Numeral.padded 2 (Numeral.decimal t.date.month) ++ '-' ::
          (Numeral.padded 2 (Numeral.decimal t.date.day) ++ 'T' ::
            (Numeral.padded 2 (Numeral.decimal t.hour) ++ ':' ::
              (Numeral.padded 2 (Numeral.decimal t.minute) ++ ':' ::
                (Numeral.padded 2 (Numeral.decimal t.secondOfMinute) ++ rest))))) := by
    simp [sortableItems, clockItems, layoutText_cons, layoutText_nil, LayoutItem.written, two]
  -- All parts are read, and no offset is left.
  rw [htext, readStrict?]
  simp only [Option.bind_eq_bind, Option.bind_some,
    figure?_append (· == '-') '-' rfl (by decide : 0 < 4) ht.natAbs_lt,
    figure?_append (· == '-') '-' rfl (by decide : 0 < 2) t.date.month_lt,
    figure?_append (fun c => c == 't' || c == 'T' || c == ' ') 'T' rfl (by decide : 0 < 2)
      t.date.day_lt,
    figure?_append (· == ':') ':' rfl (by decide : 0 < 2) hhour,
    figure?_append (· == ':') ':' rfl (by decide : 0 < 2) hminute,
    digits?_append le_rfl (by decide : 0 < 2) le_rfl hsecond (.inl rfl), hrest]
  rfl

theorem trimEnd_clockItems (t : DateTime) (items : List LayoutItem) :
    Chars.trimEnd (t.layoutText (items ++ clockItems)) = t.layoutText (items ++ clockItems) := by
  have hsecond : t.layoutText (items ++ clockItems) =
      t.layoutText (items ++ [.hour, .mark ':', .minute, .mark ':']) ++
        Numeral.padded 2 (Numeral.decimal t.secondOfMinute) := by
    simp [layoutText_append, layoutText_cons, layoutText_nil, clockItems, LayoutItem.written, two]
  rw [hsecond, trimEnd_append_padded]

theorem parse?_sortable (ht : t.FourDigits) {u : DateTime} {nano : ℕ}
    (htrim : Chars.trimEnd (t.layoutText sortableItems ++ rest) =
      t.layoutText sortableItems ++ rest)
    (hrest : pointFraction? rest = some (nano, []))
    (htime : (t.fieldsWith nano).toDateTime? = some u) :
    parse? (String.ofList (t.layoutText sortableItems ++ rest)) = some u := by
  have hstart : Chars.trimStart (t.layoutText sortableItems ++ rest) =
      t.layoutText sortableItems ++ rest := by
    rw [sortableItems, List.cons_append, layoutText_cons, List.append_assoc]
    exact trimStart_padded_append 4 _ _
  have hread : readLayout? (sortableItems ++ [.fraction]) {}
      (t.layoutText sortableItems ++ rest) = some (t.fieldsWith nano) := by
    rw [readLayout?_written_append ht (by simp [sortableItems, clockItems, LayoutItem.EndsBefore]),
      readLayout?, LayoutItem.read?, hrest]
    rfl
  have hlayouts : layouts = [] ++ (sortableItems ++ [.fraction]) :: layouts.tail := rfl
  exact parse?_of_layout hlayouts (by rw [Chars.trim, hstart, htrim])
    (readStrict?_sortable ht hrest) (by simp) hread htime

/-- Two digits are too few for the year of the strict form. -/
theorem readStrict?_two (hn : n < 100) (rest : List Char) :
    readStrict? (two n ++ '/' :: rest) = none := by
  have hfigure : figure? 4 (· == '-') (two n ++ '/' :: rest) = none := by
    rw [figure?, two, digits?_append_eq_none (by decide) (by decide) (by decide) hn
      (digitsEnd_cons rfl rest)]
    rfl
  rw [readStrict?, hfigure]
  rfl

/-- A layout that separates the year by a dash does not read a slash there. -/
theorem readLayout?_dashed (hn : n < 100) (rest : List Char) (items : List LayoutItem) :
    readLayout? (.year :: .mark '-' :: items) f (two n ++ '/' :: rest) = none := by
  rw [readLayout?, LayoutItem.read?, two, trimStart_padded_append,
    signedYear?_padded (by decide) (by decide) hn (.inr (digitsEnd_cons rfl rest))]
  rfl

theorem trim_plain (t : DateTime) :
    Chars.trim (t.layoutText plainItems) = t.layoutText plainItems := by
  have hstart : Chars.trimStart (t.layoutText plainItems) = t.layoutText plainItems :=
    trimStart_padded_append 2 _ _
  have hitems : plainItems = (americanItems ++ [.blanks]) ++ clockItems := rfl
  rw [Chars.trim, hstart, hitems, trimEnd_clockItems]

theorem readLayout?_plain (ht : t.FourDigits) :
    readLayout? plainItems {} (t.layoutText plainItems) = some (t.fieldsWith 0) := by
  have hblanks : LayoutItem.blanks.EndsBefore (t.layoutText clockItems) :=
    trimStart_padded_append 2 _ _
  have hclock (f : Fields) : readLayout? clockItems f (t.layoutText clockItems) =
      some (clockItems.foldl (fun f item => item.kept t f) f) := by
    have hread : readLayout? (clockItems ++ []) f (t.layoutText clockItems ++ []) =
        readLayout? [] (clockItems.foldl (fun f item => item.kept t f) f) [] :=
      readLayout?_written_append ht (by simp [clockItems, LayoutItem.EndsBefore])
    rwa [List.append_nil, List.append_nil] at hread
  rw [plainItems, layoutText_append,
    readLayout?_written_append ht (by simp [americanItems, LayoutItem.EndsBefore]),
    layoutText_cons, readLayout?, read?_written ht hblanks, Option.bind_some]
  exact hclock _

/-- The layouts in front of the one for `MM/dd/yyyy hh:mm:ss` take its month for the year. -/
theorem parse?_plain (ht : t.FourDigits) {u : DateTime}
    (htime : (t.fieldsWith 0).toDateTime? = some u) :
    parse? (String.ofList (t.layoutText plainItems)) = some u := by
  obtain ⟨rest, htext⟩ : ∃ rest, t.layoutText plainItems = two t.date.month ++ '/' :: rest :=
    ⟨_, rfl⟩
  have hdashed : ∀ layout ∈ layouts.take 3, layout.take 2 = [.year, .mark '-'] := by decide
  have hlayouts : layouts = layouts.take 3 ++ plainItems :: layouts.drop 4 := rfl
  refine parse?_of_layout hlayouts t.trim_plain ?_ ?_ (readLayout?_plain ht) htime
  · rw [htext]
    exact readStrict?_two t.date.month_lt rest
  · intro layout hlayout
    rw [htext, ← List.take_append_drop 2 layout, hdashed layout hlayout]
    exact readLayout?_dashed t.date.month_lt rest _

/-! ## Reading back -/

/-- The time at the start of its second. -/
def startOfSecond (t : DateTime) : DateTime :=
  ⟨t.date, t.second, 0, t.second_lt, (midnight t.date).nano_lt⟩

theorem parse?_format_round (ht : t.FourDigits) (hnano : t.nano < nanosPerSecond)
    (hticks : t.nano % 100 = 0) :
    parse? (String.ofList (t.layoutText sortableItems ++ LayoutItem.fraction.written t)) =
      some t := by
  have hfraction : t.fraction * 100 = t.nano := by
    rw [fraction, Nat.mod_eq_of_lt hnano]
    omega
  have htrim : Chars.trimEnd (t.layoutText sortableItems ++ LayoutItem.fraction.written t) =
      t.layoutText sortableItems ++ LayoutItem.fraction.written t := by
    rw [LayoutItem.written, List.append_cons, trimEnd_append_padded]
  refine parse?_sortable ht htrim (pointFraction?_written t) ?_
  rw [hfraction]
  exact toDateTime?_fieldsWith hnano

theorem toDateTime?_fieldsWith_zero (t : DateTime) :
    (t.fieldsWith 0).toDateTime? = some t.startOfSecond :=
  toDateTime?_fieldsWith (t := t.startOfSecond) (show 0 < nanosPerSecond by decide)

theorem parse?_format_sortable (ht : t.FourDigits) :
    parse? (String.ofList (t.layoutText sortableItems)) = some t.startOfSecond := by
  have htrim : Chars.trimEnd (t.layoutText sortableItems ++ []) =
      t.layoutText sortableItems ++ [] := by
    rw [List.append_nil]
    exact trimEnd_clockItems t _
  have hparse := parse?_sortable ht htrim rfl t.toDateTime?_fieldsWith_zero
  rwa [List.append_nil] at hparse

end DateTime

namespace DateFunctions

open Arguments FunctionTable DateTime

variable {t : DateTime} {args : List Value} {s : String}

theorem memberAnswers_toText (hcount : args.length ≤ 1)
    (hformat : t.format (text (.dateTime t :: args) 1) = .ok s) :
    MemberAnswers (.dateTime t) "ToString" args (.ok (.text s)) := by
  have hvalue : toText (.dateTime t :: args) = .ok (.text s) := by
    show (Answer.of (t.format _) >>= _) = _
    rw [hformat]
    rfl
  rw [← hvalue]
  exact memberAnswers_of_find (show Text.foldAscii "System.DateTime" = _ from rfl)
    (by rfl : _ = "tostring") (by rfl) (decide_eq_true ⟨Nat.zero_le _, hcount⟩)

theorem answers_parse_of_parse? (h : DateTime.parse? s = some t) :
    Answers "System.DateTime" "Parse" [.text s] (.ok (.dateTime t)) := by
  have hvalue : parse [.text s] = .ok (.dateTime t) := by
    show Value.dateTime <$> Answer.orRefuse _ (DateTime.parse? s) = _
    rw [h]
    rfl
  rw [← hvalue]
  exact answers_parse s

/-- A date of the years 1 to 9999 with a time of day in milliseconds is read back from its texts.
Its display is what `ToString` gives. The form `o` is read as the same time, and the display and the
form `s` as the time without the milliseconds. -/
theorem texts_read_back {date : Date} {hour minute second milli : ℕ} (hfirst : 1 ≤ date.year)
    (hlast : date.year ≤ 9999) (hhour : hour < 24) (hminute : minute < 60) (hsecond : second < 60)
    (hmilli : milli < 1000) :
    ∃ t start, ofParts? date hour minute second (milli * 1000000) = some t ∧
      ofParts? date hour minute second 0 = some start ∧
      MemberAnswers (.dateTime t) "ToString" [] (.ok (.text (Value.dateTime t).display)) ∧
      Answers "System.DateTime" "Parse" [.text (Value.dateTime t).display]
        (.ok (.dateTime start)) ∧
      (∃ s, MemberAnswers (.dateTime t) "ToString" [.text "o"] (.ok (.text s)) ∧
        Answers "System.DateTime" "Parse" [.text s] (.ok (.dateTime t))) ∧
      ∃ s, MemberAnswers (.dateTime t) "ToString" [.text "s"] (.ok (.text s)) ∧
        Answers "System.DateTime" "Parse" [.text s] (.ok (.dateTime start)) := by
  have hnano : milli * 1000000 < nanosPerSecond := by
    rw [nanosPerSecond]
    omega
  obtain ⟨t, hmade⟩ := exists_ofParts? date hhour hminute hsecond (.inl hnano) (by omega)
  obtain ⟨rfl, rfl, rfl, rfl, hmillis, -⟩ := ofParts?_eq_some_iff.1 hmade
  have ht : t.FourDigits := ⟨by omega, hlast⟩
  have hdisplay := text_eq ht (by omega)
  have hstart : ofParts? t.date t.hour t.minute t.secondOfMinute 0 = some t.startOfSecond :=
    ofParts?_eq_some_iff.2 ⟨rfl, rfl, rfl, rfl, rfl, .inl (by decide)⟩
  refine ⟨t, t.startOfSecond, hmade, hstart, ?_, ?_, ?_, ?_⟩
  · exact memberAnswers_toText (Nat.zero_le 1) ((format_plain ht).trans (by rw [← hdisplay]; rfl))
  · refine answers_parse_of_parse? ?_
    show DateTime.parse? t.text = _
    rw [hdisplay]
    exact parse?_plain ht t.toDateTime?_fieldsWith_zero
  · exact ⟨_, memberAnswers_toText le_rfl (format_round ht), answers_parse_of_parse?
      (parse?_format_round ht (by omega) (by omega))⟩
  · exact ⟨_, memberAnswers_toText le_rfl (format_sortable ht), answers_parse_of_parse?
      (parse?_format_sortable ht)⟩

/-- A leap day is read back from its display. -/
theorem texts_read_back_of_leap_day :
    ∃ t start, ofParts? ⟨2000, 2, 29, by decide⟩ 23 59 58 (7 * 1000000) = some t ∧
      ofParts? ⟨2000, 2, 29, by decide⟩ 23 59 58 0 = some start ∧
      MemberAnswers (.dateTime t) "ToString" [] (.ok (.text (Value.dateTime t).display)) ∧
      Answers "System.DateTime" "Parse" [.text (Value.dateTime t).display]
        (.ok (.dateTime start)) := by
  obtain ⟨t, start, ht, hstart, hdisplay, hparse, -⟩ :=
    texts_read_back (show 1 ≤ (⟨2000, 2, 29, by decide⟩ : Date).year by decide) (by decide)
      (by decide : 23 < 24) (by decide : 59 < 60) (by decide : 58 < 60) (by decide : 7 < 1000)
  exact ⟨t, start, ht, hstart, hdisplay, hparse⟩

end DateFunctions

end BuildExpr
