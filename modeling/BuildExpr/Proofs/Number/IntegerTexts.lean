import BuildExpr.Proofs.Evaluation.Answers
import BuildExpr.Proofs.Number.Reading

/-!
# Integers in a rendering

The rendering `D` writes the sign and the digits of an integer with zeros in front, and what it
writes is a decimal text of the integer (`Integer.isDecimal_padded`). The rendering `N` cuts the
digits in groups of three from the right (`Numeral.exists_groups`). Both keep the integer
(`NumberFunctions.integer_renderings`).
-/

namespace BuildExpr

namespace Numeral

/-! ## Widths -/

/-- A number that is written with digits alone is read if it is below the bound. -/
theorem readBounded?_of_read? {bound n : ℕ} {cs : List Char} (h : read? 10 cs = some n) :
    readBounded? bound cs = if n < bound then some n else none := by
  have hplus : '+' ∉ cs := not_mem_of_read? h rfl
  rw [readBounded?]
  · simp only [h, Option.filter_some, decide_eq_true_eq]
  · rintro rest rfl
    exact hplus List.mem_cons_self

theorem ne_nil_of_read? {base n : ℕ} {cs : List Char} (h : read? base cs = some n) : cs ≠ [] := by
  rintro rfl
  cases h

theorem le_length_padded (width : ℕ) (digits : List Char) :
    width ≤ (padded width digits).length := by
  rw [padded, List.length_append, List.length_replicate]
  omega

theorem isDigit_of_mem_padded {width : ℕ} {digits : List Char}
    (h : ∀ c ∈ digits, isDigit c = true) : ∀ c ∈ padded width digits, isDigit c = true := by
  refine List.forall_mem_append.2 ⟨fun c hc => ?_, h⟩
  rw [List.eq_of_mem_replicate hc]
  rfl

/-- Zeros in front do not change a number. -/
theorem ofDigitChars_padded (width : ℕ) (digits : List Char) :
    Nat.ofDigitChars 10 (padded width digits) 0 = Nat.ofDigitChars 10 digits 0 := by
  rw [padded, Nat.ofDigitChars_append, Nat.ofDigitChars_replicate_zero, Nat.mul_zero]

/-! ## Signs -/

/-- What stands in front of the digits of a number. -/
def signChars (negative : Bool) : List Char := if negative then ['-'] else []

theorem signChars_decide (p : Prop) [Decidable p] :
    signChars p = if p then ['-'] else [] := by
  simp only [signChars, decide_eq_true_eq]

theorem filter_signChars (negative : Bool) :
    (signChars negative).filter (fun c => c != ',') = signChars negative := by
  cases negative <;> rfl

/-! ## Groups -/

/-- Groups that digits are cut in: one of one to three digits, and after it groups of three. -/
structure IsGrouping (digits first : List Char) (rest : List (List Char)) : Prop where
  flatten : (first :: rest).flatten = digits
  first_pos : 0 < first.length
  first_le : first.length ≤ 3
  rest_eq : ∀ group ∈ rest, group.length = 3

namespace IsGrouping

variable {digits first : List Char} {rest : List (List Char)}

theorem length_eq (h : IsGrouping digits first rest) :
    digits.length = first.length + 3 * rest.length := by
  rw [← h.flatten, List.flatten_cons, List.length_append, List.length_flatten,
    List.map_eq_replicate_iff.2 h.rest_eq, List.sum_replicate_nat, Nat.mul_comm]

theorem singleton (c : Char) : IsGrouping [c] [c] [] := ⟨rfl, by simp, by simp, by simp⟩

/-- In front of a full group a digit starts a new one. -/
theorem cons_full (h : IsGrouping digits first rest) (hthree : digits.length % 3 = 0) (c : Char) :
    IsGrouping (c :: digits) [c] (first :: rest) := by
  obtain ⟨hflatten, hpos, hle, hrest⟩ := h
  have hlength := length_eq ⟨hflatten, hpos, hle, hrest⟩
  exact ⟨by rw [← hflatten]; rfl, by simp, by simp,
    List.forall_mem_cons.2 ⟨by omega, hrest⟩⟩

/-- In front of a group that is not full a digit belongs to it. -/
theorem cons_open (h : IsGrouping digits first rest) (hthree : digits.length % 3 ≠ 0) (c : Char) :
    IsGrouping (c :: digits) (c :: first) rest := by
  have hlength := h.length_eq
  have hle := h.first_le
  exact ⟨by rw [← h.flatten]; rfl, by simp, by rw [List.length_cons]; omega, h.rest_eq⟩

end IsGrouping

/-- Commas cut digits in groups of three from the right. -/
theorem exists_groups {digits : List Char} (h : digits ≠ []) :
    ∃ first rest, IsGrouping digits first rest ∧
      grouped digits = Chars.join [','] (first :: rest) := by
  induction digits with
  | nil => exact absurd rfl h
  | cons c cs ih =>
    by_cases hcs : cs = []
    · subst hcs
      exact ⟨[c], [], .singleton c, rfl⟩
    · obtain ⟨first, rest, hgroups, hjoin⟩ := ih hcs
      rw [grouped, hjoin]
      by_cases hthree : cs.length % 3 = 0
      · refine ⟨[c], first :: rest, hgroups.cons_full hthree c, ?_⟩
        rw [if_pos (by simp [hthree, hcs])]
        rfl
      · refine ⟨c :: first, rest, hgroups.cons_open hthree c, ?_⟩
        rw [if_neg (by simp [hthree])]
        cases rest <;> rfl

theorem ne_comma_of_isDigit {c : Char} (h : isDigit c = true) : c ≠ ',' := by
  rintro rfl
  cases h

/-- Without its commas a grouped number is what it was. -/
theorem filter_grouped {digits : List Char} (h : ∀ c ∈ digits, isDigit c = true) :
    (grouped digits).filter (fun c => c != ',') = digits := by
  induction digits with
  | nil => rfl
  | cons c cs ih =>
    obtain ⟨hc, hcs⟩ := List.forall_mem_cons.1 h
    have hne : (c != ',') = true := bne_iff_ne.2 (ne_comma_of_isDigit hc)
    rw [grouped]
    split <;> simp [hne, ih hcs]

end Numeral

namespace Integer

theorem signChars_mem (v : Int64) :
    (Numeral.signChars (v.toInt < 0), if v.toInt < 0 then -1 else 1) ∈ signs := by
  rw [Numeral.signChars_decide]
  split <;> decide

theorem chars_toInt (v : Int64) :
    chars v.toInt = Numeral.signChars (v.toInt < 0) ++ magnitude v := by
  rw [chars, Numeral.signChars_decide, magnitude]
  split <;> rfl

/-- With any number of zeros in front of its digits an integer is written in decimal. -/
theorem isDecimal_padded (v : Int64) (width : ℕ) :
    IsDecimal (Numeral.signChars (v.toInt < 0) ++ Numeral.padded width (magnitude v)) v.toInt := by
  have hdigits := Numeral.isDigit_of_mem_decimal v.toInt.natAbs
  refine ⟨[], _, _, Numeral.padded width (magnitude v), [], Chars.Blank.nil,
    Chars.Blank.nil, by simp, signChars_mem v, ?_, Numeral.isDigit_of_mem_padded hdigits, ?_⟩
  · exact List.append_ne_nil_of_right_ne_nil _ (Numeral.decimal_ne_nil _)
  · rw [Numeral.ofDigitChars_padded, magnitude, Numeral.ofDigitChars_decimal]
    split <;> omega

theorem Format.parse?_decimal {digits : List Char} {width : ℕ}
    (h : Numeral.read? 10 digits = some width) :
    Format.parse? (String.ofList ('D' :: digits)) =
      if width < Numeral.bound64 then some (.decimal width) else none := by
  have hempty : digits.isEmpty = false := by simpa using Numeral.ne_nil_of_read? h
  rw [Format.parse?, String.toList_ofList]
  simp only [hempty, Bool.false_eq_true, if_false, Numeral.readBounded?_of_read? h]
  split <;> rfl

theorem Format.toList_apply_decimal (width : ℕ) (v : Int64) :
    ((decimal width).apply v).toList =
      Numeral.signChars (v.toInt < 0) ++ Numeral.padded width (magnitude v) := by
  rw [apply, String.toList_ofList, Numeral.signChars_decide]

theorem Format.toList_apply_grouped (v : Int64) :
    ((grouped 0).apply v).toList =
      Numeral.signChars (v.toInt < 0) ++ Numeral.grouped (magnitude v) := by
  rw [apply, String.toList_ofList, Numeral.signChars_decide]
  exact List.append_nil _

end Integer

namespace NumberFunctions

open Arguments FunctionTable

variable {v : Int64}

theorem answers_integer_toString (v : Int64) (args : List Value) (h : args.length ≤ 1) :
    MemberAnswers (.int v) "ToString" args (integerToText (.int v :: args)) :=
  memberAnswers_of_find (show Text.foldAscii "System.Int64" = _ from rfl)
    (by rfl : _ = "tostring") rfl (by simpa [Function.accepts, Function.pure] using h)

theorem answers_int64_parse (a : Value) :
    Answers "System.Int64" "Parse" [a] (in64 (readInteger [a])) :=
  answers_of_resolve (resolveStatic_of_find (by rfl : _ = "system.int64")
    (by rfl : _ = "parse") rfl rfl)

/-- The text of an integer in a rendering. -/
theorem integerToText_eq (v : Int64) (spec : String) :
    integerToText [.int v, .text spec] =
      (Integer.Format.parse? spec).elim (Answer.refuse .formatSpecifier)
        fun format => .ok (.text (format.apply v)) := by
  have hspec : text [.int v, .text spec] 1 = spec := rfl
  rw [integerToText, hspec]
  cases Integer.Format.parse? spec <;> rfl

/-- A decimal text is read as its integer. -/
theorem readInteger_of_isDecimal {s : String} (h : Integer.IsDecimal s.toList v.toInt) :
    readInteger [.text s] = .ok v := by
  have hparse : Integer.parse? s = some v := by
    rw [Integer.parse?_of_isDecimal h, Integer.fit?_eq_some_iff.2 rfl]
  obtain ⟨sign, unit, digits, htrim, hsign, hdigits, m, hread, -⟩ := h.exists_trim
  have hne : (sign ++ digits).isEmpty = false := by
    simpa using fun _ => Numeral.ne_nil_of_read? hread
  have hsigns : ∀ c ∈ sign, (c == '-' || c == '+') = true := by
    simp only [Integer.signs, List.mem_cons, Prod.mk.injEq, List.not_mem_nil, or_false] at hsign
    rcases hsign with ⟨rfl, -⟩ | ⟨rfl, -⟩ | ⟨rfl, -⟩ <;> simp
  have hdrop : (sign ++ digits).dropWhile (fun c => c == '-' || c == '+') = digits := by
    obtain ⟨c, cs, rfl⟩ := List.exists_cons_of_ne_nil (Numeral.ne_nil_of_read? hread)
    have hc := Numeral.isDigit_iff.1 (hdigits c List.mem_cons_self)
    rw [List.dropWhile_append_of_pos hsigns, List.dropWhile_cons_of_neg]
    simp only [Bool.or_eq_true, beq_iff_eq, not_or]
    constructor <;>
    · rintro rfl
      exact absurd hc.1 (by decide)
  have hchars : chars [.text s] 0 = s.toList := rfl
  have htext : text [.text s] 0 = s := rfl
  rw [readInteger, hchars, htext, htrim, hparse]
  simp only [hdrop, hne, List.all_eq_true.2 hdigits]
  rfl

/-- What the rendering `D` writes is read as the same integer. -/
theorem parse_padded (v : Int64) (width : ℕ) :
    Answers "System.Int64" "Parse" [.text ((Integer.Format.decimal width).apply v)]
      (.ok (.int v)) := by
  have hanswer := answers_int64_parse (.text ((Integer.Format.decimal width).apply v))
  have hdecimal : Integer.IsDecimal ((Integer.Format.decimal width).apply v).toList v.toInt := by
    rw [Integer.Format.toList_apply_decimal]
    exact Integer.isDecimal_padded v width
  rwa [readInteger_of_isDecimal hdecimal] at hanswer

/-- What the rendering `N` writes is the plain text with commas between groups of digits. -/
theorem grouped_text (v : Int64) :
    ∃ plain text digits first rest, MemberAnswers (.int v) "ToString" [] (.ok (.text plain)) ∧
      MemberAnswers (.int v) "ToString" [.text "N0"] (.ok (.text text)) ∧
      text.toList.filter (fun c => c != ',') = plain.toList ∧
      plain.toList = Numeral.signChars (v.toInt < 0) ++ digits ∧
      text.toList = Numeral.signChars (v.toInt < 0) ++ Chars.join [','] (first :: rest) ∧
      (∀ c ∈ digits, Numeral.isDigit c = true) ∧ Numeral.IsGrouping digits first rest := by
  have hdigits := Numeral.isDigit_of_mem_decimal v.toInt.natAbs
  have hplain := answers_integer_toString v [] (by simp)
  have hgrouped := answers_integer_toString v [.text "N0"] (by simp)
  rw [integerToText_eq, (by rfl : Integer.Format.parse? "N0" = some (.grouped 0))] at hgrouped
  have hchars : (Integer.text v).toList =
      Numeral.signChars (v.toInt < 0) ++ Integer.magnitude v := by
    rw [Integer.text, String.toList_ofList, Integer.chars_toInt]
  obtain ⟨first, rest, hgroups, hjoin⟩ :=
    Numeral.exists_groups (Numeral.decimal_ne_nil v.toInt.natAbs)
  refine ⟨_, _, _, first, rest, hplain, hgrouped, ?_, hchars, ?_, hdigits, hgroups⟩
  · rw [Integer.Format.toList_apply_grouped, List.filter_append, Numeral.filter_signChars, hchars,
      Integer.magnitude, Numeral.filter_grouped hdigits]
  · rw [Integer.Format.toList_apply_grouped, Integer.magnitude, hjoin]

/-- An integer in the renderings `D` and `N`. The first is the sign and as many digits as the width
asks for, or more, and it is read as the same integer; only a width that is no word is refused.
The second is the decimal text with commas, which leave groups of three digits and before them a
group of one to three. -/
theorem integer_renderings (v : Int64) {width : List Char} {n : ℕ}
    (h : Numeral.read? 10 width = some n) :
    (n < Numeral.bound64 →
      ∃ text digits, MemberAnswers (.int v) "ToString" [.text (String.ofList ('D' :: width))]
          (.ok (.text text)) ∧
        text.toList = Numeral.signChars (v.toInt < 0) ++ digits ∧
        (∀ c ∈ digits, Numeral.isDigit c = true) ∧ n ≤ digits.length ∧
        Answers "System.Int64" "Parse" [.text text] (.ok (.int v))) ∧
    (Numeral.bound64 ≤ n →
      MemberAnswers (.int v) "ToString" [.text (String.ofList ('D' :: width))]
        (Answer.refuse .formatSpecifier)) ∧
    ∃ plain text digits first rest, MemberAnswers (.int v) "ToString" [] (.ok (.text plain)) ∧
      MemberAnswers (.int v) "ToString" [.text "N0"] (.ok (.text text)) ∧
      text.toList.filter (fun c => c != ',') = plain.toList ∧
      plain.toList = Numeral.signChars (v.toInt < 0) ++ digits ∧
      text.toList = Numeral.signChars (v.toInt < 0) ++ Chars.join [','] (first :: rest) ∧
      (∀ c ∈ digits, Numeral.isDigit c = true) ∧ Numeral.IsGrouping digits first rest := by
  have hanswer := answers_integer_toString v [.text (String.ofList ('D' :: width))] (by simp)
  rw [integerToText_eq, Integer.Format.parse?_decimal h] at hanswer
  refine ⟨fun hn => ?_, fun hn => ?_, grouped_text v⟩
  · rw [if_pos hn] at hanswer
    exact ⟨_, _, hanswer, Integer.Format.toList_apply_decimal n v,
      Numeral.isDigit_of_mem_padded (Numeral.isDigit_of_mem_decimal _),
      Numeral.le_length_padded _ _, parse_padded v n⟩
  · rwa [if_neg (by omega)] at hanswer

/-- The least integer, which has no opposite, with more zeros in front than it has digits. -/
theorem integer_renderings_least :
    (∃ text digits, MemberAnswers (.int Int64.minValue) "ToString" [.text "D25"]
        (.ok (.text text)) ∧
      text.toList = '-' :: digits ∧ (∀ c ∈ digits, Numeral.isDigit c = true) ∧
      25 ≤ digits.length ∧
      Answers "System.Int64" "Parse" [.text text] (.ok (.int Int64.minValue))) ∧
    ∃ plain text digits first rest,
      MemberAnswers (.int Int64.minValue) "ToString" [] (.ok (.text plain)) ∧
      MemberAnswers (.int Int64.minValue) "ToString" [.text "N0"] (.ok (.text text)) ∧
      text.toList.filter (fun c => c != ',') = plain.toList ∧ plain.toList = '-' :: digits ∧
      text.toList = '-' :: Chars.join [','] (first :: rest) ∧
      (∀ c ∈ digits, Numeral.isDigit c = true) ∧ Numeral.IsGrouping digits first rest := by
  obtain ⟨hpadded, -, hgrouped⟩ := integer_renderings Int64.minValue
    (by rfl : Numeral.read? 10 ['2', '5'] = some 25)
  exact ⟨hpadded (by decide), hgrouped⟩

end NumberFunctions

end BuildExpr
