import BuildExpr.Calendar.Reader
import BuildExpr.Proofs.Number.IntegerTexts

/-!
# Figures of a fixed width

The parts of dates and spans are written with zeros in front up to a width. A number that needs no
more digits than that has just so many (`Numeral.length_padded`). It is read from them in front of
anything if no more digits may be read, and else in front of what does not go on with a digit
(`DateTime.digits?_append`).
-/

namespace BuildExpr

namespace Numeral

theorem length_padded {width n : ℕ} (hwidth : 0 < width) (h : n < 10 ^ width) :
    (padded width (decimal n)).length = width := by
  have hle : (decimal n).length ≤ width := (Nat.length_toDigits_le_iff (by decide) hwidth).2 h
  rw [padded, List.length_append, List.length_replicate]
  omega

theorem isDigit_of_mem_padded_decimal (width n : ℕ) :
    ∀ c ∈ padded width (decimal n), isDigit c = true :=
  isDigit_of_mem_padded (isDigit_of_mem_decimal n)

/-- A number is read with zeros in front of it. -/
theorem read?_padded (width n : ℕ) : read? 10 (padded width (decimal n)) = some n := by
  have hne : padded width (decimal n) ≠ [] :=
    List.append_ne_nil_of_right_ne_nil _ (decimal_ne_nil n)
  rw [read?, if_neg (by simpa using hne), readOn_ten (isDigit_of_mem_padded_decimal width n),
    ofDigitChars_padded, ofDigitChars_decimal]

theorem isBlank_of_isDigit {c : Char} (h : isDigit c = true) : Chars.isBlank c = false :=
  isBlank_of_digit? (show (digit? 10 c).isSome = true by rw [digit?_of_isDigit h]; rfl)

end Numeral

namespace DateTime

variable {width n least most : ℕ} {c : Char} {rest : List Char}

theorem length_two (hn : n < 100) : (two n).length = 2 := Numeral.length_padded (by decide) hn

theorem read?_two (n : ℕ) : Numeral.read? 10 (two n) = some n := Numeral.read?_padded 2 n

theorem not_mem_two (hc : Numeral.digit? 10 c = none) (n : ℕ) : c ∉ two n :=
  Numeral.not_mem_of_read? (read?_two n) hc

/-- The text goes on without a digit. -/
def DigitsEnd (rest : List Char) : Prop := ∀ c ∈ rest.head?, Numeral.isDigit c = false

theorem digitsEnd_cons (hc : Numeral.isDigit c = false) (rest : List Char) :
    DigitsEnd (c :: rest) := by
  rintro d ⟨⟩
  exact hc

theorem DigitsEnd.takeWhile_take (h : DigitsEnd rest) (k : ℕ) :
    (rest.take k).takeWhile Numeral.isDigit = [] := by
  cases rest with
  | nil => rw [List.take_nil, List.takeWhile_nil]
  | cons c rest =>
    have hc := h c rfl
    cases k with
    | zero => rfl
    | succ k => rw [List.take_succ_cons, List.takeWhile_cons, hc, if_neg Bool.false_ne_true]

theorem takeWhile_padded_append (hwidth : 0 < width) (hmost : width ≤ most) (hn : n < 10 ^ width)
    (hend : width = most ∨ DigitsEnd rest) :
    ((Numeral.padded width (Numeral.decimal n) ++ rest).take most).takeWhile Numeral.isDigit =
      Numeral.padded width (Numeral.decimal n) := by
  have hlength := Numeral.length_padded hwidth hn
  have hrest : (rest.take (most - width)).takeWhile Numeral.isDigit = [] := by
    obtain rfl | hend := hend
    · rw [Nat.sub_self, List.take_zero, List.takeWhile_nil]
    · exact hend.takeWhile_take _
  rw [List.take_append, hlength, List.take_of_length_le (by omega),
    List.takeWhile_append_of_pos (Numeral.isDigit_of_mem_padded_decimal width n), hrest,
    List.append_nil]

/-- Digits are read up to the first character that is none, or as many as there may be. -/
theorem digits?_append (hleast : least ≤ width) (hwidth : 0 < width) (hmost : width ≤ most)
    (hn : n < 10 ^ width) (hend : width = most ∨ DigitsEnd rest) :
    digits? least most (Numeral.padded width (Numeral.decimal n) ++ rest) = some (n, rest) := by
  have hlength := Numeral.length_padded hwidth hn
  simp only [digits?, takeWhile_padded_append hwidth hmost hn hend, hlength, Numeral.read?_padded,
    if_neg (Nat.not_lt.2 hleast)]
  rw [List.drop_append_of_le_length (by omega), List.drop_of_length_le (by omega),
    List.nil_append]

/-- Too few digits are not read. -/
theorem digits?_append_eq_none (hleast : width < least) (hwidth : 0 < width) (hmost : width ≤ most)
    (hn : n < 10 ^ width) (hend : DigitsEnd rest) :
    digits? least most (Numeral.padded width (Numeral.decimal n) ++ rest) = none := by
  simp only [digits?, takeWhile_padded_append hwidth hmost hn (.inr hend),
    Numeral.length_padded hwidth hn, if_pos hleast]

/-- In front of digits there is nothing to skip. -/
theorem trimStart_padded_append (width n : ℕ) (rest : List Char) :
    Chars.trimStart (Numeral.padded width (Numeral.decimal n) ++ rest) =
      Numeral.padded width (Numeral.decimal n) ++ rest := by
  have hdigits := Numeral.isDigit_of_mem_padded_decimal width n
  obtain ⟨c, cs, hcs⟩ := List.exists_cons_of_ne_nil
    (Numeral.ne_nil_of_read? (Numeral.read?_padded width n))
  rw [hcs] at hdigits ⊢
  rw [Chars.trimStart, List.cons_append, List.dropWhile_cons_of_neg]
  simp [Numeral.isBlank_of_isDigit (hdigits c List.mem_cons_self)]

/-- Behind digits there is nothing to skip. -/
theorem trimEnd_append_padded (width n : ℕ) (rest : List Char) :
    Chars.trimEnd (rest ++ Numeral.padded width (Numeral.decimal n)) =
      rest ++ Numeral.padded width (Numeral.decimal n) := by
  have hdigits := Numeral.isDigit_of_mem_padded_decimal width n
  obtain hnil | ⟨cs, c, hcs⟩ := List.eq_nil_or_concat' (Numeral.padded width (Numeral.decimal n))
  · exact absurd hnil (Numeral.ne_nil_of_read? (Numeral.read?_padded width n))
  · rw [hcs] at hdigits ⊢
    have hc := Numeral.isBlank_of_isDigit (hdigits c (by simp))
    simp [Chars.trimEnd, Chars.dropEndWhile, hc]

end DateTime

end BuildExpr
