import BuildExpr.Number.Integer
import BuildExpr.Proofs.Text.Trimming
import Mathlib.Data.Nat.Digits.Defs

/-!
# Reading integers

A number that is written in a base is read back from its digits (`Numeral.read?_text`), and a
decimal text of an integer, with a sign in front and blanks around, is read as that integer exactly
if it fits in 64 bits (`Integer.parse?_of_isDecimal`, `Integer.fit?_eq_some_iff`).
-/

namespace BuildExpr

namespace Chars

/-- Nothing is taken off a text without blanks. -/
theorem trim_of_not_blank {cs : List Char} (h : ∀ c ∈ cs, isBlank c = false) : trim cs = cs := by
  have hdrop (xs : List Char) (hxs : ∀ c ∈ xs, isBlank c = false) : xs.dropWhile isBlank = xs := by
    cases xs with
    | nil => rfl
    | cons c xs => exact List.dropWhile_cons_of_neg (by simp [hxs c List.mem_cons_self])
  rw [trim, trimStart, hdrop cs h, trimEnd, dropEndWhile,
    hdrop _ fun c hc => h c (List.mem_reverse.1 hc), List.reverse_reverse]

end Chars

namespace Numeral

/-! ## Digits -/

theorem isDigit_iff {c : Char} : isDigit c = true ↔ 48 ≤ c.toNat ∧ c.toNat ≤ 57 := by
  simp only [isDigit, Bool.and_eq_true, decide_eq_true_eq]
  exact Iff.rfl

theorem digit?_of_isDigit {c : Char} (h : isDigit c = true) :
    digit? 10 c = some (c.toNat - '0'.toNat) := by
  have hrange : '0' ≤ c ∧ c ≤ '9' := by simpa [isDigit] using h
  have hlt : c.toNat - '0'.toNat < 10 := by
    have := (isDigit_iff.1 h).2
    show c.toNat - 48 < 10
    omega
  rw [digit?, if_pos hrange, Option.filter_some, if_pos (by simpa using hlt)]

theorem decimal_ne_nil (n : ℕ) : decimal n ≠ [] := Nat.toDigits_ne_nil

theorem isDigit_of_mem_decimal (n : ℕ) : ∀ c ∈ decimal n, isDigit c = true := by
  intro c hc
  have hc' : c.isDigit = true := Nat.isDigit_of_mem_toDigits (by decide) (by decide) hc
  simpa [isDigit, Char.isDigit, Char.le_def] using hc'

theorem ofDigitChars_decimal (n : ℕ) : Nat.ofDigitChars 10 (decimal n) 0 = n :=
  Nat.ofDigitChars_ten_toDigits

/-- The digit of a number below the base has that number as its value. -/
theorem digit?_digitChar {base d : ℕ} (hbase : base ≤ 16) (hd : d < base) :
    digit? base (Nat.digitChar d) = some d := by
  have hvalue : ∀ d < 16, digit? 16 (Nat.digitChar d) = some d := by decide
  have hd16 := hvalue d (Nat.lt_of_lt_of_le hd hbase)
  rw [digit?, Option.filter_eq_some_iff] at hd16
  rw [digit?, Option.filter_eq_some_iff]
  exact ⟨hd16.1, by simpa using hd⟩

/-! ## Numbers -/

/-- Decimal digits stand for what they add up to. -/
theorem readOn_ten {cs : List Char} (h : ∀ c ∈ cs, isDigit c = true) (n : ℕ) :
    readOn 10 n cs = some (Nat.ofDigitChars 10 cs n) := by
  induction cs generalizing n with
  | nil => rfl
  | cons c cs ih =>
    obtain ⟨hc, hcs⟩ := List.forall_mem_cons.1 h
    rw [readOn, digit?_of_isDigit hc, Option.bind_some, ih hcs, Nat.mul_comm]
    rfl

theorem readOn_append (base n : ℕ) (xs ys : List Char) :
    readOn base n (xs ++ ys) = (readOn base n xs).bind fun m => readOn base m ys := by
  induction xs generalizing n with
  | nil => rfl
  | cons c xs ih =>
    rw [List.cons_append, readOn, readOn]
    cases digit? base c with
    | none => rfl
    | some d => exact ih _

/-- A number is read from the digits that it is written with. -/
theorem read?_text {base : ℕ} (hlow : 1 < base) (hhigh : base ≤ 16) (n : ℕ) :
    read? base (text base n) = some n := by
  have hread : readOn base 0 (text base n) = some n := by
    induction n using Nat.strongRecOn with
    | ind n ih =>
      rw [text]
      by_cases hn : n < base
      · rw [Nat.toDigits_of_lt_base hn, readOn, digit?_digitChar hhigh hn]
        simp [readOn]
      · have hbase : base ≤ n := Nat.le_of_not_lt hn
        have hdiv : n / base < n := Nat.div_lt_self (by omega) hlow
        rw [Nat.toDigits_of_base_le hlow hbase, readOn_append, ← text, ih _ hdiv,
          Option.bind_some, readOn, digit?_digitChar hhigh (Nat.mod_lt n (by omega)),
          Option.bind_some, readOn, Nat.div_add_mod']
  rw [read?, if_neg (by simp [text]), hread]

/-- What is read as a number holds digits only. -/
theorem isSome_digit?_of_readOn {base : ℕ} {cs : List Char} {n m : ℕ}
    (h : readOn base n cs = some m) : ∀ c ∈ cs, (digit? base c).isSome = true := by
  induction cs generalizing n with
  | nil => simp
  | cons c cs ih =>
    obtain ⟨d, hd, hrest⟩ := Option.bind_eq_some_iff.1 h
    exact List.forall_mem_cons.2 ⟨by rw [hd]; rfl, ih hrest⟩

theorem isSome_digit?_of_read? {base : ℕ} {cs : List Char} {n : ℕ} (h : read? base cs = some n) :
    ∀ c ∈ cs, (digit? base c).isSome = true := by
  rw [read?] at h
  split at h
  · cases h
  · exact isSome_digit?_of_readOn h

/-- Digits are characters of three ranges. -/
theorem range_of_digit? {base : ℕ} {c : Char} (h : (digit? base c).isSome = true) :
    (48 ≤ c.toNat ∧ c.toNat ≤ 57) ∨ (97 ≤ c.toNat ∧ c.toNat ≤ 102) ∨
      (65 ≤ c.toNat ∧ c.toNat ≤ 70) := by
  by_contra hrange
  rw [not_or, not_or] at hrange
  have hnone : digit? base c = none := by
    rw [digit?, if_neg (show ¬('0' ≤ c ∧ c ≤ '9') from hrange.1),
      if_neg (show ¬('a' ≤ c ∧ c ≤ 'f') from hrange.2.1),
      if_neg (show ¬('A' ≤ c ∧ c ≤ 'F') from hrange.2.2)]
    rfl
  rw [hnone] at h
  cases h

theorem isBlank_of_digit? {base : ℕ} {c : Char} (h : (digit? base c).isSome = true) :
    Chars.isBlank c = false := by
  have hrange := range_of_digit? h
  simp only [Chars.isBlank, Bool.or_eq_false_iff, Bool.and_eq_false_iff, decide_eq_false_iff_not,
    beq_eq_false_iff_ne]
  omega

/-- A character outside of the three ranges is in no number. -/
theorem not_mem_of_read? {base : ℕ} {cs : List Char} {n : ℕ} (h : read? base cs = some n) {c : Char}
    (hc : digit? base c = none) : c ∉ cs := by
  intro hmem
  have hsome := isSome_digit?_of_read? h c hmem
  rw [hc] at hsome
  cases hsome

theorem trim_of_read? {base : ℕ} {cs : List Char} {n : ℕ} (h : read? base cs = some n) :
    Chars.trim cs = cs :=
  Chars.trim_of_not_blank fun c hc => isBlank_of_digit? (isSome_digit?_of_read? h c hc)

end Numeral

namespace Integer

/-! ## Words -/

theorem toInt_bounds (w : Int64) : least ≤ w.toInt ∧ w.toInt ≤ greatest :=
  ⟨w.le_toInt, Int.le_of_lt_add_one w.toInt_lt⟩

/-- An integer is the value of a word exactly if it fits. -/
theorem fit?_eq_some_iff {n : ℤ} {w : Int64} : fit? n = some w ↔ w.toInt = n := by
  rw [fit?]
  constructor
  · intro h
    split at h
    · rename_i hn
      rw [← Option.some.inj h]
      exact Int64.toInt_ofInt_of_le hn.1 (Int.lt_add_one_of_le hn.2)
    · cases h
  · rintro rfl
    rw [if_pos (toInt_bounds w), Int64.ofInt_toInt]

theorem toInt_ofNat {n : ℕ} (hn : n < 2 ^ 63) : (Int64.ofInt n).toInt = n :=
  Int64.toInt_ofInt_of_le (by omega) (by
    show (n : ℤ) < 2 ^ 63
    omega)

theorem fit?_eq_none_iff {n : ℤ} : fit? n = none ↔ n < least ∨ greatest < n := by
  rw [fit?]
  split <;> simp <;> omega

/-! ## Signs -/

/-- The signs that may stand in front of digits, each with what it multiplies their number by. -/
def signs : List (List Char × ℤ) := [([], 1), (['+'], 1), (['-'], -1)]

theorem unit_of_mem_signs {sign : List Char} {unit : ℤ} (h : (sign, unit) ∈ signs) :
    unit = 1 ∨ unit = -1 := by
  have hunits : ∀ p ∈ signs, p.2 = 1 ∨ p.2 = -1 := by decide
  exact hunits _ h

theorem splitSign_of_read? {base : ℕ} {digits : List Char} {n : ℕ}
    (h : Numeral.read? base digits = some n) : splitSign digits = (false, digits) := by
  have hminus : '-' ∉ digits := Numeral.not_mem_of_read? h rfl
  have hplus : '+' ∉ digits := Numeral.not_mem_of_read? h rfl
  rw [splitSign]
  · rintro cs rfl
    exact hminus List.mem_cons_self
  · rintro cs rfl
    exact hplus List.mem_cons_self

theorem splitSign_append {base : ℕ} {digits sign : List Char} {unit : ℤ} {n : ℕ}
    (hsign : (sign, unit) ∈ signs) (h : Numeral.read? base digits = some n) :
    splitSign (sign ++ digits) = (decide (unit < 0), digits) := by
  simp only [signs, List.mem_cons, Prod.mk.injEq, List.not_mem_nil, or_false] at hsign
  rcases hsign with ⟨rfl, rfl⟩ | ⟨rfl, rfl⟩ | ⟨rfl, rfl⟩
  · exact splitSign_of_read? h
  · rfl
  · rfl

/-- A number behind a sign is read as an integer if it fits. -/
theorem readSigned?_append {base : ℕ} {digits sign : List Char} {unit : ℤ} {n : ℕ}
    (hsign : (sign, unit) ∈ signs) (h : Numeral.read? base digits = some n) :
    readSigned? base (sign ++ digits) = fit? (unit * n) := by
  have hunit : (if unit < 0 then -(n : ℤ) else n) = unit * n := by
    rcases unit_of_mem_signs hsign with rfl | rfl <;> simp
  simp [readSigned?, splitSign_append hsign h, h, hunit]

/-! ## Decimal texts -/

/-- The decimal texts of an integer, of any length: a sign or none, one or more digits, and blanks
around them. -/
def IsDecimal (cs : List Char) (n : ℤ) : Prop :=
  ∃ before sign unit digits after, Chars.Blank before ∧ Chars.Blank after ∧
    cs = before ++ (sign ++ digits) ++ after ∧ (sign, unit) ∈ signs ∧ digits ≠ [] ∧
    (∀ c ∈ digits, Numeral.isDigit c = true) ∧ n = unit * Nat.ofDigitChars 10 digits 0

/-- An integer is written as one of its decimal texts. -/
theorem isDecimal_chars (n : ℤ) : IsDecimal (chars n) n := by
  have hne := Numeral.decimal_ne_nil n.natAbs
  have hdigits := Numeral.isDigit_of_mem_decimal n.natAbs
  have hvalue := Numeral.ofDigitChars_decimal n.natAbs
  by_cases hn : n < 0
  · refine ⟨[], ['-'], -1, _, [], Chars.Blank.nil, Chars.Blank.nil, ?_, by decide, hne, hdigits, ?_⟩
    · rw [chars, if_pos hn, List.append_nil]
      rfl
    · rw [hvalue]
      omega
  · refine ⟨[], [], 1, _, [], Chars.Blank.nil, Chars.Blank.nil, ?_, by decide, hne, hdigits, ?_⟩
    · rw [chars, if_neg hn, List.append_nil]
      rfl
    · rw [hvalue]
      omega

theorem IsDecimal.of_chars {cs : List Char} {n : ℤ} (h : cs = chars n) : IsDecimal cs n :=
  h ▸ isDecimal_chars n

/-- What is left of a decimal text without the blanks around it. -/
theorem IsDecimal.exists_trim {cs : List Char} {n : ℤ} (h : IsDecimal cs n) :
    ∃ sign unit digits, Chars.trim cs = sign ++ digits ∧ (sign, unit) ∈ signs ∧
      (∀ c ∈ digits, Numeral.isDigit c = true) ∧ ∃ m : ℕ, Numeral.read? 10 digits = some m ∧
        n = unit * m := by
  obtain ⟨before, sign, unit, digits, after, hbefore, hafter, rfl, hsign, hne, hdigits, rfl⟩ := h
  have hread : Numeral.read? 10 digits = some (Nat.ofDigitChars 10 digits 0) := by
    rw [Numeral.read?, if_neg (by simpa using hne), Numeral.readOn_ten hdigits]
  refine ⟨sign, unit, digits, ?_, hsign, hdigits, _, hread, rfl⟩
  rw [Chars.trim_append hbefore hafter]
  refine Chars.trim_of_not_blank (List.forall_mem_append.2 ⟨fun c hc => ?_, fun c hc => ?_⟩)
  · simp only [signs, List.mem_cons, Prod.mk.injEq, List.not_mem_nil, or_false] at hsign
    rcases hsign with ⟨rfl, -⟩ | ⟨rfl, -⟩ | ⟨rfl, -⟩
    · cases hc
    · rw [List.mem_singleton.1 hc]
      rfl
    · rw [List.mem_singleton.1 hc]
      rfl
  · exact Numeral.isBlank_of_digit? (Numeral.isSome_digit?_of_read? hread c hc)

/-- A decimal text is read as its integer if that fits. -/
theorem parse?_of_isDecimal {s : String} {n : ℤ} (h : IsDecimal s.toList n) :
    parse? s = fit? n := by
  obtain ⟨sign, unit, digits, htrim, hsign, -, m, hread, rfl⟩ := h.exists_trim
  rw [parse?, htrim, readSigned?_append hsign hread]

theorem IsDecimal.isBlank {s : String} {n : ℤ} (h : IsDecimal s.toList n) :
    Text.isBlank s = false := by
  obtain ⟨before, sign, unit, digits, after, -, -, hs, -, hne, hdigits, -⟩ := h
  obtain ⟨c, digits, rfl⟩ := List.exists_cons_of_ne_nil hne
  have hsome : (Numeral.digit? 10 c).isSome = true := by
    rw [Numeral.digit?_of_isDigit (hdigits c List.mem_cons_self)]
    rfl
  have hc : Chars.isBlank c = false := Numeral.isBlank_of_digit? hsome
  rw [Text.isBlank, hs, List.all_eq_false]
  exact ⟨c, by simp, by simp [hc]⟩

end Integer

end BuildExpr
