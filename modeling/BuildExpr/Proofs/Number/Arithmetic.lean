import BuildExpr.Proofs.Evaluation.Answers
import BuildExpr.Proofs.Number.Reading

/-!
# Arithmetic on integers

An operand that stands for an integer of 64 bits is taken as that integer
(`Arguments.number?_of_isOperand`). Sums, differences and products of such operands are exact as
long as they fit in 64 bits and are doubles otherwise (`ToolFunctions.givesInteger_of_combine`). A
division fails by zero alone. Its quotient fits except in one case (`Integer.fits_tdiv`), and
otherwise quotient and remainder make up the dividend (`ToolFunctions.integer_arithmetic`).
-/

namespace BuildExpr

namespace Integer

/-- An integer fits in 64 bits. -/
def Fits (n : ℤ) : Prop := -2 ^ 63 ≤ n ∧ n < 2 ^ 63

theorem fits_toInt (w : Int64) : Fits w.toInt := ⟨w.le_toInt, w.toInt_lt⟩

theorem fit?_of_fits {n : ℤ} (h : Fits n) : ∃ w : Int64, w.toInt = n ∧ fit? n = some w :=
  ⟨Int64.ofInt n, Int64.toInt_ofInt_of_le h.1 h.2,
    fit?_eq_some_iff.2 (Int64.toInt_ofInt_of_le h.1 h.2)⟩

theorem fit?_of_not_fits {n : ℤ} (h : ¬ Fits n) : fit? n = none := by
  rw [fit?_eq_none_iff, least, greatest]
  by_contra hn
  exact h ⟨by omega, by omega⟩

/-! ## Division toward zero -/

/-- The one quotient that does not fit is that of the least integer and minus one. -/
theorem fits_tdiv {a b : ℤ} (ha : Fits a) (hb : b ≠ 0) :
    Fits (a.tdiv b) ↔ ¬(a = -2 ^ 63 ∧ b = -1) := by
  constructor
  · rintro ⟨-, hhigh⟩ ⟨rfl, rfl⟩
    exact absurd hhigh (by decide)
  · intro h
    obtain ⟨hlow, hhigh⟩ := ha
    by_cases hone : b.natAbs = 1
    · rcases Int.natAbs_eq b with hb' | hb' <;> rw [hone] at hb' <;> rw [hb'] at h ⊢
      · simpa using ⟨hlow, hhigh⟩
      · rw [Nat.cast_one, Int.tdiv_neg, Int.tdiv_one]
        have hleast : a ≠ -2 ^ 63 := fun ha => h ⟨ha, rfl⟩
        constructor <;> omega
    · -- a divisor of two or more leaves half of the dividend at most
      have hhalf : (a.tdiv b).natAbs ≤ a.natAbs / 2 := by
        rw [Int.natAbs_tdiv]
        exact Nat.div_le_div_left (by omega) (by decide)
      constructor <;> omega

/-- A remainder has the sign of the dividend or is zero. -/
theorem tmod_between (a b : ℤ) : (a.tmod b).natAbs ≤ a.natAbs ∧
    (a.tmod b = 0 ∨ (a.tmod b).sign = a.sign) := by
  refine ⟨by rw [Int.natAbs_tmod]; exact Nat.mod_le _ _, ?_⟩
  rw [← Int.sign_eq_zero_iff_zero, Int.sign_tmod]
  split
  · exact .inl rfl
  · exact .inr rfl

/-- The part of the dividend that the quotient accounts for fits like the dividend. -/
theorem fits_tdiv_mul {a : ℤ} (ha : Fits a) (b : ℤ) : Fits (a.tdiv b * b) := by
  have hsum := Int.tdiv_mul_add_tmod a b
  obtain ⟨hle, hsign⟩ := tmod_between a b
  obtain ⟨hlow, hhigh⟩ := ha
  have hcases : (0 ≤ a ∧ 0 ≤ a.tmod b) ∨ (a ≤ 0 ∧ a.tmod b ≤ 0) := by
    rcases hsign with hzero | hsign
    · omega
    · rcases lt_trichotomy a 0 with h | h | h
      · rw [Int.sign_eq_neg_one_of_neg h, Int.sign_eq_neg_one_iff_neg] at hsign
        omega
      · rw [h] at hle
        omega
      · rw [Int.sign_eq_one_of_pos h, Int.sign_eq_one_iff_pos] at hsign
        omega
  constructor <;> omega

end Integer

namespace Arguments

/-- The values that stand for an integer as an operand: the integer itself, a decimal text of it,
and for zero also no object and an empty or blank text. -/
inductive IsOperand : Value → Int64 → Prop
  | int (n : Int64) : IsOperand (.int n) n
  | decimal {s : String} {n : Int64} (h : Integer.IsDecimal s.toList n.toInt) :
    IsOperand (.text s) n
  | null : IsOperand .null 0
  | blank {s : String} (h : Text.isBlank s = true) : IsOperand (.text s) 0

variable {v w : Value} {a b : Int64}

theorem number?_of_isOperand (h : IsOperand v a) : number? v = some (.int a) := by
  cases h with
  | int => rfl
  | decimal h =>
    rw [number?, if_neg (by rw [h.isBlank]; exact Bool.false_ne_true), Number.parse?,
      Integer.parse?_of_isDecimal h, Integer.fit?_eq_some_iff.2 rfl]
  | null => rfl
  | blank h => exact if_pos h

theorem number_first (h : IsOperand v a) (w : Value) : number [v, w] 0 = .ok (.int a) := by
  rw [number, value, List.getD_cons_zero, number?_of_isOperand h, wants]

theorem number_second (v : Value) (h : IsOperand w b) : number [v, w] 1 = .ok (.int b) := by
  rw [number, value, List.getD_cons_succ, List.getD_cons_zero, number?_of_isOperand h, wants]

end Arguments

namespace ToolFunctions

open Arguments FunctionTable

variable {v w : Value} {a b : Int64} {member : String}

/-! ## The functions of arithmetic -/

/-- A function of the tool answers two operands with an integer if that fits in 64 bits, and with a
double otherwise. -/
structure GivesInteger (member : String) (v w : Value) (r : ℤ) (x : Float) : Prop where
  integer_iff : (∃ n : Int64, n.toInt = r ∧ Answers "MSBuild" member [v, w] (.ok (.int n))) ↔
    -2 ^ 63 ≤ r ∧ r < 2 ^ 63
  double : ¬(-2 ^ 63 ≤ r ∧ r < 2 ^ 63) → Answers "MSBuild" member [v, w] (.ok (.double x))

/-- What a function of the tool with two operands answers is what its entry in the table gives. -/
theorem answers_tool (name : String) {run : List Value → Answer Value}
    (hmember : memberKey member = name)
    (hfind : FunctionTable.find? FunctionTable.statics type name =
      some (.pure type name 2 2 run)) (v w : Value) :
    Answers "MSBuild" member [v, w] (run [v, w]) :=
  answers_of_resolve (resolveStatic_of_find (by rfl) hmember hfind rfl)

theorem givesInteger_of_combine {exact : ℤ → ℤ → ℤ} {rounded : Float → Float → Float}
    (h : Answers "MSBuild" member [v, w]
      (.ok (.ofNumber (Number.combine exact rounded (.int a) (.int b))))) :
    GivesInteger member v w (exact a.toInt b.toInt)
      (rounded (Binary64.ofInt a.toInt) (Binary64.ofInt b.toInt)) := by
  rw [Number.combine] at h
  refine ⟨⟨?_, fun hfits => ?_⟩, fun hfits => ?_⟩
  · rintro ⟨n, hn, -⟩
    exact hn ▸ Integer.fits_toInt n
  · obtain ⟨n, hn, hfit⟩ := Integer.fit?_of_fits hfits
    rw [hfit] at h
    exact ⟨n, hn, h⟩
  · rw [Integer.fit?_of_not_fits hfits] at h
    exact h

theorem givesInteger_of_arithmetic {exact : ℤ → ℤ → ℤ} {rounded : Float → Float → Float}
    (h : Answers "MSBuild" member [v, w] (arithmetic (Number.combine exact rounded) [v, w]))
    (hv : IsOperand v a) (hw : IsOperand w b) :
    GivesInteger member v w (exact a.toInt b.toInt)
      (rounded (Binary64.ofInt a.toInt) (Binary64.ofInt b.toInt)) := by
  rw [arithmetic, number_first hv, number_second v hw] at h
  exact givesInteger_of_combine h

theorem division_of_isOperand (op : Number → Number → Option Number) (hv : IsOperand v a)
    (hw : IsOperand w b) :
    division op [v, w] =
      Value.ofNumber <$> Answer.orRefuse .divisionByZero (op (.int a) (.int b)) := by
  rw [division, number_first hv, number_second v hw]
  show (Answer.orRefuse .divisionByZero (op (.int a) (.int b)) >>= fun n =>
    pure (Value.ofNumber n)) = _
  cases op (.int a) (.int b) <;> rfl

theorem div?_eq (x y : Number) : Number.div? x y =
    if Number.dividesByZero x y then none else some (Number.combine Int.tdiv (· / ·) x y) := rfl

theorem mod?_eq (x y : Number) : Number.mod? x y =
    if Number.dividesByZero x y then none
    else some (Number.combine Int.tmod Binary64.remainder x y) := rfl

theorem dividesByZero_iff : Number.dividesByZero (.int a) (.int b) = true ↔ b = 0 := by
  rw [Number.dividesByZero, Number.isIntegerZero, beq_iff_eq]

/-- A function that refuses to divide by zero and otherwise combines its operands. -/
theorem division_eq {op : Number → Number → Option Number} {exact : ℤ → ℤ → ℤ}
    {rounded : Float → Float → Float}
    (hop : ∀ x y, op x y = if Number.dividesByZero x y then none
      else some (Number.combine exact rounded x y)) (hv : IsOperand v a) (hw : IsOperand w b) :
    division op [v, w] = if b = 0 then Answer.refuse .divisionByZero
      else .ok (.ofNumber (Number.combine exact rounded (.int a) (.int b))) := by
  rw [division_of_isOperand op hv hw, hop]
  simp only [dividesByZero_iff]
  split <;> rfl

theorem givesInteger_of_division {op : Number → Number → Option Number} {exact : ℤ → ℤ → ℤ}
    {rounded : Float → Float → Float}
    (hop : ∀ x y, op x y = if Number.dividesByZero x y then none
      else some (Number.combine exact rounded x y))
    (h : Answers "MSBuild" member [v, w] (division op [v, w])) (hv : IsOperand v a)
    (hw : IsOperand w b) (hb : b ≠ 0) :
    GivesInteger member v w (exact a.toInt b.toInt)
      (rounded (Binary64.ofInt a.toInt) (Binary64.ofInt b.toInt)) := by
  rw [division_eq hop hv hw, if_neg hb] at h
  exact givesInteger_of_combine h

theorem answers_divide (v w : Value) :
    Answers "MSBuild" "Divide" [v, w] (division Number.div? [v, w]) :=
  answers_tool "divide" (by rfl) (by rfl) v w

theorem answers_modulo (v w : Value) :
    Answers "MSBuild" "Modulo" [v, w] (division Number.mod? [v, w]) :=
  answers_tool "modulo" (by rfl) (by rfl) v w

theorem givesInteger_add (hv : IsOperand v a) (hw : IsOperand w b) :
    GivesInteger "Add" v w (a.toInt + b.toInt)
      (Binary64.ofInt a.toInt + Binary64.ofInt b.toInt) :=
  givesInteger_of_arithmetic (answers_tool "add" (by rfl) (by rfl) v w) hv hw

theorem givesInteger_subtract (hv : IsOperand v a) (hw : IsOperand w b) :
    GivesInteger "Subtract" v w (a.toInt - b.toInt)
      (Binary64.ofInt a.toInt - Binary64.ofInt b.toInt) :=
  givesInteger_of_arithmetic (answers_tool "subtract" (by rfl) (by rfl) v w) hv hw

theorem givesInteger_multiply (hv : IsOperand v a) (hw : IsOperand w b) :
    GivesInteger "Multiply" v w (a.toInt * b.toInt)
      (Binary64.ofInt a.toInt * Binary64.ofInt b.toInt) :=
  givesInteger_of_arithmetic (answers_tool "multiply" (by rfl) (by rfl) v w) hv hw

theorem givesInteger_divide (hv : IsOperand v a) (hw : IsOperand w b) (hb : b ≠ 0) :
    GivesInteger "Divide" v w (a.toInt.tdiv b.toInt)
      (Binary64.ofInt a.toInt / Binary64.ofInt b.toInt) :=
  givesInteger_of_division div?_eq (answers_divide v w) hv hw hb

theorem givesInteger_modulo (hv : IsOperand v a) (hw : IsOperand w b) (hb : b ≠ 0) :
    GivesInteger "Modulo" v w (a.toInt.tmod b.toInt)
      (Binary64.remainder (Binary64.ofInt a.toInt) (Binary64.ofInt b.toInt)) :=
  givesInteger_of_division mod?_eq (answers_modulo v w) hv hw hb

/-! ## Division -/

/-- A function that always gives a number has no failure. -/
theorem GivesInteger.not_answers_error {r : ℤ} {x : Float} (h : GivesInteger member v w r x)
    (e : Failure) : ¬ Answers "MSBuild" member [v, w] (.error e) := by
  intro he
  by_cases hfits : -2 ^ 63 ≤ r ∧ r < 2 ^ 63
  · obtain ⟨n, -, hn⟩ := h.integer_iff.2 hfits
    cases hn.unique he
  · cases (h.double hfits).unique he

theorem exists_answers_error_iff {op : Number → Number → Option Number} {exact : ℤ → ℤ → ℤ}
    {rounded : Float → Float → Float}
    (hop : ∀ x y, op x y = if Number.dividesByZero x y then none
      else some (Number.combine exact rounded x y)) (hv : IsOperand v a) (hw : IsOperand w b)
    (h : Answers "MSBuild" member [v, w] (division op [v, w])) :
    (∃ e, Answers "MSBuild" member [v, w] (.error e)) ↔ b = 0 := by
  rw [division_eq hop hv hw] at h
  by_cases hb : b = 0
  · rw [if_pos hb] at h
    exact ⟨fun _ => hb, fun _ => ⟨_, h⟩⟩
  · rw [if_neg hb] at h
    exact ⟨fun ⟨e, he⟩ => absurd he ((givesInteger_of_combine h).not_answers_error e),
      fun hzero => absurd hzero hb⟩

/-- Quotient and remainder make up the dividend, in the functions that put numbers together
again. -/
theorem exists_quotient (hv : IsOperand v a) (hw : IsOperand w b) (hb : b ≠ 0)
    (hcase : ¬(a.toInt = -2 ^ 63 ∧ b.toInt = -1)) :
    ∃ q m p : Int64, Answers "MSBuild" "Divide" [v, w] (.ok (.int q)) ∧
      q.toInt = a.toInt.tdiv b.toInt ∧ Answers "MSBuild" "Modulo" [v, w] (.ok (.int m)) ∧
      Answers "MSBuild" "Multiply" [.int q, w] (.ok (.int p)) ∧
      Answers "MSBuild" "Add" [.int p, .int m] (.ok (.int a)) ∧
      m.toInt.natAbs < b.toInt.natAbs ∧ (m = 0 ∨ m.toInt.sign = a.toInt.sign) := by
  have hb' : b.toInt ≠ 0 := fun h => hb (Int64.toInt_inj.1 h)
  have ha := Integer.fits_toInt a
  obtain ⟨hle, hsign⟩ := Integer.tmod_between a.toInt b.toInt
  have hlt : (a.toInt.tmod b.toInt).natAbs < b.toInt.natAbs := by
    rw [Int.natAbs_tmod]
    exact Nat.mod_lt _ (Int.natAbs_pos.2 hb')
  have hrem : Integer.Fits (a.toInt.tmod b.toInt) := by
    obtain ⟨hlow, hhigh⟩ := Integer.fits_toInt b
    constructor <;> omega
  obtain ⟨q, hq, hdivide⟩ := (givesInteger_divide hv hw hb).integer_iff.2
    ((Integer.fits_tdiv ha hb').2 hcase)
  obtain ⟨m, hm, hmodulo⟩ := (givesInteger_modulo hv hw hb).integer_iff.2 hrem
  obtain ⟨p, hp, hmultiply⟩ := (givesInteger_multiply (.int q) hw).integer_iff.2
    (by rw [hq]; exact Integer.fits_tdiv_mul ha b.toInt)
  have hsum : p.toInt + m.toInt = a.toInt := by rw [hp, hq, hm, Int.tdiv_mul_add_tmod]
  obtain ⟨n, hn, hadd⟩ := (givesInteger_add (.int p) (.int m)).integer_iff.2
    (by rw [hsum]; exact ha)
  obtain rfl : n = a := Int64.toInt_inj.1 (hn.trans hsum)
  rw [← hm] at hlt hsign
  exact ⟨q, m, p, hdivide, hq, hmodulo, hmultiply, hadd, hlt,
    hsign.imp_left fun h => Int64.toInt_inj.1 h⟩

/-- Sums, differences and products of integers are exact if they fit in 64 bits, and doubles
otherwise. A division fails exactly if the divisor is zero; its quotient is cut toward zero, or a
double in the one case where it does not fit, and in all other cases quotient and remainder make up
the dividend, with a remainder that is less than the divisor and has the sign of the dividend. -/
theorem integer_arithmetic (hv : IsOperand v a) (hw : IsOperand w b) :
    GivesInteger "Add" v w (a.toInt + b.toInt)
        (Binary64.ofInt a.toInt + Binary64.ofInt b.toInt) ∧
      GivesInteger "Subtract" v w (a.toInt - b.toInt)
        (Binary64.ofInt a.toInt - Binary64.ofInt b.toInt) ∧
      GivesInteger "Multiply" v w (a.toInt * b.toInt)
        (Binary64.ofInt a.toInt * Binary64.ofInt b.toInt) ∧
      ((∃ e, Answers "MSBuild" "Divide" [v, w] (.error e)) ↔ b = 0) ∧
      ((∃ e, Answers "MSBuild" "Modulo" [v, w] (.error e)) ↔ b = 0) ∧
      (a.toInt = -2 ^ 63 → b.toInt = -1 → Answers "MSBuild" "Divide" [v, w]
        (.ok (.double (Binary64.ofInt a.toInt / Binary64.ofInt b.toInt)))) ∧
      (b ≠ 0 → ¬(a.toInt = -2 ^ 63 ∧ b.toInt = -1) →
        ∃ q m p : Int64, Answers "MSBuild" "Divide" [v, w] (.ok (.int q)) ∧
          q.toInt = a.toInt.tdiv b.toInt ∧ Answers "MSBuild" "Modulo" [v, w] (.ok (.int m)) ∧
          Answers "MSBuild" "Multiply" [.int q, w] (.ok (.int p)) ∧
          Answers "MSBuild" "Add" [.int p, .int m] (.ok (.int a)) ∧
          m.toInt.natAbs < b.toInt.natAbs ∧ (m = 0 ∨ m.toInt.sign = a.toInt.sign)) := by
  refine ⟨givesInteger_add hv hw, givesInteger_subtract hv hw, givesInteger_multiply hv hw,
    exists_answers_error_iff div?_eq hv hw (answers_divide v w),
    exists_answers_error_iff mod?_eq hv hw (answers_modulo v w), fun ha hb => ?_,
    exists_quotient hv hw⟩
  have hne : b ≠ 0 := by
    rintro rfl
    cases hb
  refine (givesInteger_divide hv hw hne).double fun hfits => ?_
  exact (Integer.fits_tdiv (Integer.fits_toInt a) (by omega)).1 hfits ⟨ha, hb⟩

/-- The least integer as a text, with minus one and with nothing, and a division that leaves a
remainder. -/
theorem integer_arithmetic_of_least :
    IsOperand (.text "-9223372036854775808") Int64.minValue ∧ IsOperand (.text "-1") (-1) ∧
      Answers "MSBuild" "Add" [.text "-9223372036854775808", .text "-1"]
        (.ok (.double (Binary64.ofInt (-2 ^ 63) + Binary64.ofInt (-1)))) ∧
      Answers "MSBuild" "Divide" [.text "-9223372036854775808", .text "-1"]
        (.ok (.double (Binary64.ofInt (-2 ^ 63) / Binary64.ofInt (-1)))) ∧
      (∃ e, Answers "MSBuild" "Modulo" [.text "-9223372036854775808", .null] (.error e)) ∧
      ∃ q m p : Int64, Answers "MSBuild" "Divide" [.int (-7), .int 2] (.ok (.int q)) ∧
        q.toInt = -3 ∧ Answers "MSBuild" "Modulo" [.int (-7), .int 2] (.ok (.int m)) ∧
        Answers "MSBuild" "Multiply" [.int q, .int 2] (.ok (.int p)) ∧
        Answers "MSBuild" "Add" [.int p, .int m] (.ok (.int (-7))) ∧
        m.toInt.natAbs < 2 ∧ (m = 0 ∨ m.toInt.sign = -1) := by
  have hleast : IsOperand (.text "-9223372036854775808") Int64.minValue :=
    .decimal (.of_chars (by decide))
  have hminus : IsOperand (.text "-1") (-1) := .decimal (.of_chars (by decide))
  obtain ⟨hadd, -, -, -, -, hdivide, -⟩ := integer_arithmetic hleast hminus
  obtain ⟨-, -, -, -, hmodulo, -⟩ := integer_arithmetic hleast .null
  obtain ⟨-, -, -, -, -, -, hparts⟩ := integer_arithmetic (.int (-7)) (.int 2)
  exact ⟨hleast, hminus, hadd.double (by decide), hdivide rfl rfl, hmodulo.2 rfl,
    hparts (by decide) (by decide)⟩

end ToolFunctions

end BuildExpr
