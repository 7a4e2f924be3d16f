import BuildExpr.Proofs.Number.Arithmetic
import BuildExpr.Proofs.Number.Nearest

/-!
# Decimal texts as operands of bitwise operations

A decimal text of an integer that does not fit in 64 bits is read as the double nearest to the
integer, and a bitwise operation takes a double for the word at the end of the range if the word is
rounded to the same double. That is so for the double of 2 to the 63rd with either sign, hence for the
integers that are rounded to it (`Number.toWord?_ofInt`). All other decimal texts stand for their
integer or are refused (`ToolFunctions.bitwise_keeps_iff`).
-/

namespace BuildExpr

namespace Integer

/-- The integers above the range that are rounded to 2 to the 63rd. -/
def RoundsAbove (n : ℤ) : Prop := 2 ^ 63 ≤ n ∧ n ≤ 2 ^ 63 + 1024

/-- The integers below the range that are rounded to its least element. -/
def RoundsBelow (n : ℤ) : Prop := -2 ^ 63 - 1024 ≤ n ∧ n < -2 ^ 63

instance (n : ℤ) : Decidable (RoundsAbove n) := inferInstanceAs (Decidable (_ ∧ _))

instance (n : ℤ) : Decidable (RoundsBelow n) := inferInstanceAs (Decidable (_ ∧ _))

/-- The word that a bitwise operation takes an integer for. -/
def taken? (n : ℤ) : Option Int64 :=
  if RoundsAbove n then some Int64.maxValue
  else if RoundsBelow n then some Int64.minValue
  else fit? n

theorem taken?_of_fits {n : ℤ} (h : Fits n) : taken? n = fit? n := by
  obtain ⟨hlow, hhigh⟩ := h
  rw [taken?, if_neg fun habove : RoundsAbove n => Int.not_lt.2 habove.1 hhigh,
    if_neg fun hbelow : RoundsBelow n => Int.not_lt.2 hlow hbelow.2]

theorem natAbs_of_taken?_eq_none {n : ℤ} (h : taken? n = none) : 2 ^ 63 + 1025 ≤ n.natAbs := by
  rw [taken?] at h
  split at h
  · cases h
  · split at h
    · cases h
    · rename_i habove hbelow
      rw [RoundsAbove] at habove
      rw [RoundsBelow] at hbelow
      rw [fit?_eq_none_iff, least, greatest] at h
      omega

/-- The integers that are taken for themselves are those that are not rounded to an end of the
range. -/
theorem toInt_of_taken? {n : ℤ} {w : Int64} (h : taken? n = some w) :
    w.toInt = n ↔ ¬ RoundsAbove n ∧ ¬ RoundsBelow n := by
  constructor
  · rintro rfl
    obtain ⟨hlow, hhigh⟩ := fits_toInt w
    exact ⟨fun habove => Int.not_lt.2 habove.1 hhigh, fun hbelow => Int.not_lt.2 hlow hbelow.2⟩
  · rintro ⟨habove, hbelow⟩
    rw [taken?, if_neg habove, if_neg hbelow] at h
    exact fit?_eq_some_iff.1 h

end Integer

namespace Binary64

theorem nearestBits_of_between {m : ℕ} (hlow : 2 ^ 63 ≤ m) (hhigh : m ≤ 2 ^ 63 + 1024) :
    nearestBits m = nearestBits (2 ^ 63) := by
  have hend : nearestBits (2 ^ 63 + 1024) = nearestBits (2 ^ 63) := by decide
  refine Nat.le_antisymm ?_ (nearestBits_mono (by decide) hlow)
  rw [← hend]
  exact nearestBits_mono (by omega) hhigh

/-- No word is rounded to the double of an integer that is further away. -/
theorem ofInt_toInt_ne {n : ℤ} (hn : 2 ^ 63 + 1025 ≤ n.natAbs) (w : Int64) :
    (ofInt w.toInt == ofInt n) = false := by
  rw [Bool.eq_false_iff]
  intro hbeq
  have hbits := magnitudeBits_of_beq hbeq
  have hsteps : nearestBits (2 ^ 63) < nearestBits (2 ^ 63 + 1025) := by decide
  have hlarge : nearestBits (2 ^ 63 + 1025) ≤ nearestBits n.natAbs :=
    nearestBits_mono (by decide) hn
  rw [magnitudeBits_ofInt (by omega : n ≠ 0)] at hbits
  by_cases hw : w.toInt = 0
  · have hzero : magnitudeBits (ofInt 0) = 0 := by decide
    rw [hw, hzero] at hbits
    omega
  · have hword : nearestBits w.toInt.natAbs ≤ nearestBits (2 ^ 63) := by
      obtain ⟨hlow, hhigh⟩ := Integer.fits_toInt w
      exact nearestBits_mono (by omega) (by omega)
    rw [magnitudeBits_ofInt hw] at hbits
    omega

end Binary64

namespace Number

open Integer

/-- The double nearest to an integer that does not fit counts as a word at one end of the range, or
as none. -/
theorem toWord?_ofInt {n : ℤ} (h : ¬ Fits n) :
    toWord? (.double (Binary64.ofInt n)) = taken? n := by
  cases htaken : taken? n with
  | none =>
    have hword := Binary64.ofInt_toInt_ne (natAbs_of_taken?_eq_none htaken)
      (Binary64.toWord (Binary64.ofInt n))
    simp [toWord?, hword]
  | some w =>
    rw [taken?] at htaken
    split at htaken
    · rename_i habove
      obtain ⟨hlow, hhigh⟩ := habove
      have hsign : decide (n < 0) = false := decide_eq_false (by omega)
      rw [← htaken, Binary64.ofInt_of_ne_zero (by omega), hsign,
        Binary64.nearestBits_of_between (by omega) (by omega)]
      decide
    · split at htaken
      · rename_i hbelow
        obtain ⟨hlow, hhigh⟩ := hbelow
        have hsign : decide (n < 0) = true := decide_eq_true (by omega)
        rw [← htaken, Binary64.ofInt_of_ne_zero (by omega), hsign,
          Binary64.nearestBits_of_between (by omega) (by omega)]
        decide
      · rw [fit?_of_not_fits h] at htaken
        cases htaken

/-- A decimal text is a number, and a bitwise operation takes that number for the word of the
integer. -/
theorem exists_parse? {s : String} {n : ℤ} (h : IsDecimal s.toList n) :
    ∃ x, parse? s = some x ∧ x.toWord? = taken? n := by
  rw [parse?, parse?_of_isDecimal h]
  by_cases hfits : Fits n
  · obtain ⟨w, -, hw⟩ := fit?_of_fits hfits
    rw [taken?_of_fits hfits, hw]
    exact ⟨_, rfl, rfl⟩
  · have hne : n ≠ 0 := by
      rintro rfl
      exact hfits ⟨by decide, by decide⟩
    rw [fit?_of_not_fits hfits, Binary64.parse?_of_isDecimal h hne]
    exact ⟨_, rfl, toWord?_ofInt hfits⟩

end Number

namespace ToolFunctions

open Arguments FunctionTable Integer

/-- The bitwise functions of two operands, each with the operand that leaves the other one as it
is. -/
def bitwiseUnits : List (String × Int64) :=
  [("BitwiseAnd", -1), ("BitwiseOr", 0), ("BitwiseXor", 0)]

variable {member s : String} {unit : Int64} {n : ℤ} {v : Value}

theorem answers_bitwise (h : (member, unit) ∈ bitwiseUnits) (w : Value) :
    ∃ op : Int64 → Int64 → Int64, (∀ m, op m unit = m) ∧
      Answers "MSBuild" member [w, v] (bitwise op [w, v]) := by
  simp only [bitwiseUnits, List.mem_cons, Prod.mk.injEq, List.not_mem_nil, or_false] at h
  rcases h with ⟨rfl, rfl⟩ | ⟨rfl, rfl⟩ | ⟨rfl, rfl⟩
  · exact ⟨_, fun m => Int64.and_neg_one, answers_tool "bitwiseand" (by rfl) (by rfl) w v⟩
  · exact ⟨_, fun m => Int64.or_zero, answers_tool "bitwiseor" (by rfl) (by rfl) w v⟩
  · exact ⟨_, fun m => Int64.xor_zero, answers_tool "bitwisexor" (by rfl) (by rfl) w v⟩

theorem bitwise_of_isDecimal {op : Int64 → Int64 → Int64} (hop : ∀ m, op m unit = m)
    (hs : IsDecimal s.toList n) (hv : IsOperand v unit) :
    ∃ e, bitwise op [.text s, v] = (taken? n).elim (.error e) fun w => .ok (.int w) := by
  obtain ⟨x, hx, hword⟩ := Number.exists_parse? hs
  have hfirst : number [.text s, v] 0 = .ok x := by
    rw [number, value, List.getD_cons_zero, number?, if_neg (by simp [hs.isBlank]), hx, wants]
  have hbitwise : Number.bitwise? op x (.int unit) = (taken? n).map .int := by
    rw [Number.bitwise?, hword]
    simp only [Number.toWord?, Option.map_some, hop]
    exact Option.map_eq_bind.symm
  refine ⟨.fault (.bitwiseOperands (Value.ofNumber x).display (Value.ofNumber (.int unit)).display),
    ?_⟩
  rw [bitwise, hfirst, number_second _ hv]
  simp only [bind, Except.bind, hbitwise]
  cases taken? n <;> rfl

theorem answers_taken (h : (member, unit) ∈ bitwiseUnits) (hs : IsDecimal s.toList n)
    (hv : IsOperand v unit) : ∃ e, Answers "MSBuild" member [.text s, v]
      ((taken? n).elim (.error e) fun w => .ok (.int w)) := by
  obtain ⟨op, hop, hanswers⟩ := answers_bitwise (v := v) h (.text s)
  obtain ⟨e, he⟩ := bitwise_of_isDecimal hop hs hv
  exact ⟨e, he ▸ hanswers⟩

/-- A bitwise function that is to leave its first operand as it is either fails or gives just the
integer that the operand is a decimal text of, unless that integer lies outside of 64 bits and is
rounded to 2 to the 63rd or to minus that. -/
theorem bitwise_keeps_iff (h : (member, unit) ∈ bitwiseUnits) (hs : IsDecimal s.toList n)
    (hv : IsOperand v unit) :
    ((∃ e, Answers "MSBuild" member [.text s, v] (.error e)) ∨
        ∃ w : Int64, w.toInt = n ∧ Answers "MSBuild" member [.text s, v] (.ok (.int w))) ↔
      ¬(2 ^ 63 ≤ n ∧ n ≤ 2 ^ 63 + 1024) ∧ ¬(-2 ^ 63 - 1024 ≤ n ∧ n < -2 ^ 63) := by
  obtain ⟨e, hanswers⟩ := answers_taken h hs hv
  cases htaken : taken? n with
  | none =>
    rw [htaken] at hanswers
    have hfar := natAbs_of_taken?_eq_none htaken
    exact iff_of_true (.inl ⟨e, hanswers⟩) ⟨by omega, by omega⟩
  | some w =>
    rw [htaken] at hanswers
    refine Iff.trans ⟨?_, fun hw => .inr ⟨w, hw, hanswers⟩⟩ (toInt_of_taken? htaken)
    rintro (⟨e, he⟩ | ⟨u, hu, hanswer⟩)
    · cases Answers.unique hanswers he
    · cases Answers.unique hanswers hanswer
      exact hu

/-- Two to the 64th is refused. -/
theorem bitwise_keeps_iff_of_far :
    ("BitwiseAnd", -1) ∈ bitwiseUnits ∧ IsDecimal "18446744073709551616".toList (2 ^ 64) ∧
      IsOperand (.int (-1)) (-1) ∧
      ((∃ e, Answers "MSBuild" "BitwiseAnd" [.text "18446744073709551616", .int (-1)] (.error e)) ∨
        ∃ w : Int64, w.toInt = 2 ^ 64 ∧
          Answers "MSBuild" "BitwiseAnd" [.text "18446744073709551616", .int (-1)]
            (.ok (.int w))) := by
  have hs : IsDecimal "18446744073709551616".toList (2 ^ 64) :=
    .of_chars (by decide)
  have hmember : ("BitwiseAnd", -1) ∈ bitwiseUnits := by decide
  exact ⟨hmember, hs, .int _, (bitwise_keeps_iff hmember hs (.int _)).2 ⟨by decide, by decide⟩⟩

/-- Two to the 63rd, with zero, does not fail and gives the greatest word, which is less by one. -/
theorem exists_bitwise_ne :
    IsDecimal "9223372036854775808".toList (2 ^ 63) ∧ IsOperand (.text "0") 0 ∧
      Answers "MSBuild" "BitwiseOr" [.text "9223372036854775808", .text "0"]
        (.ok (.int Int64.maxValue)) ∧
      ¬((∃ e, Answers "MSBuild" "BitwiseOr" [.text "9223372036854775808", .text "0"] (.error e)) ∨
        ∃ w : Int64, w.toInt = 2 ^ 63 ∧
          Answers "MSBuild" "BitwiseOr" [.text "9223372036854775808", .text "0"]
            (.ok (.int w))) := by
  have hs : IsDecimal "9223372036854775808".toList (2 ^ 63) :=
    .of_chars (by decide)
  have hzero : IsOperand (.text "0") 0 := .decimal (.of_chars (by decide))
  have htaken : taken? (2 ^ 63) = some Int64.maxValue := by decide
  obtain ⟨e, hanswers⟩ := answers_taken (by decide : ("BitwiseOr", 0) ∈ bitwiseUnits) hs hzero
  rw [htaken] at hanswers
  refine ⟨hs, hzero, hanswers, ?_⟩
  rintro (⟨e, he⟩ | ⟨w, hw, hanswer⟩)
  · cases Answers.unique hanswers he
  · cases Answers.unique hanswers hanswer
    exact absurd hw (by decide)

end ToolFunctions

end BuildExpr
