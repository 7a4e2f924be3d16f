import BuildExpr.Number.Arithmetic
import BuildExpr.Proofs.Number.Reading
import Mathlib

/-!
# The doubles nearest to integers

A double is known by its sign and the other 63 bits (`Binary64.magnitudeBits_ofSignBits`). The bits
of the double nearest to a positive integer grow with the integer (`Binary64.nearestBits_mono`), so
integers beyond those that are rounded to a power of two are rounded to other doubles. A decimal text
of an integer that is not zero is read as the double nearest to it (`Binary64.parse?_of_isDecimal`).
-/

namespace BuildExpr

namespace Binary64

/-! ## Bits -/

/-- The bits of a double but that of its sign. -/
def magnitudeBits (x : Float) : ℕ := x.toBits.toNat % signBit

section

open Float.Model Float.Model.UnpackedFloat

theorem toNat_unpackExponent (b : BitVec Format.binary64.numBits) :
    (unpackExponent b).toNat = b.toNat / 4503599627370496 % 2048 := by
  simp [unpackExponent, BitVec.extractLsb, BitVec.extractLsb', Nat.shiftRight_eq_div_pow]

theorem toNat_unpackMantissa (b : BitVec Format.binary64.numBits) :
    (unpackMantissa b).toNat = b.toNat % 4503599627370496 := by
  simp [unpackMantissa, BitVec.extractLsb, BitVec.extractLsb']

/-- Bits up to those of infinity are the bits of a double. -/
theorem toBits_ofBits {u : UInt64} (h : u.toNat % signBit ≤ infinityBits) :
    (Float.ofBits u).toBits = u := by
  have hnan : isNaNBits (show BitVec Format.binary64.numBits from u.toBitVec) = false := by
    rw [isNaNBits, decide_eq_false_iff_not]
    rintro ⟨hexponent, hmantissa⟩
    have hexponent := congrArg BitVec.toNat hexponent
    have hmantissa := mt BitVec.eq_of_toNat_eq hmantissa
    rw [toNat_unpackExponent] at hexponent
    rw [toNat_unpackMantissa] at hmantissa
    have hnat : u.toBitVec.toNat = u.toNat := rfl
    have hones : (-BitVec.ofNat Format.binary64.exponentBits 1).toNat = 2047 := rfl
    have hzero : (BitVec.ofNat Format.binary64.mantissaBitsWithoutImplicit 0).toNat = 0 := rfl
    rw [hnat, hones] at hexponent
    rw [hnat, hzero] at hmantissa
    rw [signBit, infinityBits, leadingBit] at h
    omega
  show UInt64.ofBitVec (pack Format.binary64 (unpack Format.binary64 u.toBitVec)) = u
  rw [pack_unpack, hnan]
  rfl

end

theorem magnitudeBits_ofSignBits (negative : Bool) {bits : ℕ} (h : bits ≤ infinityBits) :
    magnitudeBits (ofSignBits negative bits) = bits := by
  have hlt : bits < signBit := Nat.lt_of_le_of_lt h (by decide)
  have hmod : (if negative then signBit + bits else bits) % signBit = bits := by
    cases negative
    · exact Nat.mod_eq_of_lt hlt
    · show (signBit + bits) % signBit = bits
      rw [Nat.add_mod_left, Nat.mod_eq_of_lt hlt]
  have hnat : (UInt64.ofNat (if negative then signBit + bits else bits)).toNat =
      if negative then signBit + bits else bits := by
    refine UInt64.toNat_ofNat_of_lt' ?_
    rw [signBit] at hlt ⊢
    split <;> simp [UInt64.size] <;> omega
  rw [magnitudeBits, ofSignBits, toBits_ofBits (by rw [hnat, hmod]; exact h), hnat, hmod]

/-- Doubles that are equal as numbers have the same bits but for the sign. -/
theorem magnitudeBits_of_beq {x y : Float} (h : (x == y) = true) :
    magnitudeBits x = magnitudeBits y := by
  obtain ⟨-, -, rfl | ⟨rfl, rfl⟩ | ⟨rfl, rfl⟩⟩ := Float.beq_iff_ne_nan_and_eq.1 h
  · rfl
  · decide
  · decide

/-! ## Rounding -/

theorem roundQuotient_mul (q : ℕ) {den : ℕ} (hden : 0 < den) : roundQuotient (q * den) den = q := by
  have hmod : q * den % den = 0 := Nat.mul_mod_left q den
  simp only [roundQuotient, hmod, Nat.mul_zero, if_pos hden, Nat.mul_div_cancel q hden]

theorem roundQuotient_bounds (num den : ℕ) :
    num / den ≤ roundQuotient num den ∧ roundQuotient num den ≤ num / den + 1 := by
  simp only [roundQuotient]
  split_ifs <;> omega

theorem roundQuotient_mono {m n : ℕ} (h : m ≤ n) (den : ℕ) :
    roundQuotient m den ≤ roundQuotient n den := by
  rcases Nat.lt_or_eq_of_le (Nat.div_le_div_right h : m / den ≤ n / den) with hlt | heq
  · exact Nat.le_trans (roundQuotient_bounds m den).2
      (Nat.le_trans hlt (roundQuotient_bounds n den).1)
  · -- with one quotient it is the remainders that are compared
    have hmod : m % den ≤ n % den := by
      have hm := Nat.div_add_mod m den
      have hn := Nat.div_add_mod n den
      rw [heq] at hm
      omega
    simp only [roundQuotient, heq]
    split_ifs <;> omega

/-- A positive integer scaled to 53 bits, as a quotient that is not rounded yet. -/
def scaled (m : ℕ) : ℕ × ℕ := shifted m 1 (m.log2 - 52)

/-- The integer of 53 bits, or the power of two above these, that a positive integer is rounded to
but for a power of two. -/
def significand (m : ℕ) : ℕ := roundQuotient (scaled m).1 (scaled m).2

/-- The bits but that of the sign of the double nearest to a positive integer. -/
def nearestBits (m : ℕ) : ℕ := min ((m.log2 + 1022) * leadingBit + significand m) infinityBits

theorem scaled_of_le {m : ℕ} (h : 52 ≤ m.log2) : scaled m = (m, 2 ^ (m.log2 - 52)) := by
  have hexp : ((m.log2 : ℤ) - 52).toNat = m.log2 - 52 := by omega
  rw [scaled, shifted, if_pos (by omega), hexp, Nat.one_mul]
  rfl

theorem scaled_of_lt {m : ℕ} (h : m.log2 < 52) : scaled m = (m * 2 ^ (52 - m.log2), 1) := by
  have hexp : (-((m.log2 : ℤ) - 52)).toNat = 52 - m.log2 := by omega
  rw [scaled, shifted, if_neg (by omega), hexp]
  rfl

theorem scaled_bounds {m : ℕ} (hm : m ≠ 0) : 0 < (scaled m).2 ∧
    leadingBit * (scaled m).2 ≤ (scaled m).1 ∧ (scaled m).1 ≤ 2 * leadingBit * (scaled m).2 := by
  have hlow : 2 ^ m.log2 ≤ m := Nat.log2_self_le hm
  have hhigh : m < 2 ^ (m.log2 + 1) := Nat.lt_log2_self
  have hbit : leadingBit = 2 ^ 52 := rfl
  rcases Nat.lt_or_ge m.log2 52 with h | h
  · have hsplit : 2 ^ m.log2 * 2 ^ (52 - m.log2) = 2 ^ 52 := by
      rw [← Nat.pow_add, Nat.add_sub_cancel' (Nat.le_of_lt h)]
    rw [scaled_of_lt h, hbit, ← hsplit]
    refine ⟨Nat.one_pos, ?_, ?_⟩
    · rw [Nat.mul_one]
      exact Nat.mul_le_mul_right _ hlow
    · rw [Nat.mul_one, ← Nat.mul_assoc, ← Nat.pow_succ']
      exact Nat.mul_le_mul_right _ (Nat.le_of_lt hhigh)
  · have hsplit : 2 ^ 52 * 2 ^ (m.log2 - 52) = 2 ^ m.log2 := by
      rw [← Nat.pow_add, Nat.add_sub_cancel' h]
    rw [scaled_of_le h, hbit]
    refine ⟨Nat.two_pow_pos _, ?_, ?_⟩
    · rw [hsplit]
      exact hlow
    · rw [Nat.mul_assoc, hsplit, ← Nat.pow_succ']
      exact Nat.le_of_lt hhigh

theorem significand_bounds {m : ℕ} (hm : m ≠ 0) :
    leadingBit ≤ significand m ∧ significand m ≤ 2 * leadingBit := by
  obtain ⟨hden, hlow, hhigh⟩ := scaled_bounds hm
  constructor
  · rw [← roundQuotient_mul leadingBit hden]
    exact roundQuotient_mono hlow _
  · rw [← roundQuotient_mul (2 * leadingBit) hden]
    exact roundQuotient_mono hhigh _

theorem significand_mono {m n : ℕ} (hlog : m.log2 = n.log2) (h : m ≤ n) :
    significand m ≤ significand n := by
  rcases Nat.lt_or_ge m.log2 52 with hlt | hge
  · rw [significand, significand, scaled_of_lt hlt, scaled_of_lt (hlog ▸ hlt), hlog]
    exact roundQuotient_mono (Nat.mul_le_mul_right _ h) _
  · rw [significand, significand, scaled_of_le hge, scaled_of_le (hlog ▸ hge), hlog]
    exact roundQuotient_mono h _

theorem log2_mono {m n : ℕ} (h : m ≤ n) : m.log2 ≤ n.log2 := by
  rw [Nat.log2_eq_log_two, Nat.log2_eq_log_two]
  exact Nat.log_mono_right h

/-- The bits of the nearest double grow with the integer: within a power of two by the rounding, and
from one power of two to the next as all of the first are at most the least of the second. -/
theorem nearestBits_mono {m n : ℕ} (hm : m ≠ 0) (h : m ≤ n) : nearestBits m ≤ nearestBits n := by
  have hn : n ≠ 0 := by omega
  refine min_le_min_right _ ?_
  rcases Nat.lt_or_eq_of_le (log2_mono h) with hlt | heq
  · have hstep : (m.log2 + 1022 + 1) * leadingBit ≤ (n.log2 + 1022) * leadingBit :=
      Nat.mul_le_mul_right _ (by omega)
    have hhigh := (significand_bounds hm).2
    have hlow := (significand_bounds hn).1
    rw [Nat.succ_mul] at hstep
    omega
  · rw [heq]
    exact Nat.add_le_add_left (significand_mono heq h) _

theorem nearestBits_le (m : ℕ) : nearestBits m ≤ infinityBits := min_le_right _ _

/-- Integers from 2 to the 1024th on are rounded to infinity. -/
theorem nearestBits_of_le_log2 {m : ℕ} (h : 1024 ≤ m.log2) : nearestBits m = infinityBits := by
  have hm : m ≠ 0 := by
    rintro rfl
    exact absurd h (by decide)
  refine min_eq_right (Nat.le_trans ?_ (Nat.add_le_add
    (Nat.mul_le_mul_right _ (Nat.add_le_add_right h 1022)) (significand_bounds hm).1))
  decide

/-! ## Integers -/

theorem binaryExponent_one {m : ℕ} (hm : m ≠ 0) : binaryExponent m 1 = m.log2 := by
  have hone : Nat.log2 1 = 0 := rfl
  have hshifted : shifted m 1 m.log2 = (m, 2 ^ m.log2) := by
    rw [shifted, if_pos (Int.natCast_nonneg _), Int.toNat_natCast, Nat.one_mul]
    rfl
  simp only [binaryExponent, hone, Nat.cast_zero, Int.sub_zero, hshifted,
    if_pos (Nat.log2_self_le hm)]

theorem nearest_one (negative : Bool) {m : ℕ} (hm : m ≠ 0) :
    nearest negative m 1 = ofSignBits negative (nearestBits m) := by
  have hexp : max ((m.log2 : ℤ) - 52) leastExponent = m.log2 - 52 := by
    rw [leastExponent]
    omega
  have hfield : ((m.log2 : ℤ) - 52 - leastExponent).toNat = m.log2 + 1022 := by
    rw [leastExponent]
    omega
  simp only [nearest, if_neg hm, binaryExponent_one hm, hexp, hfield]
  rfl

theorem ofInt_of_ne_zero {n : ℤ} (hn : n ≠ 0) :
    ofInt n = ofSignBits (decide (n < 0)) (nearestBits n.natAbs) :=
  nearest_one _ (Int.natAbs_ne_zero.2 hn)

theorem ofInt_unit_mul {unit : ℤ} (hunit : unit = 1 ∨ unit = -1) {m : ℕ} (hm : m ≠ 0) :
    ofInt (unit * m) = ofSignBits (decide (unit < 0)) (nearestBits m) := by
  rcases hunit with rfl | rfl
  · rw [one_mul, ofInt_of_ne_zero (by omega), Int.natAbs_natCast]
    exact congrArg (ofSignBits · (nearestBits m)) (by simp)
  · rw [neg_one_mul, ofInt_of_ne_zero (by omega), Int.natAbs_neg, Int.natAbs_natCast]
    exact congrArg (ofSignBits · (nearestBits m)) (by simp; omega)

theorem magnitudeBits_ofInt {n : ℤ} (hn : n ≠ 0) :
    magnitudeBits (ofInt n) = nearestBits n.natAbs := by
  rw [ofInt_of_ne_zero hn, magnitudeBits_ofSignBits _ (nearestBits_le _)]

/-! ## Decimal texts -/

/-- Digits without a point or an exponent stand for the double nearest to their number. The limit on
the length of what is rounded changes nothing, as longer numbers are rounded to infinity. -/
theorem Literal.value_eq (negative : Bool) {m : ℕ} (hm : m ≠ 0) :
    Literal.value { negative, digits := m, exponent := 0 } =
      ofSignBits negative (nearestBits m) := by
  rw [Literal.value, if_neg (by simp only [hm, false_or]; omega)]
  split
  · rename_i hsize
    have hlen : ¬ (Numeral.decimal m).length ≤ 400 := by simpa using hsize
    have hlarge : 10 ^ 400 ≤ m := by
      rwa [Numeral.decimal, Numeral.text, Nat.length_toDigits_le_iff (by decide) (by decide),
        Nat.not_lt] at hlen
    have hlog : 1024 ≤ m.log2 :=
      Nat.le_trans (by decide +kernel) (log2_mono hlarge)
    rw [nearestBits_of_le_log2 hlog, infinity]
  · rw [if_pos (Int.le_refl 0), ← nearest_one negative hm]
    exact congrArg (nearest negative · 1) (Nat.mul_one m)

theorem Literal.read?_append {sign digits : List Char} {unit : ℤ} {m : ℕ}
    (hsign : (sign, unit) ∈ Integer.signs) (hdigits : ∀ c ∈ digits, Numeral.isDigit c = true)
    (h : Numeral.read? 10 digits = some m) :
    Literal.read? (sign ++ digits) =
      some { negative := decide (unit < 0), digits := m, exponent := 0 } := by
  simp [Literal.read?, Integer.splitSign_append hsign h, List.takeWhile_eq_self_iff.2 hdigits,
    List.dropWhile_eq_nil_iff.2 hdigits, h]

/-- A decimal text of an integer that is not zero is read as the double nearest to it. -/
theorem parse?_of_isDecimal {s : String} {n : ℤ} (h : Integer.IsDecimal s.toList n) (hn : n ≠ 0) :
    parse? s = some (ofInt n) := by
  obtain ⟨sign, unit, digits, htrim, hsign, hdigits, m, hread, rfl⟩ := h.exists_trim
  have hm : m ≠ 0 := by
    rintro rfl
    exact hn (mul_zero unit)
  have hchars : (sign ++ digits).all (fun c => decide (c.toNat < 58)) = true := by
    have hsigns : Integer.signs.all (fun p => p.1.all fun c => decide (c.toNat < 58)) = true := by
      decide
    rw [List.all_append, List.all_eq_true.1 hsigns _ hsign, Bool.true_and, List.all_eq_true]
    intro c hc
    have hle := (Numeral.isDigit_iff.1 (hdigits c hc)).2
    rw [decide_eq_true_eq]
    omega
  have hname {name : String} (h : (name.toList.all fun c => decide (c.toNat < 58)) = false) :
      String.ofList (sign ++ digits) ≠ name := by
    rintro rfl
    rw [String.toList_ofList, hchars] at h
    cases h
  rw [parse?, htrim]
  split
  · exact absurd ‹_› (hname (by decide))
  · exact absurd ‹_› (hname (by decide))
  · exact absurd ‹_› (hname (by decide))
  · exact absurd ‹_› (hname (by decide))
  · rw [Literal.read?_append hsign hdigits hread, Option.map_some, Literal.value_eq _ hm,
      ofInt_unit_mul (Integer.unit_of_mem_signs hsign) hm]

end Binary64

end BuildExpr
