import BuildExpr.Proofs.Number.IntegerTexts
import BuildExpr.Proofs.Number.Nearest

/-!
# Doubles with a fixed number of decimals

A finite double other than zero is below zero exactly if its sign is a minus
(`Binary64.lt_zero_iff`). The whole part of its magnitude is written with the digits of a natural
number, which is below `2^63` exactly if the magnitude is (`Binary64.exists_fixed`). The rendering
`N` reads these digits as an integer of 64 bits before it groups them. So it is the rendering `F`
with commas if the magnitude is below `2^63`, and else it is not
(`NumberFunctions.grouped_agrees_iff`).
-/

namespace BuildExpr

namespace Integer

/-! ## Natural numbers as integers of 64 bits -/

theorem readSigned?_decimal (n : ℕ) :
    readSigned? 10 (Numeral.decimal n) = fit? n := by
  have hdecimal : Numeral.read? 10 (Numeral.decimal n) = some n :=
    Numeral.read?_text (by decide) (by decide) n
  have hread := readSigned?_append (by decide : ([], 1) ∈ signs) hdecimal
  rwa [List.nil_append, one_mul] at hread

/-- A number below `2^63` is read as an integer with the same digits. -/
theorem exists_readSigned?_decimal {n : ℕ} (hn : n < 2 ^ 63) :
    ∃ w, readSigned? 10 (Numeral.decimal n) = some w ∧
      magnitude w = Numeral.decimal n := by
  have hw := toInt_ofNat hn
  refine ⟨Int64.ofInt n, by rw [readSigned?_decimal, fit?_eq_some_iff.2 hw], ?_⟩
  rw [magnitude, hw, Int.natAbs_natCast]

theorem readSigned?_decimal_eq_none {n : ℕ} (hn : ¬ n < 2 ^ 63) :
    readSigned? 10 (Numeral.decimal n) = none := by
  rw [readSigned?_decimal, fit?_eq_none_iff, greatest]
  omega

end Integer

namespace Binary64

/-! ## Signs -/

variable {x : Float} {negative : Bool} {m : ℕ} {e : ℤ}

/-- What the parts of a double other than zero say about its bits. -/
theorem fields_of_parts (h : parts x = .finite negative m e) (hm : m ≠ 0) :
    negative = decide (signBit ≤ x.toBits.toNat) ∧ x.toBits.toNat / leadingBit % 2048 ≠ 2047 ∧
      (x.toBits.toNat / leadingBit % 2048 = 0 → x.toBits.toNat % leadingBit ≠ 0) ∧
      m < 2 * leadingBit := by
  have hfraction : x.toBits.toNat % leadingBit < leadingBit := Nat.mod_lt _ (by decide)
  simp only [parts] at h
  split at h
  · split at h <;> cases h
  · rename_i hfield
    split at h
    · obtain ⟨rfl, rfl, rfl⟩ := Parts.finite.inj h
      exact ⟨rfl, hfield, fun _ => hm, by omega⟩
    · rename_i hzero
      obtain ⟨rfl, rfl, rfl⟩ := Parts.finite.inj h
      exact ⟨rfl, hfield, fun h => absurd h hzero, by omega⟩

section

open Float.Model Float.Model.UnpackedFloat

theorem toNat_unpackSign (b : BitVec Format.binary64.numBits) :
    (unpackSign b).toNat = b.toNat / signBit % 2 := by
  simp [unpackSign, BitVec.extractLsb, BitVec.extractLsb', Nat.shiftRight_eq_div_pow, signBit]

theorem ofBitVec_unpackSign (b : BitVec Format.binary64.numBits) :
    Sign.ofBitVec (unpackSign b) = if signBit ≤ b.toNat then .negative else .positive := by
  have hlt : b.toNat < 2 ^ 64 := b.isLt
  have hsign := toNat_unpackSign b
  have hzero : unpackSign b = 0#1 ↔ ¬ signBit ≤ b.toNat := by
    rw [← BitVec.toNat_inj, hsign, signBit]
    show _ = 0 ↔ _
    omega
  simp only [Sign.ofBitVec, hzero, ite_not]

/-- Bits of a finite double other than zero. -/
theorem unpack_of_fields {b : BitVec Format.binary64.numBits}
    (hfield : b.toNat / leadingBit % 2048 ≠ 2047)
    (hfraction : b.toNat / leadingBit % 2048 = 0 → b.toNat % leadingBit ≠ 0) :
    ∃ m e h, UnpackedFloat.unpack Format.binary64 b =
      .finite (if signBit ≤ b.toNat then .negative else .positive) m e h := by
  have hexponent := toNat_unpackExponent b
  have hmantissa := toNat_unpackMantissa b
  rw [← ofBitVec_unpackSign, UnpackedFloat.unpack]
  have hones : unpackExponent b ≠ -1#_ := fun h => by
    rw [h] at hexponent
    exact hfield hexponent.symm
  simp only [if_neg hones]
  split
  · rename_i hzero
    rw [hzero] at hexponent
    have hne : unpackMantissa b ≠ 0#_ := fun h => by
      rw [h] at hmantissa
      exact hfraction hexponent.symm hmantissa.symm
    rw [dif_neg hne]
    exact ⟨_, _, Nat.pos_of_ne_zero fun h => hne (BitVec.eq_of_toNat_eq h), rfl⟩
  · refine ⟨_, _, ?_, rfl⟩
    rw [BitVec.toNat_append]
    exact Nat.lt_of_lt_of_le (by decide) Nat.left_le_or

/-- A finite double other than zero is below zero exactly if its sign is a minus. -/
theorem lt_zero_iff (hx : parts x = .finite negative m e) (hm : m ≠ 0) :
    x < 0 ↔ negative = true := by
  obtain ⟨hsign, hfield, hfraction, -⟩ := fields_of_parts hx hm
  obtain ⟨m', e', h, hunpack⟩ := unpack_of_fields (b := x.toBits.toBitVec) hfield hfraction
  have hword : x.toBits.toBitVec.toNat = x.toBits.toNat := rfl
  rw [hword] at hunpack
  show decide (UnpackedFloat.lt (UnpackedFloat.unpack Format.binary64 x.toBits.toBitVec)
    (.zero .positive) = true) = true ↔ _
  rw [hunpack, hsign]
  by_cases hle : signBit ≤ x.toBits.toNat <;> simp [hle, UnpackedFloat.lt, UnpackedFloat.compare]

end

/-! ## Digits -/

theorem roundQuotient_one (n : ℕ) : roundQuotient n 1 = n := by
  simpa using roundQuotient_mul n Nat.one_pos

theorem roundQuotient_le (num : ℕ) {den : ℕ} (hden : 0 < den) : roundQuotient num den ≤ num := by
  calc roundQuotient num den ≤ roundQuotient (num * den) den :=
        roundQuotient_mono (Nat.le_mul_of_pos_right num hden) den
    _ = num := roundQuotient_mul num hden

theorem isDigit_of_mem_fraction (num den places : ℕ) :
    ∀ c ∈ (fixedDigits num den places).2, Numeral.isDigit c = true := by
  rw [fixedDigits]
  simp only
  split
  · simp
  · exact Numeral.isDigit_of_mem_padded (Numeral.isDigit_of_mem_decimal _)

/-- The whole part of a double is written with the digits of a number that is below `2^63` exactly
if the double is. -/
theorem exists_fixed (hm : m < 2 * leadingBit) (e : ℤ) (places : ℕ) :
    ∃ whole fraction, fixed m e places = (Numeral.decimal whole, fraction) ∧
      (∀ c ∈ fraction, Numeral.isDigit c = true) ∧
      (whole < 2 ^ 63 ↔ (m : ℚ) * 2 ^ e < 2 ^ 63) := by
  have hten : 0 < Nat.pow 10 places := Nat.pow_pos (by decide)
  by_cases he : 0 ≤ e
  · obtain ⟨k, rfl⟩ := Int.eq_ofNat_of_zero_le he
    refine ⟨m * 2 ^ k, _, ?_, isDigit_of_mem_fraction (m * 2 ^ k) 1 places, ?_⟩
    · rw [fixed, if_pos he]
      show fixedDigits (m * 2 ^ k) 1 places = _
      simp only [fixedDigits, roundQuotient_one, Nat.mul_div_cancel _ hten]
    · rw [zpow_natCast]
      exact_mod_cast Iff.rfl
  · -- a number that has a fraction is below `2^53`, and so is its whole part
    have htwo : 0 < Nat.pow 2 (-e).toNat := Nat.pow_pos (by decide)
    have hbound : m < 2 ^ 53 := hm
    have hwhole : roundQuotient (m * Nat.pow 10 places) (Nat.pow 2 (-e).toNat) / Nat.pow 10 places
        ≤ m :=
      Nat.div_le_of_le_mul (Nat.mul_comm m _ ▸ roundQuotient_le _ htwo)
    have hvalue : (m : ℚ) * 2 ^ e ≤ m :=
      mul_le_of_le_one_right (Nat.cast_nonneg m) (zpow_le_one_of_nonpos₀ one_le_two (by omega))
    have hcast : (m : ℚ) < 2 ^ 53 := by exact_mod_cast hbound
    refine ⟨_, _, by rw [fixed, if_neg he]; rfl, isDigit_of_mem_fraction m _ places, ?_⟩
    exact iff_of_true (by omega) (by linarith)

/-- Without commas a whole part is shown as it is exactly if it is an integer of 64 bits. -/
theorem filter_shown_eq_iff (n : ℕ) :
    (if n < 2 ^ 63 then Numeral.grouped (Numeral.decimal n) else ['0']).filter
      (fun c => c != ',') = Numeral.decimal n ↔ n < 2 ^ 63 := by
  by_cases hn : n < 2 ^ 63
  · rw [if_pos hn]
    exact iff_of_true (Numeral.filter_grouped (Numeral.isDigit_of_mem_decimal n)) hn
  · rw [if_neg hn]
    refine iff_of_false (fun h => hn ?_) hn
    have hzero := congrArg (fun cs => Nat.ofDigitChars 10 cs 0) h
    rw [Numeral.ofDigitChars_decimal] at hzero
    change 0 = n at hzero
    omega

/-! ## Points -/

theorem withFraction_inj {whole other fraction : List Char} :
    withFraction whole fraction = withFraction other fraction ↔ whole = other := by
  rw [withFraction, withFraction]
  split
  · rfl
  · exact List.append_left_inj _

theorem filter_withFraction (whole : List Char) {fraction : List Char}
    (h : ∀ c ∈ fraction, Numeral.isDigit c = true) :
    (withFraction whole fraction).filter (fun c => c != ',') =
      withFraction (whole.filter fun c => c != ',') fraction := by
  have hfraction : fraction.filter (fun c => c != ',') = fraction :=
    List.filter_eq_self.2 fun c hc => bne_iff_ne.2 (Numeral.ne_comma_of_isDigit (h c hc))
  rw [withFraction, withFraction]
  split
  · rfl
  · rw [List.filter_append, List.filter_cons_of_pos (by decide), hfraction]

theorem toList_fixedText {whole fraction : List Char} {places : ℕ}
    (hx : parts x = .finite negative m e) (hfixed : fixed m e places = (whole, fraction)) :
    (fixedText places x).toList =
      Numeral.signChars negative ++ withFraction whole fraction := by
  simp only [fixedText, hx, hfixed, String.toList_ofList, Numeral.signChars]

/-- A whole part beyond 64 bits is taken for zero. -/
theorem toList_groupedText {whole : ℕ} {fraction : List Char} {places : ℕ}
    (hx : parts x = .finite negative m e) (hm : m ≠ 0)
    (hfixed : fixed m e places = (Numeral.decimal whole, fraction)) :
    (groupedText places x).toList = Numeral.signChars negative ++ withFraction
      (if whole < 2 ^ 63 then Numeral.grouped (Numeral.decimal whole) else ['0']) fraction := by
  have hsign := lt_zero_iff hx hm
  by_cases hwhole : whole < 2 ^ 63
  · obtain ⟨w, hread, hw⟩ := Integer.exists_readSigned?_decimal hwhole
    simp only [groupedText, hx, hfixed, hread, hw, if_pos hwhole, String.toList_ofList,
      Numeral.signChars, hsign]
  · simp only [groupedText, hx, hfixed, Integer.readSigned?_decimal_eq_none hwhole, if_neg hwhole,
      String.toList_ofList, Numeral.signChars, hsign]

/-- Without its commas the grouped rendering of a double is the fixed one exactly if the double is
below `2^63` and above `-2^63`. -/
theorem filter_groupedText_eq_iff (hx : parts x = .finite negative m e) (hm : m ≠ 0)
    (places : ℕ) :
    (groupedText places x).toList.filter (fun c => c != ',') = (fixedText places x).toList ↔
      (m : ℚ) * 2 ^ e < 2 ^ 63 := by
  obtain ⟨-, -, -, hbound⟩ := fields_of_parts hx hm
  obtain ⟨whole, fraction, hfixed, hfraction, hwhole⟩ := exists_fixed hbound e places
  rw [toList_groupedText hx hm hfixed, toList_fixedText hx hfixed, List.filter_append,
    Numeral.filter_signChars, filter_withFraction _ hfraction, List.append_right_inj,
    withFraction_inj, filter_shown_eq_iff, hwhole]

theorem Format.parse?_of_read? {digits : List Char} {places : ℕ}
    (h : Numeral.read? 10 digits = some places) :
    Format.parse? (String.ofList ('N' :: digits)) =
        (if places < Numeral.bound64 then some (.grouped places) else none) ∧
      Format.parse? (String.ofList ('F' :: digits)) =
        (if places < Numeral.bound64 then some (.fixed places) else none) := by
  have hempty : digits.isEmpty = false := by simpa using Numeral.ne_nil_of_read? h
  constructor <;>
  · rw [Format.parse?, String.toList_ofList]
    simp only [hempty, Bool.false_eq_true, if_false, Numeral.readBounded?_of_read? h]
    split <;> rfl

end Binary64

namespace NumberFunctions

open Arguments FunctionTable

variable {x : Float} {negative : Bool} {m places : ℕ} {e : ℤ} {digits : List Char}

theorem answers_double_toString (x : Float) (spec : String) :
    MemberAnswers (.double x) "ToString" [.text spec] (doubleToText [.double x, .text spec]) :=
  memberAnswers_of_find (show Text.foldAscii "System.Double" = _ from rfl)
    (by rfl : _ = "tostring") rfl (by rfl)

/-- The text of a double in a rendering. -/
theorem doubleToText_eq (x : Float) (spec : String) :
    doubleToText [.double x, .text spec] =
      (Binary64.Format.parse? spec).elim (Answer.refuse .formatSpecifier)
        fun format => .ok (.text (format.apply x)) := by
  have hfirst : double [.double x, .text spec] 0 = .ok x := rfl
  have hspec : text [.double x, .text spec] 1 = spec := rfl
  rw [doubleToText, hfirst, hspec]
  cases Binary64.Format.parse? spec <;> rfl

/-- A double that is finite and not zero in the renderings `N` and `F` with the same number of
decimals. Without its commas the first text is the second one exactly if the double lies strictly
between `-2^63` and `2^63`; beyond these the whole part of the first is shown as zero. A number of
decimals that is no word is refused by both. -/
theorem grouped_agrees_iff (hx : Binary64.parts x = .finite negative m e) (hm : m ≠ 0)
    (h : Numeral.read? 10 digits = some places) :
    (places < Numeral.bound64 →
      ∃ grouped fixed,
        MemberAnswers (.double x) "ToString" [.text (String.ofList ('N' :: digits))]
          (.ok (.text grouped)) ∧
        MemberAnswers (.double x) "ToString" [.text (String.ofList ('F' :: digits))]
          (.ok (.text fixed)) ∧
        (grouped.toList.filter (fun c => c != ',') = fixed.toList ↔ (m : ℚ) * 2 ^ e < 2 ^ 63)) ∧
    (Numeral.bound64 ≤ places →
      MemberAnswers (.double x) "ToString" [.text (String.ofList ('N' :: digits))]
        (Answer.refuse .formatSpecifier) ∧
      MemberAnswers (.double x) "ToString" [.text (String.ofList ('F' :: digits))]
        (Answer.refuse .formatSpecifier)) := by
  have hgrouped := answers_double_toString x (String.ofList ('N' :: digits))
  have hfixed := answers_double_toString x (String.ofList ('F' :: digits))
  obtain ⟨hparseN, hparseF⟩ := Binary64.Format.parse?_of_read? h
  rw [doubleToText_eq, hparseN] at hgrouped
  rw [doubleToText_eq, hparseF] at hfixed
  refine ⟨fun hplaces => ?_, fun hplaces => ?_⟩
  · rw [if_pos hplaces] at hgrouped hfixed
    exact ⟨_, _, hgrouped, hfixed, Binary64.filter_groupedText_eq_iff hx hm places⟩
  · rw [if_neg (by omega)] at hgrouped hfixed
    exact ⟨hgrouped, hfixed⟩

/-- The double -1234567.5, with two decimals. -/
theorem grouped_agrees_iff_of_fraction :
    ∃ grouped fixed,
      MemberAnswers (.double (Float.ofBits 0xc132d68780000000)) "ToString" [.text "N2"]
        (.ok (.text grouped)) ∧
      MemberAnswers (.double (Float.ofBits 0xc132d68780000000)) "ToString" [.text "F2"]
        (.ok (.text fixed)) ∧
      grouped.toList.filter (fun c => c != ',') = fixed.toList := by
  have hparts : Binary64.parts (Float.ofBits 0xc132d68780000000) =
      .finite true 5302427037204480 (-32) := rfl
  obtain ⟨grouped, fixed, hgrouped, hfixed, hiff⟩ :=
    (grouped_agrees_iff hparts (by decide) (by rfl : Numeral.read? 10 ['2'] = some 2)).1 (by decide)
  exact ⟨grouped, fixed, hgrouped, hfixed, hiff.2 (by norm_num)⟩

/-- The double nearest to `10^20` is written with its digits in the rendering `F` and as zero in the
rendering `N`. -/
theorem exists_grouped_ne :
    ∃ x : Float, Binary64.parts x = .finite false 6103515625000000 14 ∧
      MemberAnswers (.double x) "ToString" [.text "N0"] (.ok (.text "0")) ∧
      MemberAnswers (.double x) "ToString" [.text "F0"] (.ok (.text "100000000000000000000")) ∧
      "0".toList.filter (fun c => c != ',') ≠ "100000000000000000000".toList :=
  ⟨Float.ofBits 0x4415af1d78b58c40, rfl, answers_double_toString _ "N0",
    answers_double_toString _ "F0", by decide⟩

end NumberFunctions

end BuildExpr
