import BuildExpr.Proofs.Evaluation.Answers
import BuildExpr.Proofs.Number.Reading

/-!
# Integers written in a base and read again

In the bases 2, 8 and 16 a word is written as the number that its bits stand for, and what is read is
a number with a sign in front. The two agree as long as the number fits in a word
(`Integer.fit?_bits`). So a word is read back from its digits in the bases 2, 8 and 16 exactly if it
is not negative, and in base 10 always (`NumberFunctions.radix_round_trip_iff`).
-/

namespace BuildExpr

namespace Integer

/-- The bits of a word stand for the word itself if it is not negative, and else for a number that
does not fit. -/
theorem fit?_bits (v : Int64) : fit? (bits v) = if 0 ≤ v.toInt then some v else none := by
  have hbits : (bits v : ℤ) = if 0 ≤ v.toInt then v.toInt else v.toInt + 2 ^ 64 := by
    have hword : v.toInt = v.toBitVec.toInt := rfl
    have hnat : bits v = v.toBitVec.toNat := rfl
    have hlt : v.toBitVec.toNat < 2 ^ 64 := v.toBitVec.isLt
    rw [hword, hnat, BitVec.toInt_eq_toNat_cond]
    split <;> split <;> omega
  obtain ⟨hlow, hhigh⟩ := toInt_bounds v
  rw [hbits]
  split
  · exact fit?_eq_some_iff.2 rfl
  · rw [fit?_eq_none_iff, greatest]
    rw [least] at hlow
    omega

theorem textInBase?_of_mem {base : Int64} (h : base ∈ ([2, 8, 16] : List Int64)) (v : Int64) :
    textInBase? v base = some (String.ofList (Numeral.text base.toInt.toNat (bits v))) := by
  simp only [List.mem_cons, List.not_mem_nil, or_false] at h
  rcases h with rfl | rfl | rfl <;> rfl

end Integer

namespace NumberFunctions

open Arguments FunctionTable

/-- The bases that integers are written and read in. -/
def bases : List Int64 := [2, 8, 10, 16]

theorem dropRepeated_of_not_mem {start cs : List Char} {c : Char} (hstart : c ∈ start) (h : c ∉ cs)
    (fuel : ℕ) : dropRepeated start cs fuel = cs := by
  cases fuel with
  | zero => rfl
  | succ fuel =>
    refine if_neg fun hprefix => h ?_
    exact (List.isPrefixOf_iff_prefix.1 hprefix).subset hstart

/-- No part of a number is taken off in front of its digits. -/
theorem digitsInBase_of_read? {base : ℕ} {cs : List Char} {n : ℕ} (b : Int64)
    (h : Numeral.read? base cs = some n) : digitsInBase b cs = cs := by
  have hlower : 'x' ∉ cs := Numeral.not_mem_of_read? h rfl
  have hupper : 'X' ∉ cs := Numeral.not_mem_of_read? h rfl
  have hdropLower : dropRepeated ['0', 'x'] cs cs.length = cs :=
    dropRepeated_of_not_mem (by simp) hlower _
  have hdropUpper : dropRepeated ['0', 'X'] cs cs.length = cs :=
    dropRepeated_of_not_mem (by simp) hupper _
  simp only [digitsInBase, Numeral.trim_of_read? h, hdropLower, hdropUpper, ite_self]

/-- What is read from the digits that a word is written with. -/
theorem readSigned?_of_textInBase? {v base : Int64} {t : String} (hbase : base ∈ bases)
    (h : Integer.textInBase? v base = some t) :
    Integer.readSigned? base.toInt.toNat (digitsInBase base t.toList) =
      if base = 10 ∨ 0 ≤ v.toInt then some v else none := by
  by_cases hten : base = 10
  · subst hten
    have ht : t = Integer.text v := (Option.some.inj h).symm
    have hdecimal : Integer.IsDecimal t.toList v.toInt :=
      .of_chars (by rw [ht, Integer.text, String.toList_ofList])
    rw [if_pos (.inl rfl), ← Integer.fit?_eq_some_iff.2 rfl, ← Integer.parse?_of_isDecimal hdecimal]
    rfl
  · have hmem : base ∈ ([2, 8, 16] : List Int64) := by
      simp only [bases, List.mem_cons, List.not_mem_nil, or_false] at hbase ⊢
      tauto
    have hrange : 1 < base.toInt.toNat ∧ base.toInt.toNat ≤ 16 := by
      simp only [List.mem_cons, List.not_mem_nil, or_false] at hmem
      rcases hmem with rfl | rfl | rfl <;> exact ⟨by decide, by decide⟩
    rw [Integer.textInBase?_of_mem hmem] at h
    have hread := Numeral.read?_text hrange.1 hrange.2 (Integer.bits v)
    rw [← Option.some.inj h, String.toList_ofList, digitsInBase_of_read? base hread]
    have hsigned := Integer.readSigned?_append (by decide : ([], 1) ∈ Integer.signs) hread
    rw [List.nil_append, one_mul, Integer.fit?_bits] at hsigned
    simp only [hsigned, hten, false_or]

variable {a b c : Value} {v base : Int64}

theorem answers_toString (a b : Value) :
    Answers "System.Convert" "ToString" [a, b] (convertToText [a, b]) :=
  answers_of_resolve (resolveStatic_of_find (by rfl : _ = "system.convert")
    (by rfl : _ = "tostring") rfl rfl)

theorem answers_toInt64 (a b : Value) :
    Answers "System.Convert" "ToInt64" [a, b] (in64 (toInteger [a, b])) :=
  answers_of_resolve (resolveStatic_of_find (by rfl : _ = "system.convert")
    (by rfl : _ = "toint64") rfl rfl)

theorem exists_textInBase? (hbase : base ∈ bases) (v : Int64) :
    ∃ t, Integer.textInBase? v base = some t := by
  simp only [bases, List.mem_cons, List.not_mem_nil, or_false] at hbase
  rcases hbase with rfl | rfl | rfl | rfl <;> exact ⟨_, rfl⟩

theorem convertToText_of_textInBase? {t : String} (h : Integer.textInBase? v base = some t)
    (ha : integer? a = some v) (hb : integer? b = some base) :
    convertToText [a, b] = .ok (.text t) := by
  have hfirst : integer [a, b] 0 = .ok v := integer_of_integer? ha
  have hsecond : integer [a, b] 1 = .ok base := integer_of_integer? hb
  rw [convertToText, if_pos (by rfl), hfirst, hsecond]
  show (Answer.orRefuse .base (Integer.textInBase? v base) >>= fun t => pure (Value.text t)) = _
  rw [h]
  rfl

theorem toInteger_of_textInBase? {t : String} (hbase : base ∈ bases)
    (h : Integer.textInBase? v base = some t) (hc : integer? c = some base) :
    toInteger [.text t, c] =
      if base = 10 ∨ 0 ≤ v.toInt then .ok v else Answer.refuse .noDigits := by
  have hsecond : integer [.text t, c] 1 = .ok base := integer_of_integer? hc
  have hknown : (base == 2 || base == 8 || base == 10 || base == 16) = true := by
    simpa [bases, or_assoc] using hbase
  rw [toInteger, if_pos (by rfl), readInBase, hsecond]
  show (if (base == 2 || base == 8 || base == 10 || base == 16) = true then
    Answer.orRefuse .noDigits (Integer.readSigned? base.toInt.toNat (digitsInBase base t.toList))
    else Answer.refuse .base) = _
  rw [if_pos hknown, readSigned?_of_textInBase? hbase h]
  split <;> rfl

/-- What is written in a base is read as the same integer exactly if the base is ten or the integer
is not negative, and in all other cases there seem to be no digits. -/
theorem radix_round_trip_iff (hbase : base ∈ bases) (ha : integer? a = some v)
    (hb : integer? b = some base) (hc : integer? c = some base) :
    ∃ t, Answers "System.Convert" "ToString" [a, b] (.ok (.text t)) ∧
      (Answers "System.Convert" "ToInt64" [.text t, c] (.ok (.int v)) ↔ base = 10 ∨ 0 ≤ v.toInt) ∧
      (¬(base = 10 ∨ 0 ≤ v.toInt) →
        Answers "System.Convert" "ToInt64" [.text t, c] (Answer.refuse .noDigits)) := by
  obtain ⟨t, ht⟩ := exists_textInBase? hbase v
  have hstring := answers_toString a b
  have hread := answers_toInt64 (.text t) c
  rw [convertToText_of_textInBase? ht ha hb] at hstring
  rw [toInteger_of_textInBase? hbase ht hc] at hread
  refine ⟨t, hstring, ?_⟩
  by_cases hback : base = 10 ∨ 0 ≤ v.toInt
  · rw [if_pos hback] at hread
    exact ⟨iff_of_true hread hback, fun hnot => absurd hback hnot⟩
  · rw [if_neg hback] at hread
    refine ⟨iff_of_false (fun hsame => ?_) hback, fun _ => hread⟩
    cases hsame.unique hread

/-- The least word in base 16 and in base 10. -/
theorem radix_round_trip_iff_of_least :
    integer? (.int Int64.minValue) = some Int64.minValue ∧ integer? (.int 16) = some 16 ∧
      integer? (.text "10") = some 10 ∧
      (∃ t, Answers "System.Convert" "ToString" [.int Int64.minValue, .int 16] (.ok (.text t)) ∧
        Answers "System.Convert" "ToInt64" [.text t, .int 16] (Answer.refuse .noDigits)) ∧
      ∃ t, Answers "System.Convert" "ToString" [.int Int64.minValue, .text "10"] (.ok (.text t)) ∧
        Answers "System.Convert" "ToInt64" [.text t, .text "10"] (.ok (.int Int64.minValue)) := by
  have hten : integer? (.text "10") = some 10 := by decide
  refine ⟨rfl, rfl, hten, ?_, ?_⟩
  · obtain ⟨t, hwritten, -, hread⟩ := radix_round_trip_iff (a := .int Int64.minValue) (b := .int 16)
      (c := .int 16) (by decide) rfl rfl rfl
    exact ⟨t, hwritten, hread (by decide)⟩
  · obtain ⟨t, hwritten, hread, -⟩ := radix_round_trip_iff (a := .int Int64.minValue)
      (by decide) rfl hten hten
    exact ⟨t, hwritten, hread.2 (.inl rfl)⟩

/-- The digits of minus one in base 16 are refused. -/
theorem exists_radix_refused :
    Answers "System.Convert" "ToString" [.text "-1", .text "16"] (.ok (.text "ffffffffffffffff")) ∧
      Answers "System.Convert" "ToInt64" [.text "ffffffffffffffff", .text "16"]
        (Answer.refuse .noDigits) ∧
      ¬ Answers "System.Convert" "ToInt64" [.text "ffffffffffffffff", .text "16"]
        (.ok (.int (-1))) := by
  have hminus : integer? (.text "-1") = some (-1) := by decide
  have hsixteen : integer? (.text "16") = some 16 := by decide
  have ht : Integer.textInBase? (-1) 16 = some "ffffffffffffffff" := by decide
  have hstring := answers_toString (.text "-1") (.text "16")
  have hread := answers_toInt64 (.text "ffffffffffffffff") (.text "16")
  rw [convertToText_of_textInBase? ht hminus hsixteen] at hstring
  rw [toInteger_of_textInBase? (by decide) ht hsixteen, if_neg (by decide)] at hread
  exact ⟨hstring, hread, fun hsame => by cases hsame.unique hread⟩

end NumberFunctions

end BuildExpr
