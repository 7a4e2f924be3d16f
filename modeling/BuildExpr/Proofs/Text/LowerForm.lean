import BuildExpr.Text.Case
import Mathlib.Data.List.Chain
import Mathlib.Data.List.Count
import Mathlib.Data.List.TakeWhile
import Mathlib.Data.Nat.Notation

/-!
# Lower-case forms

A lower-case letter is its own lower-case form (`Chars.lowerChar_of_isLowercase`), and every
character but the dotted capital I has a lower-case form of one character. The form of a capital
sigma depends on what stands around it, so that of a text is not put together from those of its
parts: behind a cut it is that of the rest, up to the one sigma that ends a word begun before it
(`Chars.lowerAfter_of_nextIsCased`).
-/

namespace BuildExpr

namespace Text

/-! ## Two tables in order -/

/-- Whether a row of a mapping covers a code point. -/
def covers (row : ℕ × ℕ × ℕ × Int) (n : ℕ) : Bool :=
  row.1 ≤ n && n ≤ row.2.1 && (n - row.1) % row.2.2.1 == 0

/-- Whether a row of a mapping covers no code point of a range. -/
def misses (range : ℕ × ℕ) (row : ℕ × ℕ × ℕ × Int) : Bool :=
  (List.range' range.1 (range.2 + 1 - range.1)).all fun n => !covers row n

/-- Whether the rows of a mapping cover no code points of ranges, where both are in order: the rows
that end before a range are left behind with it, and those that begin behind it are not looked
at. -/
def sweep : List (ℕ × ℕ) → List (ℕ × ℕ × ℕ × Int) → Bool
  | [], _ => true
  | range :: ranges, rows =>
    let ahead := rows.dropWhile fun row => row.2.1 < range.1
    (ahead.takeWhile fun row => row.1 ≤ range.2).all (misses range) && sweep ranges ahead

theorem misses_of_disjoint {range : ℕ × ℕ} {row : ℕ × ℕ × ℕ × Int}
    (h : row.2.1 < range.1 ∨ range.2 < row.1) : misses range row = true := by
  refine List.all_eq_true.2 fun n hn => ?_
  rw [List.mem_range'_1] at hn
  simp only [covers, Bool.not_eq_true', Bool.and_eq_false_iff, decide_eq_false_iff_not]
  omega

/-- In rows in order, those that begin up to a bound stand in front. -/
theorem mem_takeWhile_or_lt {rows : List (ℕ × ℕ × ℕ × Int)}
    (hrows : rows.Pairwise fun a b => a.1 ≤ b.1) (bound : ℕ) {row : ℕ × ℕ × ℕ × Int}
    (h : row ∈ rows) : row ∈ rows.takeWhile (fun row => row.1 ≤ bound) ∨ bound < row.1 := by
  induction rows with
  | nil => cases h
  | cons first rows ih =>
    rw [List.pairwise_cons] at hrows
    rw [List.takeWhile_cons]
    by_cases hfirst : first.1 ≤ bound
    · rw [if_pos (by simpa using hfirst)]
      rcases List.mem_cons.1 h with rfl | h
      · exact .inl List.mem_cons_self
      · exact (ih hrows.2 h).imp_left (List.mem_cons_of_mem first)
    · refine .inr ?_
      rcases List.mem_cons.1 h with rfl | h
      · omega
      · have := hrows.1 row h
        omega

theorem misses_of_sweep {ranges : List (ℕ × ℕ)} {rows : List (ℕ × ℕ × ℕ × Int)}
    (hranges : ranges.Pairwise fun a b => a.1 ≤ b.1) (hrows : rows.Pairwise fun a b => a.1 ≤ b.1)
    (h : sweep ranges rows = true) : ∀ range ∈ ranges, ∀ row ∈ rows, misses range row = true := by
  induction ranges generalizing rows with
  | nil => exact fun _ hrange => absurd hrange List.not_mem_nil
  | cons first ranges ih =>
    rw [List.pairwise_cons] at hranges
    rw [sweep, Bool.and_eq_true, List.all_eq_true] at h
    obtain ⟨hfirst, hrest⟩ := h
    have hahead := hrows.sublist (List.dropWhile_sublist fun row => decide (row.2.1 < first.1))
    intro range hrange row hrow
    have hle : first.1 ≤ range.1 := by
      rcases List.mem_cons.1 hrange with rfl | hrange
      · exact Nat.le_refl _
      · exact hranges.1 range hrange
    rw [← List.takeWhile_append_dropWhile (p := fun row => decide (row.2.1 < first.1)) (l := rows),
      List.mem_append] at hrow
    rcases hrow with hrow | hrow
    · have hend : row.2.1 < first.1 := by simpa using List.mem_takeWhile_imp hrow
      exact misses_of_disjoint (.inl (Nat.lt_of_lt_of_le hend hle))
    · rcases List.mem_cons.1 hrange with rfl | hrange
      · rcases mem_takeWhile_or_lt hahead range.2 hrow with hrow | hlt
        · exact hfirst row hrow
        · exact misses_of_disjoint (.inr hlt)
      · exact ih hranges.2 hahead hrest range hrange row hrow

theorem has_eq_any (ranges : CharRanges) (c : Char) : ranges.has c =
    ranges.toList.any fun range => range.1 ≤ c.toNat && c.toNat ≤ range.2 :=
  Array.any_toList.symm

theorem exists_of_has {ranges : CharRanges} {c : Char} (h : ranges.has c = true) :
    ∃ range ∈ ranges.toList, range.1 ≤ c.toNat ∧ c.toNat ≤ range.2 := by
  rw [has_eq_any, List.any_eq_true] at h
  obtain ⟨range, hrange, h⟩ := h
  rw [Bool.and_eq_true, decide_eq_true_eq, decide_eq_true_eq] at h
  exact ⟨range, hrange, h⟩

theorem image?_eq_none {rows : CaseShifts} {c : Char}
    (h : ∀ row ∈ rows.toList, covers row c.toNat = false) : rows.image? c = none := by
  rw [CaseShifts.image?, Option.map_eq_none_iff, ← Array.find?_toList, List.find?_eq_none]
  intro row hrow
  have := h row hrow
  simpa [covers] using this

/-- No lower-case letter is mapped to lower case. -/
theorem image?_of_isLowercase {c : Char} (h : isLowercase c = true) :
    lowerShifts.image? c = none := by
  have hranges : lowercaseRanges.toList.IsChain fun a b => a.1 ≤ b.1 := by decide +kernel
  have hrows : lowerShifts.toList.IsChain fun a b => a.1 ≤ b.1 := by decide +kernel
  have hsweep : sweep lowercaseRanges.toList lowerShifts.toList = true := by decide +kernel
  obtain ⟨range, hrange, hc⟩ := exists_of_has h
  refine image?_eq_none fun row hrow => ?_
  have hmisses := misses_of_sweep (List.isChain_iff_pairwise.1 hranges)
    (List.isChain_iff_pairwise.1 hrows) hsweep range hrange row hrow
  have := List.all_eq_true.1 hmisses c.toNat (List.mem_range'_1.2 (by omega))
  simpa using this

end Text

namespace Chars

open Text

variable {c : Char} {before after cs : List Char}

/-! ## One character -/

theorem lowerChar_of_ne (h : c ≠ 'İ') : lowerChar c = [(lowerShifts.image? c).getD c] := by
  have hnone : lowerSpecials.image? c = none := by
    have hcode : 0x130 ≠ c.toNat := fun hc => h (Char.toNat_inj.1 hc.symm)
    rw [CaseSpecials.image?, Option.map_eq_none_iff, ← Array.find?_toList, List.find?_eq_none]
    simpa [lowerSpecials] using hcode
  rw [lowerChar, hnone]

theorem isLowercase_dotted : isLowercase 'İ' = false := by
  rw [isLowercase, has_eq_any]
  decide +kernel

theorem isLowercase_sigma : isLowercase 'Σ' = false := by
  rw [isLowercase, has_eq_any]
  decide +kernel

/-- A lower-case letter is its own lower-case form. -/
theorem lowerChar_of_isLowercase (h : isLowercase c = true) : lowerChar c = [c] := by
  have hne : c ≠ 'İ' := fun hc => by rw [hc, isLowercase_dotted] at h; cases h
  rw [lowerChar_of_ne hne, image?_of_isLowercase h, Option.getD_none]

/-- The lower-case form of a character between what stands before it, last character first, and what
stands after it. -/
def lowerBetween (before : List Char) (c : Char) (after : List Char) : List Char :=
  if c == 'Σ' then if nextIsCased before && !nextIsCased after then ['ς'] else ['σ']
  else lowerChar c

theorem lowerAfter_cons (before : List Char) (c : Char) (cs : List Char) :
    lowerAfter before (c :: cs) = lowerBetween before c cs ++ lowerAfter (c :: before) cs := rfl

theorem lowerBetween_of_ne (h : c ≠ 'Σ') : lowerBetween before c after = lowerChar c :=
  if_neg (by simpa using h)

theorem lowerBetween_of_isLowercase (h : isLowercase c = true) :
    lowerBetween before c after = [c] := by
  have hne : c ≠ 'Σ' := fun hc => by rw [hc, isLowercase_sigma] at h; cases h
  rw [lowerBetween_of_ne hne, lowerChar_of_isLowercase h]

theorem length_lowerBetween (before : List Char) (c : Char) (after : List Char) :
    (lowerBetween before c after).length = 1 + if c == 'İ' then 1 else 0 := by
  by_cases hsigma : c = 'Σ'
  · subst hsigma
    rw [lowerBetween, if_pos (beq_self_eq_true _)]
    split <;> rfl
  rw [lowerBetween_of_ne hsigma]
  by_cases hdotted : c = 'İ'
  · subst hdotted
    decide +kernel
  · rw [lowerChar_of_ne hdotted, if_neg (by simpa using hdotted)]
    rfl

/-! ## Texts -/

/-- Every dotted capital I makes the lower-case form one character longer. -/
theorem length_lowerAfter (before cs : List Char) :
    (lowerAfter before cs).length = cs.length + cs.count 'İ' := by
  induction cs generalizing before with
  | nil => rfl
  | cons c cs ih =>
    rw [lowerAfter_cons, List.length_append, length_lowerBetween, ih, List.length_cons,
      List.count_cons]
    omega

theorem length_lower (cs : List Char) : (lower cs).length = cs.length + cs.count 'İ' :=
  length_lowerAfter [] cs

/-- The lower-case form of a text goes on, behind that of its first part, with that of its second
part read after the first. -/
theorem exists_lowerAfter_append (before first rest : List Char) :
    ∃ front, front.length = first.length + first.count 'İ' ∧
      lowerAfter before (first ++ rest) = front ++ lowerAfter (first.reverse ++ before) rest := by
  induction first generalizing before with
  | nil => exact ⟨[], rfl, rfl⟩
  | cons c first ih =>
    obtain ⟨front, hlength, hfront⟩ := ih (c :: before)
    refine ⟨lowerBetween before c (first ++ rest) ++ front, ?_, ?_⟩
    · rw [List.length_append, length_lowerBetween, hlength, List.length_cons, List.count_cons]
      omega
    · rw [List.cons_append, lowerAfter_cons, hfront, List.append_assoc, List.reverse_cons,
        List.append_assoc, List.singleton_append]

/-! ## What stands before a text -/

theorem nextIsCased_nil : nextIsCased [] = false := rfl

theorem nextIsCased_cons (c : Char) (cs : List Char) :
    nextIsCased (c :: cs) = if isCaseIgnorable c then nextIsCased cs else isCased c := by
  cases h : isCaseIgnorable c <;> simp [nextIsCased, h]

/-- All that counts of what stands before a text is whether the next character there has a case. -/
theorem lowerAfter_congr {other : List Char} (h : nextIsCased before = nextIsCased other)
    (cs : List Char) : lowerAfter before cs = lowerAfter other cs := by
  induction cs generalizing before other with
  | nil => rfl
  | cons c cs ih =>
    rw [lowerAfter_cons, lowerAfter_cons, lowerBetween, lowerBetween, h,
      ih (show nextIsCased (c :: before) = nextIsCased (c :: other) by
        rw [nextIsCased_cons, nextIsCased_cons, h])]

theorem isCaseIgnorable_sigma : isCaseIgnorable 'Σ' = false := by
  rw [isCaseIgnorable, has_eq_any]
  decide +kernel

theorem isCaseIgnorable_dotted : isCaseIgnorable 'İ' = false := by
  rw [isCaseIgnorable, has_eq_any]
  decide +kernel

/-- The position of a capital sigma that ends a word without another letter of the text before
it. -/
def loneSigma? : List Char → Option ℕ
  | [] => none
  | c :: cs =>
    if isCaseIgnorable c then (loneSigma? cs).map (· + 1)
    else if c == 'Σ' && !nextIsCased cs then some 0 else none

theorem lower_cons_of_isCaseIgnorable (h : isCaseIgnorable c = true) (cs : List Char) :
    ∃ d, (∀ before, lowerBetween before c cs = [d]) ∧ lower (c :: cs) = d :: lower cs := by
  have hsigma : c ≠ 'Σ' := fun hc => by rw [hc, isCaseIgnorable_sigma] at h; cases h
  have hdotted : c ≠ 'İ' := fun hc => by rw [hc, isCaseIgnorable_dotted] at h; cases h
  have hform (before : List Char) : lowerBetween before c cs = [_] :=
    (lowerBetween_of_ne hsigma).trans (lowerChar_of_ne hdotted)
  have hcontext : nextIsCased [c] = nextIsCased [] := by rw [nextIsCased_cons, if_pos h]
  refine ⟨_, hform, ?_⟩
  rw [lower, lowerAfter_cons, hform, lowerAfter_congr hcontext]
  rfl

theorem getElem?_lower_of_loneSigma? {m : ℕ} (h : loneSigma? cs = some m) :
    (lower cs)[m]? = some 'σ' := by
  induction cs generalizing m with
  | nil => cases h
  | cons c cs ih =>
    rw [loneSigma?] at h
    split at h
    · rename_i hignorable
      obtain ⟨k, hk, rfl⟩ := Option.map_eq_some_iff.1 h
      obtain ⟨d, -, hlower⟩ := lower_cons_of_isCaseIgnorable hignorable cs
      rw [hlower, List.getElem?_cons_succ, ih hk]
    · split at h
      · rename_i hsigma
        rw [Bool.and_eq_true, beq_iff_eq] at hsigma
        obtain ⟨rfl, -⟩ := hsigma
        obtain rfl := Option.some.inj h
        rfl
      · cases h

/-- After a character with a case, the form of a text differs from that of the text by itself in
the one sigma that ends the word begun before. -/
theorem lowerAfter_of_nextIsCased (h : nextIsCased before = true) (cs : List Char) :
    lowerAfter before cs = (loneSigma? cs).elim (lower cs) ((lower cs).set · 'ς') := by
  induction cs generalizing before with
  | nil => rfl
  | cons c cs ih =>
    rw [lowerAfter_cons, loneSigma?]
    by_cases hignorable : isCaseIgnorable c = true
    · obtain ⟨d, hform, hlower⟩ := lower_cons_of_isCaseIgnorable hignorable cs
      have hbefore : nextIsCased (c :: before) = true := by
        rw [nextIsCased_cons, if_pos hignorable, h]
      rw [hform, ih hbefore, if_pos hignorable, hlower]
      cases loneSigma? cs <;> rfl
    · have hcontext : nextIsCased (c :: before) = nextIsCased [c] := by
        rw [nextIsCased_cons, nextIsCased_cons, if_neg hignorable, if_neg hignorable]
      rw [if_neg hignorable, lower, lowerAfter_cons, lowerAfter_congr hcontext]
      by_cases hsigma : c = 'Σ'
      · subst hsigma
        cases hnext : nextIsCased cs <;> simp [lowerBetween, h, hnext, nextIsCased_nil]
      · rw [lowerBetween_of_ne hsigma, lowerBetween_of_ne hsigma, if_neg (by simp [hsigma])]
        rfl

/-- Changing an element of a list changes what the list begins with from that element on. -/
theorem prefix_iff_of_prefix_set {xs ys : List Char} {m : ℕ} {x y : Char} (hy : ys[m]? = some y)
    (hne : x ≠ y) (h : xs <+: ys.set m x) : xs <+: ys ↔ xs.length ≤ m := by
  have hm : m < ys.length := (List.getElem?_eq_some_iff.1 hy).1
  rw [List.prefix_iff_getElem?] at h ⊢
  constructor
  · intro hys
    by_contra hlt
    have hset := h m (by omega)
    rw [List.getElem?_set_self hm, ← hys m (by omega), hy] at hset
    exact hne (Option.some.inj hset)
  · intro hle i hi
    rw [← h i hi, List.getElem?_set_ne (by omega)]

/-- What the form of a text begins with after other characters, its form by itself begins with as
well, unless that reaches over the sigma that ends the word begun before. -/
theorem prefix_lower_iff {needle : List Char} (h : needle <+: lowerAfter before cs) :
    needle <+: lower cs ↔
      ¬(nextIsCased before = true ∧ ∃ m ∈ loneSigma? cs, m < needle.length) := by
  cases hbefore : nextIsCased before with
  | false =>
    rw [lowerAfter_congr (hbefore.trans nextIsCased_nil.symm)] at h
    exact iff_of_true h (by simp)
  | true =>
    rw [lowerAfter_of_nextIsCased hbefore] at h
    cases hsigma : loneSigma? cs with
    | none =>
      rw [hsigma] at h
      exact iff_of_true h (by simp)
    | some m =>
      rw [hsigma] at h
      rw [prefix_iff_of_prefix_set (getElem?_lower_of_loneSigma? hsigma) (by decide) h]
      simp

/-! ## A text cut in two -/

/-- What follows a position stands in the lower-case form as many characters further on as there are
dotted capitals I before the position. -/
theorem drop_lower {i : ℕ} (hi : i ≤ cs.length) :
    (lower cs).drop (i + (cs.take i).count 'İ') =
      lowerAfter (cs.take i).reverse (cs.drop i) := by
  obtain ⟨front, hlength, hfront⟩ := exists_lowerAfter_append [] (cs.take i) (cs.drop i)
  rw [List.take_append_drop, List.append_nil] at hfront
  rw [List.length_take_of_le hi] at hlength
  rw [lower, hfront, List.drop_left' hlength]

/-- The lower-case form of a text in which the sigma is not final that ends a word begun before a
position and has no other letter of that word behind the position. -/
def lowerCutAt (cs : List Char) (i : ℕ) : List Char :=
  if nextIsCased (cs.take i).reverse then
    (loneSigma? (cs.drop i)).elim (lower cs) fun m =>
      (lower cs).set (i + (cs.take i).count 'İ' + m) 'σ'
  else lower cs

theorem length_lowerCutAt (cs : List Char) (i : ℕ) :
    (lowerCutAt cs i).length = cs.length + cs.count 'İ' := by
  rw [lowerCutAt, ← length_lower]
  split
  · cases loneSigma? (cs.drop i) with
    | none => rfl
    | some m => exact List.length_set
  · rfl

/-- The part behind a position by itself is what the form of the whole text shows there once it is
cut at the position. -/
theorem drop_lowerCutAt {i : ℕ} (hi : i ≤ cs.length) :
    (lowerCutAt cs i).drop (i + (cs.take i).count 'İ') = lower (cs.drop i) := by
  rw [lowerCutAt]
  split
  · rename_i hbefore
    have hdrop := drop_lower hi
    rw [lowerAfter_of_nextIsCased hbefore] at hdrop
    cases hsigma : loneSigma? (cs.drop i) with
    | none =>
      rw [hsigma] at hdrop
      exact hdrop
    | some m =>
      obtain ⟨hm, hform⟩ := List.getElem?_eq_some_iff.1 (getElem?_lower_of_loneSigma? hsigma)
      rw [hsigma, Option.elim_some] at hdrop
      rw [Option.elim_some, ← List.set_drop, hdrop, List.set_set, ← hform, List.set_getElem_self]
  · rename_i hbefore
    rw [drop_lower hi]
    exact lowerAfter_congr (Bool.eq_false_iff.2 hbefore) _

end Chars

end BuildExpr
