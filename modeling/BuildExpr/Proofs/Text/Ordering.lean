import BuildExpr.Proofs.Text.LowerForm
import BuildExpr.Proofs.Text.Ranges
import Mathlib.Order.Compare

/-!
# The order of texts

Texts are ordered by their lower-case forms, and two with the same form by the first characters in
which they differ (`Chars.FirstDiffer`). At most one of these is a lower-case letter. If one is, its
text comes first; if none is, either text comes behind the other (`Text.compare_swap_iff`). Apart
from such texts `Compare` is a total order, and it refines the preorder that ignores case
(`TextFunctions.comparison_order`).
-/

namespace BuildExpr

namespace Chars

open Text

variable {x y z w : Char} {as bs cs before : List Char}

/-! ## The order by code points -/

theorem compare_eq_compareLex (as bs : List Char) :
    compare as bs = List.compareLex Ord.compare as bs := by
  induction as generalizing bs with
  | nil => cases bs <;> rfl
  | cons a as ih =>
    cases bs with
    | nil => rfl
    | cons b bs =>
      have hchar : Ord.compare a b =
          if a.toNat < b.toNat then .lt else if a = b then .eq else .gt := rfl
      rw [compare, List.compareLex_cons_cons, ih, hchar]
      by_cases hlt : a.toNat < b.toNat
      · rw [if_pos hlt, if_pos hlt]
        rfl
      rw [if_neg hlt, if_neg hlt]
      by_cases hab : a = b
      · rw [if_pos hab, if_neg (by rw [hab]; exact Nat.lt_irrefl _)]
        rfl
      · have hne : a.toNat ≠ b.toNat := fun h => hab (Char.toNat_inj.1 h)
        rw [if_neg hab, if_pos (by omega)]
        rfl

theorem compare_swap (as bs : List Char) : compare bs as = (compare as bs).swap := by
  rw [compare_eq_compareLex, compare_eq_compareLex]
  exact Std.OrientedCmp.eq_swap

theorem compare_eq_eq_iff : compare as bs = .eq ↔ as = bs := by
  rw [compare_eq_compareLex]
  exact Std.LawfulEqCmp.compare_eq_iff_eq

theorem compare_trans (h : (compare as bs).isLE = true) (h' : (compare bs cs).isLE = true) :
    (compare as cs).isLE = true := by
  rw [compare_eq_compareLex] at h h' ⊢
  exact Std.TransCmp.isLE_trans h h'

/-! ## The first difference -/

theorem lowerAfter_tail {c : Char}
    (h : lowerAfter before (c :: as) = lowerAfter before (c :: bs)) :
    lowerAfter (c :: before) as = lowerAfter (c :: before) bs := by
  rw [lowerAfter_cons, lowerAfter_cons] at h
  exact (List.append_inj h (by rw [length_lowerBetween, length_lowerBetween])).2

/-- The first characters in which two texts differ are `x` and `y`. -/
inductive FirstDiffer (x y : Char) : List Char → List Char → Prop
  | here (h : x ≠ y) (as bs : List Char) : FirstDiffer x y (x :: as) (y :: bs)
  | next (c : Char) {as bs : List Char} (h : FirstDiffer x y as bs) :
    FirstDiffer x y (c :: as) (c :: bs)

namespace FirstDiffer

theorem symm (h : FirstDiffer x y as bs) : FirstDiffer y x bs as := by
  induction h with
  | here h as bs => exact .here h.symm bs as
  | next c h ih => exact .next c ih

/-- Of three texts the first and the last differ first where the first of the two differences is. -/
theorem trans (h : FirstDiffer x y as bs) (h' : FirstDiffer z w bs cs) :
    FirstDiffer x y as cs ∨ FirstDiffer z w as cs ∨ y = z := by
  induction h generalizing cs with
  | here hne as bs =>
    cases h' with
    | here => exact .inr (.inr rfl)
    | next c h' => exact .inl (.here hne _ _)
  | next c h ih =>
    cases h' with
    | here hne bs cs => exact .inr (.inl (.here hne _ _))
    | next c h' => exact (ih h').imp (.next c) (.imp_left (.next c))

/-- Which of two texts comes first when they differ only in case. -/
theorem compareCase (h : FirstDiffer x y as bs) :
    Chars.compareCase as bs = some (if isLowercase x then .lt else .gt) := by
  induction h with
  | here h as bs => rw [Chars.compareCase, if_neg (by simpa using h)]
  | next c h ih => rw [Chars.compareCase, if_pos (beq_self_eq_true c), ih]

/-- The first difference of texts with the same lower-case form is not one of two lower-case
letters. -/
theorem not_both_lowercase (h : FirstDiffer x y as bs)
    (hform : lowerAfter before as = lowerAfter before bs) :
    ¬(isLowercase x = true ∧ isLowercase y = true) := by
  induction h generalizing before with
  | here hne as bs =>
    rintro ⟨hx, hy⟩
    rw [lowerAfter_cons, lowerAfter_cons, lowerBetween_of_isLowercase hx,
      lowerBetween_of_isLowercase hy] at hform
    exact hne (List.cons.inj hform).1
  | next c h ih => exact ih (lowerAfter_tail hform)

end FirstDiffer

theorem compareCase_self (cs : List Char) : compareCase cs cs = none := by
  induction cs with
  | nil => rfl
  | cons c cs ih => rw [compareCase, if_pos (beq_self_eq_true c), ih]

/-- Two texts with the same lower-case form are the same or differ somewhere; none of them goes on
behind the other. -/
theorem eq_or_firstDiffer (h : lowerAfter before as = lowerAfter before bs) :
    as = bs ∨ ∃ x y, FirstDiffer x y as bs := by
  have hlonger (before : List Char) (c : Char) (cs : List Char) :
      lowerAfter before (c :: cs) ≠ [] := by
    rw [← List.length_pos_iff, length_lowerAfter, List.length_cons]
    omega
  induction as generalizing bs before with
  | nil =>
    cases bs with
    | nil => exact .inl rfl
    | cons b bs => exact absurd h.symm (hlonger before b bs)
  | cons a as ih =>
    cases bs with
    | nil => exact absurd h (hlonger before a as)
    | cons b bs =>
      by_cases hab : a = b
      · subst hab
        refine (ih (lowerAfter_tail h)).imp (congrArg (a :: ·)) ?_
        rintro ⟨x, y, hdiffer⟩
        exact ⟨x, y, .next a hdiffer⟩
      · exact .inr ⟨a, b, .here hab as bs⟩

end Chars

namespace Text

open Chars (FirstDiffer)

variable {a b c : String} {x y : Char}

/-! ## The order of texts -/

theorem compare_ignoring (a b : String) :
    compare a b true = Chars.compare (Chars.lower a.toList) (Chars.lower b.toList) := by
  simp [compare]

theorem compare_ignoring_eq_eq_iff :
    compare a b true = .eq ↔ Chars.lower a.toList = Chars.lower b.toList := by
  rw [compare_ignoring, Chars.compare_eq_eq_iff]

theorem compare_ignoring_swap (a b : String) :
    compare b a true = (compare a b true).swap := by
  rw [compare_ignoring, compare_ignoring, Chars.compare_swap]

theorem compare_ignoring_trans (h : (compare a b true).isLE = true)
    (h' : (compare b c true).isLE = true) : (compare a c true).isLE = true := by
  rw [compare_ignoring] at h h' ⊢
  exact Chars.compare_trans h h'

/-- Texts of which neither comes behind the other if case is ignored have the same form. -/
theorem lower_eq_of_isLE (h : (compare a b true).isLE = true)
    (h' : (compare b a true).isLE = true) : Chars.lower a.toList = Chars.lower b.toList := by
  rw [compare_ignoring_swap a b] at h'
  rw [← compare_ignoring_eq_eq_iff]
  cases horder : compare a b true <;> simp_all

/-- Texts with different lower-case forms are ordered by these. -/
theorem compare_of_ne (h : compare a b true ≠ .eq) : compare a b false = compare a b true := by
  rw [compare_ignoring] at h ⊢
  simp [compare, h]

theorem compare_self (a : String) : compare a a false = .eq := by
  have hform : Chars.compare (Chars.lower a.toList) (Chars.lower a.toList) = .eq :=
    Chars.compare_eq_eq_iff.2 rfl
  simp [compare, hform, Chars.compareCase_self]

theorem compare_of_firstDiffer (hform : Chars.lower a.toList = Chars.lower b.toList)
    (h : FirstDiffer x y a.toList b.toList) :
    compare a b false = if isLowercase x then .lt else .gt := by
  rw [← Chars.compare_eq_eq_iff] at hform
  simp [compare, hform, h.compareCase]

/-- How two texts compare: by their lower-case forms, as one text, or by their first difference. -/
theorem compare_cases (a b : String) :
    (compare a b true ≠ .eq ∧ compare a b false = compare a b true) ∨ a = b ∨
      ∃ x y, Chars.lower a.toList = Chars.lower b.toList ∧ FirstDiffer x y a.toList b.toList ∧
        ¬(isLowercase x = true ∧ isLowercase y = true) ∧
        compare a b false = if isLowercase x then .lt else .gt := by
  by_cases hform : Chars.lower a.toList = Chars.lower b.toList
  · refine .inr ((Chars.eq_or_firstDiffer hform).imp String.toList_inj.1 ?_)
    rintro ⟨x, y, h⟩
    exact ⟨x, y, hform, h, h.not_both_lowercase hform, compare_of_firstDiffer hform h⟩
  · have hne := mt compare_ignoring_eq_eq_iff.1 hform
    exact .inl ⟨hne, compare_of_ne hne⟩

theorem compare_eq_eq_iff : compare a b false = .eq ↔ a = b := by
  refine ⟨fun h => ?_, fun h => h ▸ compare_self a⟩
  obtain ⟨hne, heq⟩ | hab | ⟨x, y, -, -, -, heq⟩ := compare_cases a b
  · exact absurd (heq.symm.trans h) hne
  · exact hab
  · rw [heq] at h
    split at h <;> cases h

/-- The order refines the one that ignores case. -/
theorem isLE_compare_ignoring (h : (compare a b false).isLE = true) :
    (compare a b true).isLE = true := by
  by_cases hne : compare a b true = .eq
  · rw [hne]
    rfl
  · rwa [← compare_of_ne hne]

/-- Of two texts with the same lower-case form one does not come behind the other exactly if it has
a lower-case letter at the first difference. -/
theorem isLE_iff_isLowercase (hform : Chars.lower a.toList = Chars.lower b.toList)
    (h : FirstDiffer x y a.toList b.toList) :
    (compare a b false).isLE = true ↔ isLowercase x = true := by
  rw [compare_of_firstDiffer hform h]
  cases isLowercase x <;> decide

theorem compare_trans_of_lower_eq (hform : Chars.lower a.toList = Chars.lower b.toList)
    (hform' : Chars.lower b.toList = Chars.lower c.toList) (h : (compare a b false).isLE = true)
    (h' : (compare b c false).isLE = true) : (compare a c false).isLE = true := by
  obtain hab | ⟨x, y, hfirst⟩ := Chars.eq_or_firstDiffer hform
  · rwa [String.toList_inj.1 hab]
  obtain hbc | ⟨z, w, hsecond⟩ := Chars.eq_or_firstDiffer hform'
  · rwa [← String.toList_inj.1 hbc]
  have hx := (isLE_iff_isLowercase hform hfirst).1 h
  have hz := (isLE_iff_isLowercase hform' hsecond).1 h'
  obtain hdiffer | hdiffer | rfl := hfirst.trans hsecond
  · exact (isLE_iff_isLowercase (hform.trans hform') hdiffer).2 hx
  · exact (isLE_iff_isLowercase (hform.trans hform') hdiffer).2 hz
  · exact absurd ⟨hx, hz⟩ (hfirst.not_both_lowercase hform)

theorem compare_trans (h : (compare a b false).isLE = true)
    (h' : (compare b c false).isLE = true) : (compare a c false).isLE = true := by
  have hab := isLE_compare_ignoring h
  have hbc := isLE_compare_ignoring h'
  by_cases hac : compare a c true = .eq
  · -- The forms of `a` and `c` are the same, so that of `b` between them is so too.
    have hca : (compare c a true).isLE = true := by
      rw [compare_ignoring_swap a c, hac]
      rfl
    have hba := compare_ignoring_trans hbc hca
    have hcb := compare_ignoring_trans hca hab
    exact compare_trans_of_lower_eq (lower_eq_of_isLE hab hba) (lower_eq_of_isLE hbc hcb) h h'
  · rw [compare_of_ne hac]
    exact compare_ignoring_trans hab hbc

/-- Two texts that differ only in case, and first in two characters of which none is a lower-case
letter. -/
def CapitalsDiffer (a b : String) : Prop :=
  Chars.lower a.toList = Chars.lower b.toList ∧
    ∃ x y, FirstDiffer x y a.toList b.toList ∧ isLowercase x = false ∧ isLowercase y = false

theorem CapitalsDiffer.compare_eq_gt (h : CapitalsDiffer a b) :
    compare a b false = .gt ∧ compare b a false = .gt := by
  obtain ⟨hform, x, y, hdiffer, hx, hy⟩ := h
  rw [compare_of_firstDiffer hform hdiffer, compare_of_firstDiffer hform.symm hdiffer.symm,
    if_neg (by simp [hx]), if_neg (by simp [hy])]
  exact ⟨rfl, rfl⟩

/-- The order is reversed with its texts, except for texts whose first difference is one of two
characters that are no lower-case letters. -/
theorem compare_swap_iff (a b : String) :
    compare b a false = (compare a b false).swap ↔ ¬ CapitalsDiffer a b := by
  constructor
  · intro h hcapitals
    rw [hcapitals.compare_eq_gt.1, hcapitals.compare_eq_gt.2] at h
    cases h
  · intro h
    obtain ⟨hne, heq⟩ | rfl | ⟨x, y, hform, hdiffer, hboth, heq⟩ := compare_cases a b
    · have hswap := compare_ignoring_swap a b
      rw [heq, ← hswap]
      refine compare_of_ne fun hba => hne ?_
      rwa [hswap, Ordering.swap_eq_eq] at hba
    · rw [compare_self]
      rfl
    · rw [heq, compare_of_firstDiffer hform.symm hdiffer.symm]
      cases hx : isLowercase x with
      | true =>
        rw [if_neg fun hy => hboth ⟨hx, hy⟩]
        rfl
      | false =>
        have hy : isLowercase y = true := by
          by_contra hy
          exact h ⟨hform, x, y, hdiffer, hx, eq_false_of_ne_true hy⟩
        rw [if_pos hy]
        rfl

end Text

namespace TextFunctions

open Arguments FunctionTable

variable {a b c : String} {v : Value}

/-! ## Comparisons -/

/-- The number that a comparison gives. -/
def sign : Ordering → Int64
  | .lt => -1
  | .eq => 0
  | .gt => 1

theorem ofOrdering_eq (o : Ordering) : Value.ofOrdering o = .int (sign o) := by
  cases o <;> rfl

theorem sign_inj {o o' : Ordering} : sign o = sign o' ↔ o = o' := by
  cases o <;> cases o' <;> decide

theorem sign_swap (o : Ordering) : sign o.swap = -sign o := by
  cases o <;> rfl

theorem sign_nonpos {o : Ordering} : sign o ≤ 0 ↔ o.isLE = true := by
  cases o <;> decide

theorem sign_neg {o : Ordering} : sign o < 0 ↔ o = .lt := by
  cases o <;> decide

/-- An argument that tells `Compare` to ignore case: a true one, or one that is no boolean and names
a comparison that does. -/
def IgnoresCase (v : Value) : Prop :=
  bool? v = some true ∨ bool? v = none ∧ ignoreCase [v] 0 = .ok true

/-- What `Compare` and `CompareTo` give for two texts. -/
def Compares (a b : String) (r : Int64) : Prop :=
  Answers "System.String" "Compare" [.text a, .text b] (.ok (.int r)) ∧
    MemberAnswers (.text a) "CompareTo" [.text b] (.ok (.int r))

/-- What `Compare` gives for two texts with an argument that tells it to ignore case. -/
def ComparesIgnoringCase (a b : String) (r : Int64) : Prop :=
  ∀ v, IgnoresCase v →
    Answers "System.String" "Compare" [.text a, .text b, v] (.ok (.int r))

theorem answers_compare (a b : String) {more : List Value} (h : more.length ≤ 1) :
    Answers "System.String" "Compare" (.text a :: .text b :: more)
      (compare (.text a :: .text b :: more)) :=
  answers_of_resolve (resolveStatic_of_find (by rfl : _ = "system.string")
    (by rfl : _ = "compare") rfl
    (decide_eq_true (⟨by omega, by omega⟩ : 2 ≤ more.length + 2 ∧ more.length + 2 ≤ 3)))

/-- The number that tells how two texts compare. -/
def compared (a b : String) : Int64 := sign (Text.compare a b false)

/-- The number that tells how two texts compare if case is ignored. -/
def comparedIgnoringCase (a b : String) : Int64 := sign (Text.compare a b true)

theorem compares (a b : String) : Compares a b (compared a b) := by
  rw [Compares, compared, ← ofOrdering_eq]
  refine ⟨answers_compare a b (Nat.zero_le 1), ?_⟩
  have h : MemberAnswers (.text a) "CompareTo" [.text b] (compareTo [.text a, .text b]) :=
    answers_member (by rfl : _ = "compareto") (by rfl) a (by rfl)
  exact h

theorem compare_third (hv : IgnoresCase v) (a b : String) :
    compare [.text a, .text b, v] = .ok (.ofOrdering (Text.compare a b true)) := by
  have hgiven : ¬ (!isGiven [.text a, .text b, v] 2) = true := by simp [isGiven]
  have hbool : bool [.text a, .text b, v] 2 =
      wants [.text a, .text b, v] 2 .boolean (bool? v) := rfl
  rw [compare, if_neg hgiven, hbool]
  obtain htrue | ⟨hnone, hignore⟩ := hv
  · rw [htrue]
    rfl
  · have hthird : ignoreCase [.text a, .text b, v] 2 = .ok true :=
      ignoreCase_of_value_eq (by simp) (by simp) (by rfl : _ = value [v] 0) hignore
    rw [hnone, hthird]
    rfl

example (a b : String) : compare [.text a, .text b, .text "OrdinalIgnoreCase"] =
    .ok (.ofOrdering (Text.compare a b true)) := by
  rfl

theorem comparesIgnoringCase (a b : String) :
    ComparesIgnoringCase a b (comparedIgnoringCase a b) := by
  intro v hv
  rw [comparedIgnoringCase, ← ofOrdering_eq, ← compare_third hv]
  exact answers_compare a b (Nat.le_refl 1)

theorem compared_eq_zero_iff : compared a b = 0 ↔ a = b :=
  (show sign _ = sign .eq ↔ _ from sign_inj).trans Text.compare_eq_eq_iff

theorem compared_swap_iff (a b : String) :
    compared b a = -compared a b ↔ ¬ Text.CapitalsDiffer a b := by
  rw [compared, compared, ← sign_swap, sign_inj, Text.compare_swap_iff]

theorem compared_trans (h : compared a b ≤ 0) (h' : compared b c ≤ 0) : compared a c ≤ 0 := by
  rw [compared, sign_nonpos] at h h' ⊢
  exact Text.compare_trans h h'

theorem comparedIgnoringCase_swap (a b : String) :
    comparedIgnoringCase b a = -comparedIgnoringCase a b := by
  rw [comparedIgnoringCase, comparedIgnoringCase, ← sign_swap, Text.compare_ignoring_swap]

theorem comparedIgnoringCase_trans (h : comparedIgnoringCase a b ≤ 0)
    (h' : comparedIgnoringCase b c ≤ 0) : comparedIgnoringCase a c ≤ 0 := by
  rw [comparedIgnoringCase, sign_nonpos] at h h' ⊢
  exact Text.compare_ignoring_trans h h'

theorem comparedIgnoringCase_nonpos_of_compared (h : compared a b ≤ 0) :
    comparedIgnoringCase a b ≤ 0 := by
  rw [compared, sign_nonpos] at h
  rw [comparedIgnoringCase, sign_nonpos]
  exact Text.isLE_compare_ignoring h

theorem compared_neg_of_ignoringCase (h : comparedIgnoringCase a b < 0) : compared a b < 0 := by
  rw [comparedIgnoringCase, sign_neg] at h
  rw [compared, sign_neg, Text.compare_of_ne (by rw [h]; decide), h]

/-- `Compare`, and `CompareTo`, give a number for any two texts. It is zero exactly for one and the
same text, and it is transitive. It turns its sign with the texts, unless these differ only in case
and first in two characters that are no lower-case letters: then it is one both ways. With an
argument that tells it to ignore case, `Compare` gives a total preorder, which the order refines. -/
theorem comparison_order (a b c : String) :
    Compares a b (compared a b) ∧ ComparesIgnoringCase a b (comparedIgnoringCase a b) ∧
      (compared a b = 0 ↔ a = b) ∧
      (compared b a = -compared a b ↔ ¬ Text.CapitalsDiffer a b) ∧
      (compared a b ≤ 0 → compared b c ≤ 0 → compared a c ≤ 0) ∧
      comparedIgnoringCase b a = -comparedIgnoringCase a b ∧
      (comparedIgnoringCase a b ≤ 0 → comparedIgnoringCase b c ≤ 0 →
        comparedIgnoringCase a c ≤ 0) ∧
      (compared a b ≤ 0 → comparedIgnoringCase a b ≤ 0) ∧
      (comparedIgnoringCase a b < 0 → compared a b < 0) :=
  ⟨compares a b, comparesIgnoringCase a b, compared_eq_zero_iff, compared_swap_iff a b,
    compared_trans, comparedIgnoringCase_swap a b, comparedIgnoringCase_trans,
    comparedIgnoringCase_nonpos_of_compared, compared_neg_of_ignoringCase⟩

/-- Of the letter K and the sign of the kelvin either comes behind the other. -/
theorem exists_comparison_not_reversed :
    Compares "K" "\u212a" 1 ∧ Compares "\u212a" "K" 1 ∧ (1 : Int64) ≠ -1 := by
  have hform {c : Char} (hdotted : c ≠ 'İ') (hsigma : c ≠ 'Σ')
      (himage : Text.lowerShifts.image? c = some 'k') : Chars.lower [c] = ['k'] := by
    rw [Chars.lower, Chars.lowerAfter_cons, Chars.lowerBetween_of_ne hsigma,
      Chars.lowerChar_of_ne hdotted, himage]
    rfl
  have hletter : Chars.lower "K".toList = ['k'] := by
    refine hform (by decide) (by decide) ?_
    rw [Text.CaseShifts.image?, ← Array.find?_toList]
    decide +kernel
  have hsign : Chars.lower "\u212a".toList = ['k'] := by
    refine hform (by decide) (by decide) ?_
    rw [Text.CaseShifts.image?, ← Array.find?_toList]
    decide +kernel
  have hcapitals : Text.CapitalsDiffer "K" "\u212a" := by
    refine ⟨hletter.trans hsign.symm, 'K', '\u212a', .here (by decide) [] [], ?_, ?_⟩
    all_goals
      rw [Text.isLowercase, Text.has_eq_any]
      decide +kernel
  have hfirst := compares "K" "\u212a"
  have hsecond := compares "\u212a" "K"
  rw [compared, hcapitals.compare_eq_gt.1] at hfirst
  rw [compared, hcapitals.compare_eq_gt.2] at hsecond
  exact ⟨hfirst, hsecond, by decide⟩

end TextFunctions

end BuildExpr
