import BuildExpr.Proofs.Text.SearchWindow

/-!
# Searching backwards

A search backwards gives the last position with a property, or none if there is none (`IsLast`). The
last occurrence of a text is what `Chars.findLast?` gives (`Chars.isLast_findLast?`). `LastIndexOf`
finds the last occurrence that ends at its start or before, and its count has no effect, so that it
keeps to the window of its arguments only if that occurrence begins in it
(`TextFunctions.lastIndexOf_window_iff`).
-/

namespace BuildExpr

/-- The last number with a property, or nothing if no number has it. -/
def IsLast (P : ℕ → Prop) : Option ℕ → Prop
  | some i => IsGreatest {j | P j} i
  | none => ∀ i, ¬ P i

namespace IsLast

variable {P Q : ℕ → Prop} {found : Option ℕ}

theorem congr (h : IsLast P found) (hPQ : ∀ i, P i ↔ Q i) : IsLast Q found :=
  (funext fun i => propext (hPQ i) : P = Q) ▸ h

theorem mem {i : ℕ} (h : IsLast P found) (hi : i ∈ found) : P i := by
  rw [Option.mem_def] at hi
  subst hi
  exact h.1

/-- The last of some numbers is the last one of those from a bound on exactly if it is not below
the bound. -/
theorem and_le_iff (h : IsLast P found) (bound : ℤ) :
    IsLast (fun i => bound ≤ i ∧ P i) found ↔ ∀ i ∈ found, bound ≤ i := by
  constructor
  · exact fun hbound i hi => (hbound.mem hi).1
  · intro hbound
    cases found with
    | none => exact fun i hi => h i hi.2
    | some i => exact ⟨⟨hbound i rfl, h.1⟩, fun j hj => h.2 hj.2⟩

end IsLast

namespace Chars

variable {needle cs : List Char} {i : ℕ}

/-- A search backwards finds the last occurrence. -/
theorem isLast_findLast? (needle cs : List Char) :
    IsLast (OccursAt needle cs) (findLast? needle cs) := by
  induction cs with
  | nil =>
    rw [findLast?]
    cases needle with
    | nil => exact ⟨occursAt_zero.2 rfl, fun i hi => hi.stop_le⟩
    | cons c needle => exact fun i h => absurd h.stop_le (by simp)
  | cons c cs ih =>
    rw [findLast?]
    cases hfound : findLast? needle cs with
    | some i =>
      rw [hfound] at ih
      refine ⟨occursAt_succ.2 ih.1, fun j hj => ?_⟩
      cases j with
      | zero => exact Nat.zero_le _
      | succ j => exact Nat.succ_le_succ (ih.2 (occursAt_succ.1 hj))
    | none =>
      rw [hfound] at ih
      have hbehind (j : ℕ) : ¬ OccursAt needle (c :: cs) (j + 1) := fun hj =>
        ih j (occursAt_succ.1 hj)
      show IsLast _ (if needle.isPrefixOf (c :: cs) = true then some 0 else none)
      split
      · rename_i hbegins
        refine ⟨occursAt_zero.2 hbegins, fun j hj => ?_⟩
        cases j with
        | zero => exact Nat.le_refl 0
        | succ j => exact absurd hj (hbehind j)
      · rename_i hbegins
        intro j hj
        cases j with
        | zero => exact hbegins (occursAt_zero.1 hj)
        | succ j => exact hbehind j hj

/-- An occurrence in the first part of a text is one in the text that ends with that part. -/
theorem occursAt_take {stop : ℕ} (hstop : stop ≤ cs.length) :
    OccursAt needle (cs.take stop) i ↔ i + needle.length ≤ stop ∧ OccursAt needle cs i := by
  have h : OccursAt needle ((cs.drop 0).take stop) i ↔ _ := occursAt_window (by omega)
  rwa [List.drop_zero, Nat.zero_add, Nat.zero_add] at h

end Chars

namespace TextFunctions

open Arguments FunctionTable

variable {s : String} {a p : Value} {start : ℤ} {found : Option ℕ} {member : String}
  {args : List Value}

/-- A member of a text answers a position, or -1 if there is none. -/
def AnswersPosition (s : String) (member : String) (args : List Value) (found : Option ℕ) : Prop :=
  ∃ r : Int64, MemberAnswers (.text s) member args (.ok (.int r)) ∧
    r.toInt = found.elim (-1) Nat.cast

theorem answersPosition {n : ℕ} (hn : n < 2 ^ 63) (hfound : ∀ i ∈ found, i ≤ n)
    (h : MemberAnswers (.text s) member args (.ok (position found))) :
    AnswersPosition s member args found := by
  obtain ⟨r, hr, hvalue⟩ := position_toInt hn hfound
  exact ⟨r, hr ▸ h, hvalue⟩

theorem answers_lastIndexOf (s : String) (p : Value) {more : List Value} (h : more.length ≤ 2) :
    MemberAnswers (.text s) "LastIndexOf" (p :: more) (lastIndexOf (.text s :: p :: more)) :=
  answers_member (by rfl : _ = "lastindexof") (by rfl) s (by simp; omega)

/-- Only the start of a window is looked at. -/
theorem lastIndexOf_eq {i : ℕ} (hs : s.length < 2 ^ 63) (ha : IsInteger a i) (hi : i < s.length)
    (p b : Value) : lastIndexOf [.text s, p, a, b] =
      .ok (position (Chars.findLast? p.display.toList (s.toList.take (i + 1)))) := by
  have hnames : namesComparison [.text s, p, a, b] = false := rfl
  have hchars : chars [.text s, p, a, b] 0 = s.toList := rfl
  have hpart : chars [.text s, p, a, b] 1 = p.display.toList := rfl
  obtain ⟨n, hn, hfit⟩ := Integer.fit?_of_fits (⟨by omega, by omega⟩ : Integer.Fits i)
  have hstart : integer [.text s, p, a, b] 2 = .ok n :=
    integer_of_integer? ((integer?_of_isInteger ha).trans hfit)
  rw [lastIndexOf, hnames, if_neg Bool.false_ne_true, if_pos (by rfl), hstart, hchars, hpart,
    String.length_toList]
  simp only [bind, Except.bind, hn]
  rw [if_neg (by omega)]
  rfl

/-- The part of a text at a position that is as long as a given text is that text. -/
def HasPartAt (s part : String) (i : ℕ) : Prop :=
  MemberAnswers (.text s) "Substring" [.ofInt i, .ofInt part.length] (.ok (.text part))

/-- `LastIndexOf` with a start and a count, in a text whose positions are words. Whatever the count
is, it gives the last position of a part that ends at the start or before. It gives the last such
position in the window of as many characters as the count says, going back from the start, exactly
if that position is in the window or there is none at all. -/
theorem lastIndexOf_window_iff (hs : s.length < 2 ^ 63) (ha : IsInteger a start)
    (hstart : 0 ≤ start ∧ start < s.length) (p : Value) :
    ∃ found, (∀ b, AnswersPosition s "LastIndexOf" [p, a, b] found) ∧
      IsLast (fun i => i + p.display.length ≤ start + 1 ∧ HasPartAt s p.display i) found ∧
      ∀ count : ℤ, IsLast (fun i => start - count + 1 ≤ i ∧
          i + p.display.length ≤ start + 1 ∧ HasPartAt s p.display i) found ↔
        ∀ i ∈ found, start - count + 1 ≤ i := by
  obtain ⟨n, rfl⟩ := Int.eq_ofNat_of_zero_le hstart.1
  have hn : n < s.length := Int.ofNat_lt.1 hstart.2
  have hlast := Chars.isLast_findLast? p.display.toList (s.toList.take (n + 1))
  have hfound := hlast.congr fun i : ℕ =>
    show _ ↔ (i : ℤ) + p.display.length ≤ n + 1 ∧ HasPartAt s p.display i by
      rw [Chars.occursAt_take (by rw [String.length_toList]; omega), String.length_toList]
      constructor
      · rintro ⟨hstop, h⟩
        exact ⟨by omega, (answers_substring_iff hs (by omega)).2 h⟩
      · rintro ⟨hstop, h⟩
        exact ⟨by omega, (answers_substring_iff hs (by omega)).1 h⟩
  refine ⟨_, fun b => ?_, hfound, fun count => hfound.and_le_iff (n - count + 1)⟩
  have hanswer := answers_lastIndexOf s p (Nat.le_refl [a, b].length)
  rw [lastIndexOf_eq hs ha hn] at hanswer
  refine answersPosition hs (fun i hi => ?_) hanswer
  have := (hfound.mem hi).1
  omega

/-- A start behind two occurrences, in a text that goes on behind them. -/
theorem lastIndexOf_window_iff_of_two_parts :
    "añbñ€".length < 2 ^ 63 ∧ IsInteger (.int 4) 4 ∧
      ∃ found, (∀ b, AnswersPosition "añbñ€" "LastIndexOf" [.text "ñ", .int 4, b] found) ∧
        IsLast (fun i => i + 1 ≤ (4 : ℤ) + 1 ∧ HasPartAt "añbñ€" "ñ" i) found ∧
        ∀ count : ℤ, IsLast (fun i => 4 - count + 1 ≤ i ∧
            i + 1 ≤ (4 : ℤ) + 1 ∧ HasPartAt "añbñ€" "ñ" i) found ↔
          ∀ i ∈ found, 4 - count + 1 ≤ (i : ℤ) := by
  have hs : "añbñ€".length < 2 ^ 63 := by decide
  have hstart : IsInteger (.int 4) 4 := .word (i := 4) rfl
  exact ⟨hs, hstart, lastIndexOf_window_iff hs hstart ⟨by decide, by decide⟩ (.text "ñ")⟩

/-- The last occurrence is found though it begins before the window of one character. -/
theorem exists_lastIndexOf_before_window :
    AnswersPosition "abc" "LastIndexOf" [.text "a", .int 2, .int 1] (some 0) ∧
      ¬ IsLast (fun i => (2 : ℤ) - 1 + 1 ≤ i ∧ i + 1 ≤ (2 : ℤ) + 1 ∧ HasPartAt "abc" "a" i)
        (some 0) := by
  refine ⟨⟨0, ?_, rfl⟩, fun h => absurd (h.mem rfl).1 (by decide)⟩
  have hs : "abc".length < 2 ^ 63 := by decide
  have hstart : IsInteger (.int 2) 2 := .word (i := 2) rfl
  have hanswer := answers_lastIndexOf "abc" (.text "a") (Nat.le_refl [Value.int 2, .int 1].length)
  rwa [lastIndexOf_eq hs hstart (by decide)] at hanswer

end TextFunctions

end BuildExpr
