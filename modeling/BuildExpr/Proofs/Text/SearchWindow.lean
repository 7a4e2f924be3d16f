import BuildExpr.Proofs.Number.Arithmetic
import BuildExpr.Proofs.Text.Ranges
import Mathlib.Order.Bounds.Basic

/-!
# Searching a window of a text

A search gives the first position with a property, or none if there is none (`IsFirst`). The first
occurrence of a text is what `Chars.find?` gives (`Chars.isFirst_find?`). The members that search a
window of a text refuse exactly the windows that are no range of the text, and otherwise find the
first position within the window (`TextFunctions.search_in_window`).
-/

namespace BuildExpr

/-- The first number with a property, or nothing if no number has it. -/
def IsFirst (P : ℕ → Prop) : Option ℕ → Prop
  | some i => IsLeast {j | P j} i
  | none => ∀ i, ¬ P i

namespace IsFirst

variable {P Q : ℕ → Prop} {found : Option ℕ}

theorem congr (h : IsFirst P found) (hPQ : ∀ i, P i ↔ Q i) : IsFirst Q found :=
  (funext fun i => propext (hPQ i) : P = Q) ▸ h

theorem some_zero (h : P 0) : IsFirst P (some 0) := ⟨h, fun _ _ => Nat.zero_le _⟩

theorem mem {i : ℕ} (h : IsFirst P found) (hi : i ∈ found) : P i := by
  rw [Option.mem_def] at hi
  subst hi
  exact h.1

/-- The first of the numbers that are all beyond `start`. -/
theorem shift {start : ℕ} (hstart : ∀ j, P j → start ≤ j)
    (h : IsFirst (fun i => P (start + i)) found) : IsFirst P (found.map (start + ·)) := by
  cases found with
  | none =>
    intro j hj
    refine h (j - start) ?_
    show P (start + (j - start))
    rwa [Nat.add_sub_cancel' (hstart j hj)]
  | some i =>
    refine ⟨h.1, fun j hj => ?_⟩
    have hle : i ≤ j - start := h.2 (by
      rwa [Set.mem_ofPred, Nat.add_sub_cancel' (hstart j hj)])
    show start + i ≤ j
    have := hstart j hj
    omega

end IsFirst

namespace Chars

/-! ## Occurrences -/

/-- From the position `i` on stands `needle`. -/
structure OccursAt (needle cs : List Char) (i : ℕ) : Prop where
  stop_le : i + needle.length ≤ cs.length
  take_drop : (cs.drop i).take needle.length = needle

variable {needle cs : List Char} {i : ℕ}

theorem occursAt_zero : OccursAt needle cs 0 ↔ needle.isPrefixOf cs = true := by
  rw [List.isPrefixOf_iff_prefix, List.prefix_iff_eq_take]
  constructor
  · exact fun h => h.take_drop.symm
  · intro h
    have hlength := congrArg List.length h
    rw [List.length_take] at hlength
    exact ⟨by omega, h.symm⟩

theorem occursAt_succ {c : Char} : OccursAt needle (c :: cs) (i + 1) ↔ OccursAt needle cs i := by
  constructor <;> rintro ⟨hstop, htake⟩ <;> refine ⟨?_, htake⟩ <;>
    simp only [List.length_cons] at hstop ⊢ <;> omega

/-- A search finds the first occurrence. -/
theorem isFirst_find? (needle cs : List Char) : IsFirst (OccursAt needle cs) (find? needle cs) := by
  induction cs with
  | nil =>
    rw [find?]
    cases needle with
    | nil => exact .some_zero (occursAt_zero.2 rfl)
    | cons c needle => exact fun i h => absurd h.stop_le (by simp)
  | cons c cs ih =>
    rw [find?]
    split
    · rename_i h
      exact .some_zero (occursAt_zero.2 h)
    · rename_i h
      rw [show (fun i => i + 1) = (1 + ·) from funext fun i => Nat.add_comm i 1]
      refine .shift (fun j hj => ?_) (ih.congr fun i => ?_)
      · by_contra hj'
        obtain rfl : j = 0 := by omega
        exact h (occursAt_zero.1 hj)
      · rw [Nat.add_comm 1 i, occursAt_succ]

/-- An occurrence in a window is one in the text that ends with the window. -/
theorem occursAt_window {start count : ℕ} (hstop : start + count ≤ cs.length) :
    OccursAt needle ((cs.drop start).take count) i ↔
      start + i + needle.length ≤ start + count ∧ OccursAt needle cs (start + i) := by
  have hlength : ((cs.drop start).take count).length = count := by
    rw [List.length_take, List.length_drop]
    omega
  have htake (h : i + needle.length ≤ count) :
      (((cs.drop start).take count).drop i).take needle.length =
        (cs.drop (start + i)).take needle.length := by
    rw [List.drop_take, List.take_take, List.drop_drop, Nat.min_eq_left (by omega)]
  constructor
  · rintro ⟨h, hneedle⟩
    rw [hlength] at h
    rw [htake h] at hneedle
    exact ⟨by omega, by omega, hneedle⟩
  · rintro ⟨h, -, hneedle⟩
    have h' : i + needle.length ≤ count := by omega
    exact ⟨by rwa [hlength], by rwa [htake h']⟩

/-- The first character of a set in a window of a text. -/
theorem isFirst_findIdx? (any cs : List Char) :
    IsFirst (fun i => ∃ c ∈ any, cs[i]? = some c) (cs.findIdx? any.contains) := by
  cases hfound : cs.findIdx? any.contains with
  | none =>
    rintro i ⟨c, hc, hi⟩
    have habsent := List.findIdx?_eq_none_iff.1 hfound c (List.mem_of_getElem? hi)
    simp [hc] at habsent
  | some i =>
    obtain ⟨hi, hmem, hbefore⟩ := List.findIdx?_eq_some_iff_getElem.1 hfound
    refine ⟨⟨cs[i], by simpa using hmem, List.getElem?_eq_getElem hi⟩, ?_⟩
    rintro j ⟨c, hc, hj⟩
    by_contra hlt
    obtain ⟨hj', rfl⟩ := List.getElem?_eq_some_iff.1 hj
    exact hbefore j (by omega) (by simpa using hc)

end Chars

namespace Arguments

/-- A value that is taken as an integer, or the decimal text of an integer of any size. -/
inductive IsInteger : Value → ℤ → Prop
  | word {v : Value} {i : Int64} (h : integer? v = some i) : IsInteger v i.toInt
  | decimal {s : String} {n : ℤ} (h : Integer.IsDecimal s.toList n) : IsInteger (.text s) n

theorem integer?_of_isInteger {v : Value} {n : ℤ} (h : IsInteger v n) :
    integer? v = Integer.fit? n := by
  cases h with
  | word h => rw [h, Integer.fit?_eq_some_iff.2 rfl]
  | decimal h => exact Integer.parse?_of_isDecimal h

/-- The characters that an argument is taken as do not depend on where it stands. -/
theorem charList_of_value_eq {args others : List Value} {i j : ℕ} {any : List Char}
    (hvalue : value args i = value others j) (h : charList others j = .ok any) :
    charList args i = .ok any := by
  rw [charList] at h
  rw [charList, hvalue]
  split at h <;> simp_all [mismatch]

end Arguments

namespace TextFunctions

open Arguments FunctionTable

variable {s : String} {a b p : Value} {start count : ℤ} {P : ℕ → Prop} {member : String}

theorem position_toInt {found : Option ℕ} {n : ℕ} (hn : n < 2 ^ 63) (hfound : ∀ i ∈ found, i ≤ n) :
    ∃ r : Int64, position found = .int r ∧ r.toInt = found.elim (-1) Nat.cast := by
  cases found with
  | none => exact ⟨-1, rfl, rfl⟩
  | some i =>
    exact ⟨Int64.ofInt i, rfl, Integer.toInt_ofNat (Nat.lt_of_le_of_lt (hfound i rfl) hn)⟩

/-- A range of the text is searched. -/
theorem searchRange_inside (hs : s.length < 2 ^ 63) (ha : IsInteger a start)
    (hb : IsInteger b count) (h : IsRange s.length start count) (p : Value) :
    searchRange [.text s, p, a, b] s.length 2 = .ok (start.toNat, count.toNat) := by
  obtain ⟨hstart, hcount, hstop⟩ := h
  have hfits {n : ℤ} (hlow : 0 ≤ n) (hhigh : n ≤ s.length) : Integer.Fits n := ⟨by omega, by omega⟩
  obtain ⟨i, rfl, hi⟩ := Integer.fit?_of_fits (hfits hstart (by omega))
  obtain ⟨n, rfl, hn⟩ := Integer.fit?_of_fits (hfits hcount (by omega))
  have hfirst : integer [.text s, p, a, b] 2 = .ok i :=
    integer_of_integer? ((integer?_of_isInteger ha).trans hi)
  have hsecond : integer [.text s, p, a, b] 3 = .ok n :=
    integer_of_integer? ((integer?_of_isInteger hb).trans hn)
  rw [searchRange, if_pos (by rfl), hfirst]
  simp only [bind, Except.bind]
  rw [if_neg (by omega), if_pos (by rfl), hsecond]
  simp only [Functor.map, Except.map]
  rw [if_neg (by omega)]
  rfl

/-- All else is refused. -/
theorem searchRange_outside (ha : IsInteger a start) (hb : IsInteger b count)
    (h : ¬ IsRange s.length start count) (p : Value) :
    ∃ e, searchRange [.text s, p, a, b] s.length 2 = .error e := by
  have hfirst : integer [.text s, p, a, b] 2 = wants _ 2 .integer (Integer.fit? start) :=
    congrArg _ (integer?_of_isInteger ha)
  have hsecond : integer [.text s, p, a, b] 3 = wants _ 3 .integer (Integer.fit? count) :=
    congrArg _ (integer?_of_isInteger hb)
  rw [searchRange, if_pos (by rfl), hfirst]
  cases hi : Integer.fit? start with
  | none => exact ⟨_, rfl⟩
  | some i =>
    obtain rfl := Integer.fit?_eq_some_iff.1 hi
    simp only [wants, bind, Except.bind]
    by_cases hstart : i.toInt < 0 ∨ (s.length : ℤ) < i.toInt
    · rw [if_pos hstart]
      exact ⟨_, rfl⟩
    rw [if_neg hstart, if_pos (by rfl), hsecond]
    cases hn : Integer.fit? count with
    | none => exact ⟨_, rfl⟩
    | some n =>
      obtain rfl := Integer.fit?_eq_some_iff.1 hn
      simp only [wants, Functor.map, Except.map]
      rw [if_pos]
      · exact ⟨_, rfl⟩
      · by_contra hcount
        exact h ⟨by omega, by omega, by omega⟩

/-- A member of a text refuses the windows that are no range of the text, and otherwise finds the
first position with a property, or -1 if there is none. -/
structure Searches (s : String) (member : String) (args : List Value) (start count : ℤ)
    (P : ℕ → Prop) : Prop where
  fails_iff : (∃ e, MemberAnswers (.text s) member args (.error e)) ↔
    ¬ IsRange s.length start count
  finds : IsRange s.length start count →
    ∃ (r : Int64) (found : Option ℕ), MemberAnswers (.text s) member args (.ok (.int r)) ∧
      r.toInt = found.elim (-1) Nat.cast ∧ IsFirst P found

/-- A member that searches the window for something that `find` gives the first position of. -/
theorem searches_of_run (hs : s.length < 2 ^ 63) (ha : IsInteger a start) (hb : IsInteger b count)
    (run : List Value → Answer Value) (find : List Char → Option ℕ)
    (hanswer : MemberAnswers (.text s) member [p, a, b] (run [.text s, p, a, b]))
    (hrun : run [.text s, p, a, b] = searchRange [.text s, p, a, b] s.length 2 >>= fun window =>
      pure (position ((find ((s.toList.drop window.1).take window.2)).map (window.1 + ·))))
    (hfirst : ∀ i n : ℕ, start = i → count = n → i + n ≤ s.length →
      IsFirst (fun j => P (i + j)) (find ((s.toList.drop i).take n)))
    (hbounds : ∀ j, P j → start ≤ j ∧ j ≤ start + count) :
    Searches s member [p, a, b] start count P := by
  by_cases h : IsRange s.length start count
  · obtain ⟨i, rfl⟩ := Int.eq_ofNat_of_zero_le h.start_nonneg
    obtain ⟨n, rfl⟩ := Int.eq_ofNat_of_zero_le h.count_nonneg
    have hstop : i + n ≤ s.length := Int.ofNat_le.1 h.stop_le
    have hfound : IsFirst P ((find ((s.toList.drop i).take n)).map (i + ·)) :=
      .shift (fun j hj => Int.ofNat_le.1 (hbounds j hj).1) (hfirst i n rfl rfl hstop)
    obtain ⟨r, hr, hvalue⟩ := position_toInt hs fun j hj =>
      (Int.ofNat_le.1 (hbounds j (hfound.mem hj)).2).trans hstop
    rw [hrun, searchRange_inside hs ha hb h p] at hanswer
    have hok : MemberAnswers (.text s) member [p, a, b] (.ok (.int r)) := hr ▸ hanswer
    refine ⟨iff_of_false ?_ (not_not_intro h), fun _ => ⟨r, _, hok, hvalue, hfound⟩⟩
    rintro ⟨e, he⟩
    cases hok.unique he
  · obtain ⟨e, he⟩ := searchRange_outside ha hb h p
    rw [hrun, he] at hanswer
    exact ⟨iff_of_true ⟨e, hanswer⟩ h, fun h' => absurd h' h⟩

/-- A part of a text is what stands at its position. -/
theorem answers_substring_iff {w : String} {i : ℕ} (hs : s.length < 2 ^ 63)
    (hi : i + w.length ≤ s.length) :
    MemberAnswers (.text s) "Substring" [.ofInt i, .ofInt w.length] (.ok (.text w)) ↔
      Chars.OccursAt w.toList s.toList i := by
  have hfirst : (Int64.ofInt i).toInt = i := Integer.toInt_ofNat (by omega)
  have hsecond : (Int64.ofInt w.length).toInt = w.length := Integer.toInt_ofNat (by omega)
  have hrange : IsRange s.length (Int64.ofInt i).toInt (Int64.ofInt w.length).toInt := by
    rw [hfirst, hsecond]
    exact ⟨by omega, by omega, by omega⟩
  have hpart := actsOnRange_substring.answers_given (a := .ofInt i) (b := .ofInt w.length)
    rfl rfl hrange
  rw [hfirst, hsecond, Int.toNat_natCast, Int.toNat_natCast] at hpart
  constructor
  · intro h
    have hsame : String.ofList _ = w := Value.text.inj (Except.ok.inj (h.unique hpart))
    refine ⟨by rwa [String.length_toList, String.length_toList], ?_⟩
    rw [String.length_toList, ← String.toList_ofList (l := List.take _ _), hsame]
  · rintro ⟨-, h⟩
    rwa [← String.length_toList, h, answer, String.ofList_toList] at hpart

theorem answers_chars_iff {c : Char} {i : ℕ} (hi : i < 2 ^ 63) :
    MemberAnswers (.text s) "Chars" [.ofInt i] (.ok (.char c)) ↔ s.toList[i]? = some c := by
  have hanswer := answers_chars s (.ofInt i)
  have hindex := Integer.toInt_ofNat hi
  rw [characterAt_eq rfl, element?_inside _ (by omega), hindex, Int.toNat_natCast] at hanswer
  constructor
  · intro h
    have hsame := h.unique hanswer
    cases hc : s.toList[i]? with
    | none =>
      rw [hc] at hsame
      cases hsame
    | some d =>
      rw [hc] at hsame
      rw [Value.char.inj (Except.ok.inj hsame)]
  · intro h
    rwa [h] at hanswer

/-! ## The searches -/

theorem indexOf_eq (s : String) (p a b : Value) :
    indexOf [.text s, p, a, b] = searchRange [.text s, p, a, b] s.length 2 >>= fun window =>
      pure (position ((Chars.find? p.display.toList
        ((s.toList.drop window.1).take window.2)).map (window.1 + ·))) := by
  have hnames : namesComparison [.text s, p, a, b] = false := rfl
  rw [indexOf, hnames, if_neg Bool.false_ne_true, ← String.length_toList]
  rfl

theorem indexOfAny_eq {any : List Char} (h : charList [p] 0 = .ok any) (s : String) (a b : Value) :
    indexOfAny [.text s, p, a, b] = searchRange [.text s, p, a, b] s.length 2 >>= fun window =>
      pure (position ((((s.toList.drop window.1).take window.2).findIdx? any.contains).map
        (window.1 + ·))) := by
  have hvalue : value [.text s, p, a, b] 1 = value [p] 0 := rfl
  have hset : charList [.text s, p, a, b] 1 = .ok any := charList_of_value_eq hvalue h
  rw [indexOfAny, hset, ← String.length_toList]
  rfl

/-- The first occurrence in a window is the first part that ends within it. -/
theorem isFirst_part (hs : s.length < 2 ^ 63) {i n : ℕ} (hstop : i + n ≤ s.length) (w : String) :
    IsFirst (fun j => (i : ℤ) ≤ ↑(i + j) ∧ ↑(i + j) + (w.length : ℤ) ≤ i + n ∧
        MemberAnswers (.text s) "Substring" [.ofInt ↑(i + j), .ofInt w.length] (.ok (.text w)))
      (Chars.find? w.toList ((s.toList.drop i).take n)) := by
  refine (Chars.isFirst_find? _ _).congr fun j => ?_
  rw [Chars.occursAt_window (by rwa [String.length_toList]), String.length_toList]
  constructor
  · rintro ⟨hwindow, h⟩
    exact ⟨by omega, by omega, (answers_substring_iff hs (by omega)).2 h⟩
  · rintro ⟨-, hwindow, h⟩
    exact ⟨by omega, (answers_substring_iff hs (by omega)).1 h⟩

/-- The first character of a set in a window is the first one at a position of the window. -/
theorem isFirst_char (hs : s.length < 2 ^ 63) {i n : ℕ} (hstop : i + n ≤ s.length)
    (any : List Char) :
    IsFirst (fun j => (i : ℤ) ≤ ↑(i + j) ∧ (↑(i + j) : ℤ) < i + n ∧
        ∃ c ∈ any, MemberAnswers (.text s) "Chars" [.ofInt ↑(i + j)] (.ok (.char c)))
      (((s.toList.drop i).take n).findIdx? any.contains) := by
  refine (Chars.isFirst_findIdx? any _).congr fun j => ?_
  rw [List.getElem?_take, List.getElem?_drop]
  constructor
  · rintro ⟨c, hc, h⟩
    obtain ⟨hj, hget⟩ := Option.ite_none_right_eq_some.1 h
    exact ⟨by omega, by omega, c, hc, (answers_chars_iff (by omega)).2 hget⟩
  · rintro ⟨-, hj, c, hc, h⟩
    exact ⟨c, hc, Option.ite_none_right_eq_some.2
      ⟨by omega, (answers_chars_iff (by omega)).1 h⟩⟩

/-- Searching a window of a text whose positions are words, as those of every text in memory are.
The windows that are no range of the text are refused, also where start or count is no word.
Otherwise `IndexOf` finds the first position in the window at which the text that is looked for
stands and ends within the window, and `IndexOfAny` the first position in the window of a character
of a set. -/
theorem search_in_window (hs : s.length < 2 ^ 63) (ha : IsInteger a start) (hb : IsInteger b count)
    (p : Value) :
    Searches s "IndexOf" [p, a, b] start count (fun i =>
      start ≤ i ∧ i + p.display.length ≤ start + count ∧
        MemberAnswers (.text s) "Substring" [.ofInt i, .ofInt p.display.length]
          (.ok (.text p.display))) ∧
    ∀ any, charList [p] 0 = .ok any →
      Searches s "IndexOfAny" [p, a, b] start count (fun i =>
        start ≤ i ∧ i < start + count ∧
          ∃ c ∈ any, MemberAnswers (.text s) "Chars" [.ofInt i] (.ok (.char c))) := by
  refine ⟨?_, fun any hany => ?_⟩
  · refine searches_of_run hs ha hb indexOf (Chars.find? p.display.toList)
      (answers_member (by rfl : _ = "indexof") (by rfl) s (by rfl)) (indexOf_eq s p a b) ?_ ?_
    · rintro i n rfl rfl hstop
      exact isFirst_part hs hstop p.display
    · rintro j ⟨hstart, hstop, -⟩
      exact ⟨hstart, by omega⟩
  · refine searches_of_run hs ha hb indexOfAny (List.findIdx? any.contains)
      (answers_member (by rfl : _ = "indexofany") (by rfl) s (by rfl)) (indexOfAny_eq hany s a b)
      ?_ ?_
    · rintro i n rfl rfl hstop
      exact isFirst_char hs hstop any
    · rintro j ⟨hstart, hstop, -⟩
      exact ⟨hstart, by omega⟩

/-- A window that ends with the text, and one whose length is no word. -/
theorem search_in_window_up_to_the_end :
    (∃ (r : Int64) (found : Option ℕ),
      MemberAnswers (.text "añ€ñ") "IndexOf" [.text "ñ", .int 2, .int 2] (.ok (.int r)) ∧
      r.toInt = found.elim (-1) Nat.cast ∧
      IsFirst (fun i : ℕ => (2 : ℤ) ≤ i ∧ (i : ℤ) + 1 ≤ 2 + 2 ∧
        MemberAnswers (.text "añ€ñ") "Substring" [.ofInt i, .ofInt 1] (.ok (.text "ñ"))) found) ∧
    (∃ (r : Int64) (found : Option ℕ),
      MemberAnswers (.text "añ€ñ") "IndexOfAny" [.text "ñ", .int 2, .int 2] (.ok (.int r)) ∧
      r.toInt = found.elim (-1) Nat.cast ∧
      IsFirst (fun i : ℕ => (2 : ℤ) ≤ i ∧ (i : ℤ) < 2 + 2 ∧
        ∃ c ∈ ['ñ'], MemberAnswers (.text "añ€ñ") "Chars" [.ofInt i] (.ok (.char c))) found) ∧
    ∃ e, MemberAnswers (.text "añ€ñ") "IndexOf" [.text "ñ", .int 2, .text "9223372036854775808"]
      (.error e) := by
  have hs : "añ€ñ".length < 2 ^ 63 := by decide
  have htwo : IsInteger (.int 2) 2 := .word (i := 2) rfl
  have hcount : IsInteger (.text "9223372036854775808") 9223372036854775808 :=
    .decimal (.of_chars (by rfl))
  obtain ⟨hindex, hany⟩ := search_in_window hs htwo htwo (.text "ñ")
  have hrange : IsRange "añ€ñ".length 2 2 := ⟨by decide, by decide, by decide⟩
  refine ⟨hindex.finds hrange, (hany ['ñ'] rfl).finds hrange, ?_⟩
  exact (search_in_window hs htwo hcount (.text "ñ")).1.fails_iff.2 fun h =>
    absurd h.stop_le (by decide)

end TextFunctions

end BuildExpr
