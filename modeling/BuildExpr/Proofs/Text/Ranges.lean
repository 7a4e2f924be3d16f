import BuildExpr.Proofs.Evaluation.Answers
import Mathlib.Data.Int.Notation

/-!
# Ranges of a text

The members of a text that take a start and a count refuse whatever is no range of the text
(`TextFunctions.IsRange`), also where start and count are so large that their sum is not a word.
`Substring` gives the characters in the range and `Remove` the characters beside it
(`TextFunctions.ActsOnRange`), and `Insert` makes a range that both of them find again
(`TextFunctions.character_positions`).
-/

namespace BuildExpr

namespace TextFunctions

open Arguments FunctionTable

/-- From the position `start` on there are `count` characters in a text of `length` characters. -/
structure IsRange (length : ℕ) (start count : ℤ) : Prop where
  start_nonneg : 0 ≤ start
  count_nonneg : 0 ≤ count
  stop_le : start + count ≤ length

variable {s : String} {a b : Value} {i n : Int64} {more : List Value} {count : ℤ}
  {member name : String} {least most : ℕ} {run : List Value → Answer Value}
  {f : List Char → ℕ → ℕ → List Char} {zero one : Value}

theorem isRange_rest {length : ℕ} {start : ℤ} :
    IsRange length start (length - start) ↔ 0 ≤ start ∧ start ≤ length :=
  ⟨fun h => ⟨h.start_nonneg, by have := h.count_nonneg; omega⟩,
    fun h => ⟨h.1, by omega, by omega⟩⟩

/-! ## The members -/

/-- What a member of a text answers is what its entry in the table gives. -/
theorem answers_member (hname : memberKey member = name)
    (hfind : FunctionTable.find? FunctionTable.members "system.string" name =
      some (.pure "system.string" name least most run)) (s : String) {args : List Value}
    (hcount : decide (least ≤ args.length ∧ args.length ≤ most) = true) :
    MemberAnswers (.text s) member args (run (.text s :: args)) :=
  memberAnswers_of_find (show Text.foldAscii "System.String" = _ from rfl) hname hfind hcount

theorem rangeLength_of_given (hb : integer? b = some n) (length : ℕ) (start : ℤ) :
    rangeLength [.text s, a, b] length start = .ok n.toInt := by
  have hcount : integer [.text s, a, b] 2 = .ok n := integer_of_integer? hb
  rw [rangeLength, if_pos (by rfl), hcount]
  rfl

theorem rangeLength_rest (s : String) (a : Value) (length : ℕ) (start : ℤ) :
    rangeLength [.text s, a] length start = .ok (length - start) := rfl

/-- A member of a text that takes a start, and a count unless it goes to the end. It does something
with the range that they are, and it refuses what is no range of the text. -/
structure ActsOnRange (member : String) (run : List Value → Answer Value)
    (f : List Char → ℕ → ℕ → List Char) : Prop where
  found (s : String) (a : Value) (more : List Value) (h : more.length ≤ 1) :
    MemberAnswers (.text s) member (a :: more) (run (.text s :: a :: more))
  inside {s : String} {a : Value} {i : Int64} {more : List Value} {count : ℤ} :
    integer? a = some i →
    rangeLength (.text s :: a :: more) s.toList.length i.toInt = .ok count →
    IsRange s.toList.length i.toInt count →
    run (.text s :: a :: more) = answer (f s.toList i.toInt.toNat count.toNat)
  outside {s : String} {a : Value} {i : Int64} {more : List Value} {count : ℤ} :
    integer? a = some i →
    rangeLength (.text s :: a :: more) s.toList.length i.toInt = .ok count →
    ¬ IsRange s.toList.length i.toInt count →
    ∃ cause, run (.text s :: a :: more) = Answer.refuse cause

theorem actsOnRange_substring :
    ActsOnRange "Substring" substring fun cs i n => (cs.drop i).take n where
  found s a more h := answers_member (by rfl : _ = "substring") (by rfl) s (by simp; omega)
  inside {s a i more count} ha hcount h := by
    have hstart : integer (.text s :: a :: more) 1 = .ok i := integer_of_integer? ha
    have hchars : chars (.text s :: a :: more) 0 = s.toList := rfl
    obtain ⟨hi, hn, hstop⟩ := h
    simp only [substring, hstart, hchars, hcount, bind, Except.bind]
    rw [if_neg (by omega), if_neg (by omega), if_neg (by omega), if_neg (by omega)]
  outside {s a i more count} ha hcount h := by
    have hstart : integer (.text s :: a :: more) 1 = .ok i := integer_of_integer? ha
    have hchars : chars (.text s :: a :: more) 0 = s.toList := rfl
    simp only [substring, hstart, hchars, hcount, bind, Except.bind]
    split_ifs
    · exact ⟨_, rfl⟩
    · exact ⟨_, rfl⟩
    · exact ⟨_, rfl⟩
    · exact ⟨_, rfl⟩
    · exact absurd ⟨by omega, by omega, by omega⟩ h

theorem actsOnRange_remove :
    ActsOnRange "Remove" remove fun cs i n => cs.take i ++ cs.drop (i + n) where
  found s a more h := answers_member (by rfl : _ = "remove") (by rfl) s (by simp; omega)
  inside {s a i more count} ha hcount h := by
    have hstart : integer (.text s :: a :: more) 1 = .ok i := integer_of_integer? ha
    have hchars : chars (.text s :: a :: more) 0 = s.toList := rfl
    obtain ⟨hi, hn, hstop⟩ := h
    simp only [remove, hstart, hchars, hcount, bind, Except.bind]
    rw [if_neg (by omega), if_neg (by omega), Int.toNat_add hi hn]
  outside {s a i more count} ha hcount h := by
    have hstart : integer (.text s :: a :: more) 1 = .ok i := integer_of_integer? ha
    have hchars : chars (.text s :: a :: more) 0 = s.toList := rfl
    simp only [remove, hstart, hchars, hcount, bind, Except.bind]
    split_ifs
    · exact ⟨_, rfl⟩
    · exact ⟨_, rfl⟩
    · exact absurd ⟨by omega, by omega, by omega⟩ h

namespace ActsOnRange

/-- A range that is given. -/
theorem answers_given (h : ActsOnRange member run f) (ha : integer? a = some i)
    (hb : integer? b = some n) (hrange : IsRange s.length i.toInt n.toInt) :
    MemberAnswers (.text s) member [a, b]
      (answer (f s.toList i.toInt.toNat n.toInt.toNat)) := by
  rw [← String.length_toList] at hrange
  rw [← h.inside ha (rangeLength_of_given hb _ _) hrange]
  exact h.found s a [b] (Nat.le_refl 1)

theorem refuses_given (h : ActsOnRange member run f) (ha : integer? a = some i)
    (hb : integer? b = some n) (hrange : ¬ IsRange s.length i.toInt n.toInt) :
    MemberRefuses (.text s) member [a, b] := by
  rw [← String.length_toList] at hrange
  obtain ⟨cause, hcause⟩ := h.outside ha (rangeLength_of_given hb _ _) hrange
  exact .of_refuse (hcause ▸ h.found s a [b] (Nat.le_refl 1))

/-- The range of all that follows a position. -/
theorem answers_rest (h : ActsOnRange member run f) (ha : integer? a = some i)
    (hrange : 0 ≤ i.toInt ∧ i.toInt ≤ s.length) :
    MemberAnswers (.text s) member [a]
      (answer (f s.toList i.toInt.toNat (s.length - i.toInt).toNat)) := by
  rw [← String.length_toList] at hrange ⊢
  rw [← h.inside ha (rangeLength_rest s a _ _) (isRange_rest.2 hrange)]
  exact h.found s a [] (Nat.zero_le 1)

theorem refuses_rest (h : ActsOnRange member run f) (ha : integer? a = some i)
    (hrange : ¬(0 ≤ i.toInt ∧ i.toInt ≤ s.length)) :
    MemberRefuses (.text s) member [a] := by
  rw [← String.length_toList] at hrange
  obtain ⟨cause, hcause⟩ := h.outside ha (rangeLength_rest s a _ _) (mt isRange_rest.1 hrange)
  exact .of_refuse (hcause ▸ h.found s a [] (Nat.zero_le 1))

end ActsOnRange

/-! ## Insertion and single characters -/

theorem answers_insert (s : String) (a b : Value) :
    MemberAnswers (.text s) "Insert" [a, b] (insert [.text s, a, b]) :=
  answers_member (by rfl : _ = "insert") (by rfl) s (by rfl)

/-- The text with another one put in at a position. -/
def inserted (s v : String) (i : ℕ) : String :=
  String.ofList (s.toList.take i ++ v.toList ++ s.toList.drop i)

theorem insert_inside (ha : integer? a = some i) (hi : 0 ≤ i.toInt ∧ i.toInt ≤ s.length) :
    MemberAnswers (.text s) "Insert" [a, b]
      (.ok (.text (inserted s b.display i.toInt.toNat))) := by
  have hindex : integer [.text s, a, b] 1 = .ok i := integer_of_integer? ha
  have hchars : chars [.text s, a, b] 0 = s.toList := rfl
  have hanswer := answers_insert s a b
  rw [← String.length_toList] at hi
  simp only [insert, hindex, hchars, bind, Except.bind] at hanswer
  rw [if_neg (by omega)] at hanswer
  exact hanswer

theorem insert_outside (ha : integer? a = some i) (hi : ¬(0 ≤ i.toInt ∧ i.toInt ≤ s.length)) :
    MemberRefuses (.text s) "Insert" [a, b] := by
  have hindex : integer [.text s, a, b] 1 = .ok i := integer_of_integer? ha
  have hchars : chars [.text s, a, b] 0 = s.toList := rfl
  have hanswer := answers_insert s a b
  rw [← String.length_toList] at hi
  simp only [insert, hindex, hchars, bind, Except.bind] at hanswer
  rw [if_pos (by omega)] at hanswer
  exact .of_refuse hanswer

theorem length_inserted (s v : String) {i : ℕ} (hi : i ≤ s.length) :
    (inserted s v i).length = s.length + v.length := by
  rw [← String.length_toList] at hi
  simp only [inserted, String.length_ofList, List.length_append, List.length_take,
    List.length_drop, String.length_toList] at hi ⊢
  omega

/-- What was put in is found where it was put. -/
theorem take_drop_inserted (s v : String) {i : ℕ} (hi : i ≤ s.length) :
    ((inserted s v i).toList.drop i).take v.length = v.toList := by
  rw [← String.length_toList] at hi
  rw [inserted, String.toList_ofList, List.append_assoc,
    List.drop_left' (List.length_take_of_le hi), List.take_left' (String.length_toList)]

/-- Without what was put in there is what was there before. -/
theorem take_append_drop_inserted (s v : String) {i : ℕ} (hi : i ≤ s.length) :
    (inserted s v i).toList.take i ++ (inserted s v i).toList.drop (i + v.length) = s.toList := by
  rw [← String.length_toList] at hi
  have hbefore : (s.toList.take i ++ v.toList).length = i + v.length := by
    rw [List.length_append, List.length_take_of_le hi, String.length_toList]
  rw [inserted, String.toList_ofList, List.drop_left' hbefore, List.append_assoc,
    List.take_left' (List.length_take_of_le hi), List.take_append_drop]

theorem answers_length {k : Int64} (hk : k.toInt = s.length) :
    MemberAnswers (.text s) "Length" [] (.ok (.int k)) := by
  have hlength : length [.text s] = .ok (.int k) := by
    have hchars : chars [.text s] 0 = s.toList := rfl
    rw [length, hchars, String.length_toList, ← hk, Value.ofInt, Int64.ofInt_toInt]
  rw [← hlength]
  exact answers_member (by rfl : _ = "length") (by rfl) s (by rfl)

/-- An index into a text is the member `Chars`. -/
theorem answers_chars (s : String) (a : Value) :
    MemberAnswers (.text s) "Chars" [a] (characterAt [.text s, a]) :=
  answers_member (by rfl : _ = "chars") (by rfl) s (by rfl)

theorem characterAt_eq (ha : integer? a = some i) :
    characterAt [.text s, a] =
      Value.char <$> Answer.orRefuse .elementIndex (element? s.toList i) := by
  have hindex : integer [.text s, a] 1 = .ok i := integer_of_integer? ha
  rw [characterAt, hindex]
  rfl

theorem element?_inside {i : Int64} (cs : List Char) (hi : 0 ≤ i.toInt) :
    element? cs i = cs[i.toInt.toNat]? := by
  rw [element?, if_neg]
  rw [Int64.lt_iff_toInt_lt]
  simpa using hi

theorem characterAt_inside (ha : integer? a = some i)
    (hi : 0 ≤ i.toInt ∧ i.toInt < s.length) :
    ∃ c, (s.toList.drop i.toInt.toNat).take 1 = [c] ∧
      MemberAnswers (.text s) "Chars" [a] (.ok (.char c)) := by
  have hanswer := answers_chars s a
  rw [← String.length_toList] at hi
  have hlt : i.toInt.toNat < s.toList.length := by omega
  rw [characterAt_eq ha, element?_inside _ hi.1, List.getElem?_eq_getElem hlt] at hanswer
  refine ⟨s.toList[i.toInt.toNat], ?_, hanswer⟩
  rw [List.drop_eq_getElem_cons hlt, List.take_succ_cons, List.take_zero]

theorem characterAt_outside (ha : integer? a = some i)
    (hi : ¬(0 ≤ i.toInt ∧ i.toInt < s.length)) :
    MemberRefuses (.text s) "Chars" [a] := by
  have hanswer := answers_chars s a
  have hnone : element? s.toList i = none := by
    by_cases hneg : 0 ≤ i.toInt
    · rw [element?_inside _ hneg, List.getElem?_eq_none_iff, String.length_toList]
      omega
    · rw [element?, if_pos]
      rw [Int64.lt_iff_toInt_lt]
      simpa using hneg
  rw [characterAt_eq ha, hnone] at hanswer
  exact .of_refuse hanswer

/-! ## Positions -/

/-- A position cuts a text in two, and to remove all that follows it leaves the first part. -/
theorem cut_at (ha : integer? a = some i) (hzero : integer? zero = some 0)
    (hi : 0 ≤ i.toInt ∧ i.toInt ≤ s.length) :
    ∃ left right, left ++ right = s ∧
      MemberAnswers (.text s) "Substring" [zero, a] (.ok (.text left)) ∧
      MemberAnswers (.text s) "Substring" [a] (.ok (.text right)) ∧
      MemberAnswers (.text s) "Remove" [a] (.ok (.text left)) := by
  have hleft := actsOnRange_substring.answers_given hzero ha
    (⟨by simp, hi.1, by simp [hi.2]⟩ : IsRange s.length _ _)
  have hright := actsOnRange_substring.answers_rest ha hi
  have hremoved := actsOnRange_remove.answers_rest ha hi
  have hend : i.toInt.toNat + (s.length - i.toInt).toNat = s.length := by omega
  have hrest : s.toList.length ≤ i.toInt.toNat + (s.length - i.toInt).toNat := by
    exact Nat.le_of_eq (String.length_toList.trans hend.symm)
  rw [List.take_of_length_le (by rw [List.length_drop]; omega)] at hright
  rw [List.drop_of_length_le hrest, List.append_nil] at hremoved
  refine ⟨_, _, ?_, hleft, hright, hremoved⟩
  rw [← String.ofList_append]
  simp

/-- What is inserted at a position is found there, and to remove it gives back the text. -/
theorem insert_at (ha : integer? a = some i) (hi : 0 ≤ i.toInt ∧ i.toInt ≤ s.length) (p : Value) :
    ∃ joined, MemberAnswers (.text s) "Insert" [a, p] (.ok (.text joined)) ∧
      ∀ (b : Value) (k : Int64), integer? b = some k → k.toInt = p.display.length →
        MemberAnswers (.text p.display) "Length" [] (.ok (.int k)) ∧
        MemberAnswers (.text joined) "Substring" [a, b] (.ok (.text p.display)) ∧
        MemberAnswers (.text joined) "Remove" [a, b] (.ok (.text s)) := by
  refine ⟨_, insert_inside ha hi, fun b k hb hk => ?_⟩
  have hle : i.toInt.toNat ≤ s.length := by omega
  have hrange : IsRange (inserted s p.display i.toInt.toNat).length i.toInt k.toInt := by
    rw [length_inserted s p.display hle]
    exact ⟨hi.1, by omega, by omega⟩
  have hcount : k.toInt.toNat = p.display.length := by omega
  refine ⟨answers_length hk, ?_, ?_⟩
  · have h := actsOnRange_substring.answers_given ha hb hrange
    rwa [hcount, take_drop_inserted s p.display hle, answer, String.ofList_toList] at h
  · have h := actsOnRange_remove.answers_given ha hb hrange
    rwa [hcount, take_append_drop_inserted s p.display hle, answer, String.ofList_toList] at h

/-- A character is the part of length one at its position. -/
theorem character_at (ha : integer? a = some i) (hone : integer? one = some 1)
    (hi : 0 ≤ i.toInt ∧ i.toInt < s.length) :
    ∃ c, MemberAnswers (.text s) "Chars" [a] (.ok (.char c)) ∧
      MemberAnswers (.text s) "Substring" [a, one] (.ok (.text (Value.char c).display)) := by
  obtain ⟨c, hc, hchars⟩ := characterAt_inside ha hi
  have hrange : IsRange s.length i.toInt (1 : Int64).toInt :=
    ⟨hi.1, by decide, by rw [show (1 : Int64).toInt = 1 from rfl]; omega⟩
  have hpart := actsOnRange_substring.answers_given ha hone hrange
  rw [show (1 : Int64).toInt.toNat = 1 from rfl, hc] at hpart
  exact ⟨c, hchars, hpart⟩

/-- Positions of a text count characters. A position in a text cuts it in two, what is put in there
is found and removed again, and the character there is the part of length one. All that is no
position or range of the text is refused, however large it is. -/
theorem character_positions (hzero : integer? zero = some 0) (hone : integer? one = some 1)
    (ha : integer? a = some i) (s : String) (p : Value) :
    (0 ≤ i.toInt ∧ i.toInt ≤ s.length →
      (∃ left right, left ++ right = s ∧
        MemberAnswers (.text s) "Substring" [zero, a] (.ok (.text left)) ∧
        MemberAnswers (.text s) "Substring" [a] (.ok (.text right)) ∧
        MemberAnswers (.text s) "Remove" [a] (.ok (.text left))) ∧
      ∃ joined, MemberAnswers (.text s) "Insert" [a, p] (.ok (.text joined)) ∧
        ∀ (b : Value) (k : Int64), integer? b = some k → k.toInt = p.display.length →
          MemberAnswers (.text p.display) "Length" [] (.ok (.int k)) ∧
          MemberAnswers (.text joined) "Substring" [a, b] (.ok (.text p.display)) ∧
          MemberAnswers (.text joined) "Remove" [a, b] (.ok (.text s))) ∧
    (0 ≤ i.toInt ∧ i.toInt < s.length →
      (Value.text s).indexMember? = some "Chars" ∧
      ∃ c, MemberAnswers (.text s) "Chars" [a] (.ok (.char c)) ∧
        MemberAnswers (.text s) "Substring" [a, one] (.ok (.text (Value.char c).display))) ∧
    (∀ (b : Value) (n : Int64), integer? b = some n →
      (IsRange s.length i.toInt n.toInt →
        MemberAnswers (.text s) "Substring" [a, b]
          (answer ((s.toList.drop i.toInt.toNat).take n.toInt.toNat)) ∧
        MemberAnswers (.text s) "Remove" [a, b]
          (answer (s.toList.take i.toInt.toNat ++
            s.toList.drop (i.toInt.toNat + n.toInt.toNat)))) ∧
      (¬ IsRange s.length i.toInt n.toInt →
        MemberRefuses (.text s) "Substring" [a, b] ∧ MemberRefuses (.text s) "Remove" [a, b])) ∧
    (¬(0 ≤ i.toInt ∧ i.toInt ≤ s.length) →
      MemberRefuses (.text s) "Insert" [a, p] ∧ MemberRefuses (.text s) "Substring" [a] ∧
      MemberRefuses (.text s) "Remove" [a]) ∧
    (¬(0 ≤ i.toInt ∧ i.toInt < s.length) → MemberRefuses (.text s) "Chars" [a]) := by
  refine ⟨fun hi => ⟨cut_at ha hzero hi, insert_at ha hi p⟩,
    fun hi => ⟨rfl, character_at ha hone hi⟩, fun b n hb => ⟨fun hrange => ?_, fun hrange => ?_⟩,
    fun hi => ?_, characterAt_outside ha⟩
  · exact ⟨actsOnRange_substring.answers_given ha hb hrange,
      actsOnRange_remove.answers_given ha hb hrange⟩
  · exact ⟨actsOnRange_substring.refuses_given ha hb hrange,
      actsOnRange_remove.refuses_given ha hb hrange⟩
  · exact ⟨insert_outside ha hi, actsOnRange_substring.refuses_rest ha hi,
      actsOnRange_remove.refuses_rest ha hi⟩

/-- A start and a count whose sum is no word, at a text whose characters are of one, two, three and
four bytes. -/
theorem character_positions_beyond_words :
    (∃ left right, left ++ right = "añ€😀b" ∧
      MemberAnswers (.text "añ€😀b") "Substring" [.int 0, .int 3] (.ok (.text left)) ∧
      MemberAnswers (.text "añ€😀b") "Substring" [.int 3] (.ok (.text right)) ∧
      MemberAnswers (.text "añ€😀b") "Remove" [.int 3] (.ok (.text left))) ∧
    (∃ c, MemberAnswers (.text "añ€😀b") "Chars" [.int 3] (.ok (.char c)) ∧
      MemberAnswers (.text "añ€😀b") "Substring" [.int 3, .int 1]
        (.ok (.text (Value.char c).display))) ∧
    MemberAnswers (.text "añ€😀b") "Substring" [.int 3, .int 2] (.ok (.text "😀b")) ∧
    MemberRefuses (.text "añ€😀b") "Substring" [.int 3, .int 9223372036854775807] ∧
    MemberRefuses (.text "añ€😀b") "Remove" [.int 3, .int 9223372036854775807] ∧
    MemberRefuses (.text "añ€😀b") "Insert" [.int (-9223372036854775808), .text "ü"] := by
  have hzero : integer? (.int 0) = some 0 := rfl
  have hone : integer? (.int 1) = some 1 := rfl
  obtain ⟨hcut, hchar, hpair, -, -⟩ :=
    character_positions hzero hone (a := .int 3) rfl "añ€😀b" (.text "ü")
  obtain ⟨-, -, -, hbefore, -⟩ :=
    character_positions hzero hone (a := .int (-9223372036854775808)) rfl "añ€😀b" (.text "ü")
  obtain ⟨hsub, hremove⟩ := (hpair (.int 9223372036854775807) _ rfl).2
    fun h => absurd h.stop_le (by decide)
  refine ⟨(hcut (by decide)).1, (hchar (by decide)).2, ?_, hsub, hremove,
    (hbefore (by decide)).1⟩
  exact ((hpair (.int 2) _ rfl).1 ⟨by decide, by decide, by decide⟩).1

end TextFunctions

end BuildExpr
