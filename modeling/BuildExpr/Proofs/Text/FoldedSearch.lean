import BuildExpr.Proofs.Text.BackwardSearch
import BuildExpr.Proofs.Text.LowerForm

/-!
# Searching without regard to case

A search that ignores case looks for the lower-case form of a text in that of another and gives a
position in the latter. Taken as a position of the text itself it is right as long as no dotted
capital I stands before it, whose lower-case form has two characters, and the sigma of a word is not
torn from the word (`TextFunctions.search_ignoring_case_iff`).
-/

namespace BuildExpr

namespace Chars

variable {needle cs : List Char} {i : ℕ}

theorem occursAt_iff_prefix_drop : OccursAt needle cs i ↔ i ≤ cs.length ∧ needle <+: cs.drop i := by
  rw [List.prefix_iff_eq_take]
  constructor
  · exact fun h => ⟨by have := h.stop_le; omega, h.take_drop.symm⟩
  · rintro ⟨hi, h⟩
    have hlength := congrArg List.length h
    rw [List.length_take, List.length_drop] at hlength
    exact ⟨by omega, h.symm⟩

/-- What the form of a part of a text begins with stands in the form of the text cut there. -/
theorem prefix_lower_drop_iff (hi : i ≤ cs.length) :
    needle <+: lower (cs.drop i) ↔
      OccursAt needle (lowerCutAt cs i) (i + (cs.take i).count 'İ') := by
  have hcount : (cs.take i).count 'İ' ≤ cs.count 'İ' := (List.take_sublist i cs).count_le _
  rw [occursAt_iff_prefix_drop, drop_lowerCutAt hi, length_lowerCutAt]
  exact ⟨fun h => ⟨by omega, h⟩, And.right⟩

/-- An occurrence in the form of a text, with no dotted capital I before it. -/
theorem prefix_lower_drop_iff_of_not_mem (hdotted : 'İ' ∉ cs.take i)
    (h : OccursAt needle (lower cs) i) :
    i ≤ cs.length ∧ (needle <+: lower (cs.drop i) ↔
      ¬(nextIsCased (cs.take i).reverse = true ∧
        ∃ m ∈ loneSigma? (cs.drop i), m < needle.length)) := by
  obtain ⟨hform, hbegins⟩ := occursAt_iff_prefix_drop.1 h
  have hcount := List.count_eq_zero_of_not_mem hdotted
  have hi : i ≤ cs.length := by
    by_contra hlt
    rw [List.take_of_length_le (by omega)] at hcount
    rw [length_lower] at hform
    omega
  have hdrop := drop_lower hi
  rw [hcount, Nat.add_zero] at hdrop
  exact ⟨hi, prefix_lower_iff (hdrop ▸ hbegins)⟩

end Chars

namespace TextFunctions

open Arguments FunctionTable

variable {s : String} {p v : Value} {i : ℕ}

/-! ## The members -/

theorem ignoreCase_third (hignore : ignoreCase [v] 0 = .ok true) (s : String) (p : Value) :
    ignoreCase [.text s, p, v] 2 = .ok true :=
  ignoreCase_of_value_eq (by simp) (by simp) (by rfl : _ = value [v] 0) hignore

theorem searchFolded_eq (hignore : ignoreCase [v] 0 = .ok true)
    (find : List Char → List Char → Option ℕ) (s : String) (p : Value) :
    searchFolded find [.text s, p, v] =
      .ok (position (find (Chars.lower p.display.toList) (Chars.lower s.toList))) := by
  rw [searchFolded, ignoreCase_third hignore]
  rfl

theorem namesComparison_third (hv : integer? v = none) (s : String) (p : Value) :
    namesComparison [.text s, p, v] = true := by
  have hvalue : value [.text s, p, v] 2 = v := rfl
  rw [namesComparison, hvalue, hv]
  rfl

theorem answers_indexOf_folded (hv : integer? v = none) (hignore : ignoreCase [v] 0 = .ok true)
    (s : String) (p : Value) :
    MemberAnswers (.text s) "IndexOf" [p, v]
      (.ok (position (Chars.find? (Chars.lower p.display.toList) (Chars.lower s.toList)))) := by
  rw [← searchFolded_eq hignore]
  have h : MemberAnswers (.text s) "IndexOf" [p, v] (indexOf [.text s, p, v]) :=
    answers_member (by rfl : _ = "indexof") (by rfl) s (by rfl)
  rwa [indexOf, if_pos (namesComparison_third hv s p)] at h

theorem answers_lastIndexOf_folded (hv : integer? v = none)
    (hignore : ignoreCase [v] 0 = .ok true) (s : String) (p : Value) :
    MemberAnswers (.text s) "LastIndexOf" [p, v]
      (.ok (position (Chars.findLast? (Chars.lower p.display.toList) (Chars.lower s.toList)))) := by
  rw [← searchFolded_eq hignore]
  have h := answers_lastIndexOf s p (Nat.le_succ [v].length)
  rwa [lastIndexOf, if_pos (namesComparison_third hv s p)] at h

theorem answers_startsWith_folded (hignore : ignoreCase [v] 0 = .ok true) (s : String)
    (p : Value) : MemberAnswers (.text s) "StartsWith" [p, v]
      (.ok (.bool ((Chars.lower p.display.toList).isPrefixOf (Chars.lower s.toList)))) := by
  have h : MemberAnswers (.text s) "StartsWith" [p, v]
      (testPart List.isPrefixOf [.text s, p, v]) :=
    answers_member (by rfl : _ = "startswith") (by rfl) s (by rfl)
  rw [testPart, ignoreCase_third hignore] at h
  exact h

/-! ## Positions found without regard to case -/

/-- A position of a text from which on the text begins with another, compared as an argument
says. -/
def StartsAt (s : String) (p v : Value) (i : ℕ) : Prop :=
  i ≤ s.length ∧ ∃ rest, MemberAnswers (.text s) "Substring" [.ofInt i] (.ok (.text rest)) ∧
    MemberAnswers (.text rest) "StartsWith" [p, v] (.ok (.bool true))

theorem startsAt_iff (hs : s.length < 2 ^ 63) (hignore : ignoreCase [v] 0 = .ok true) :
    StartsAt s p v i ↔ i ≤ s.length ∧
      Chars.lower p.display.toList <+: Chars.lower (s.toList.drop i) := by
  refine and_congr_right fun hi => ?_
  have hindex : (Int64.ofInt i).toInt = i := Integer.toInt_ofNat (by omega)
  have hpart := actsOnRange_substring.answers_rest (a := .ofInt i) rfl
    (by rw [hindex]; omega : 0 ≤ (Int64.ofInt i).toInt ∧ (Int64.ofInt i).toInt ≤ s.length)
  rw [hindex, Int.toNat_natCast, List.take_of_length_le (by
    rw [List.length_drop, String.length_toList]; omega)] at hpart
  have hstarts := answers_startsWith_folded hignore (String.ofList (s.toList.drop i)) p
  rw [String.toList_ofList] at hstarts
  rw [← List.isPrefixOf_iff_prefix]
  constructor
  · rintro ⟨rest, hrest, h⟩
    obtain rfl : rest = String.ofList (s.toList.drop i) :=
      Value.text.inj (Except.ok.inj (hpart.unique hrest))
    exact (Value.bool.inj (Except.ok.inj (hstarts.unique h))).symm
  · intro h
    rw [h] at hstarts
    exact ⟨_, hpart, hstarts⟩

/-- What the members that search without regard to case give: the first and the last occurrence of a
lower-case form in another. -/
structure FoundIgnoringCase (s : String) (p v : Value) (first last : Option ℕ) : Prop where
  indexOf : AnswersPosition s "IndexOf" [p, v] first
  isFirst : IsFirst (Chars.OccursAt (Chars.lower p.display.toList) (Chars.lower s.toList)) first
  lastIndexOf : AnswersPosition s "LastIndexOf" [p, v] last
  isLast : IsLast (Chars.OccursAt (Chars.lower p.display.toList) (Chars.lower s.toList)) last

/-- A search that ignores case, of a text whose lower-case form has words as positions. It finds the
first or last occurrence in the lower-case form. The text itself begins at the position found with
the text that is looked for exactly if the position is one of the text and the occurrence is there
again, in the form cut at that position, behind one more character for every dotted capital I before
it. If there is no dotted capital I before the position, that is so exactly if the occurrence does
not reach over the sigma of a word begun before it that has no other letter behind it. -/
theorem search_ignoring_case_iff (hs : (Chars.lower s.toList).length < 2 ^ 63)
    (hv : integer? v = none) (hignore : ignoreCase [v] 0 = .ok true) (p : Value) :
    ∃ first last, FoundIgnoringCase s p v first last ∧ ∀ i, i ∈ first ∨ i ∈ last →
      (StartsAt s p v i ↔ i ≤ s.length ∧
        Chars.OccursAt (Chars.lower p.display.toList) (Chars.lowerCutAt s.toList i)
          (i + (s.toList.take i).count 'İ')) ∧
      ('İ' ∉ s.toList.take i → (StartsAt s p v i ↔
        ¬(Chars.nextIsCased (s.toList.take i).reverse = true ∧
          ∃ m ∈ Chars.loneSigma? (s.toList.drop i),
            m < (Chars.lower p.display.toList).length))) := by
  have hlength : s.length < 2 ^ 63 := by
    rw [Chars.length_lower, String.length_toList] at hs
    omega
  have hfirst := Chars.isFirst_find? (Chars.lower p.display.toList) (Chars.lower s.toList)
  have hlast := Chars.isLast_findLast? (Chars.lower p.display.toList) (Chars.lower s.toList)
  have hle {i : ℕ} (h : Chars.OccursAt (Chars.lower p.display.toList) (Chars.lower s.toList) i) :
      i ≤ (Chars.lower s.toList).length := by
    have := h.stop_le
    omega
  have hfound : FoundIgnoringCase s p v _ _ :=
    { indexOf := answersPosition hs (fun i hi => hle (hfirst.mem hi))
        (answers_indexOf_folded hv hignore s p)
      isFirst := hfirst
      lastIndexOf := answersPosition hs (fun i hi => hle (hlast.mem hi))
        (answers_lastIndexOf_folded hv hignore s p)
      isLast := hlast }
  refine ⟨_, _, hfound, fun i hi => ?_⟩
  rw [startsAt_iff hlength hignore]
  refine ⟨and_congr_right fun hi => Chars.prefix_lower_drop_iff (by rwa [String.length_toList]),
    fun hdotted => ?_⟩
  obtain ⟨hle, hbegins⟩ :=
    Chars.prefix_lower_drop_iff_of_not_mem hdotted (hi.elim hfirst.mem hlast.mem)
  rw [String.length_toList] at hle
  rw [hbegins, and_iff_right hle]

/-- A text with a dotted capital I and with a final sigma. -/
theorem search_ignoring_case_iff_of_sigma :
    (Chars.lower "AΣ İΣ".toList).length < 2 ^ 63 ∧
      integer? (.text "OrdinalIgnoreCase") = none ∧
      ignoreCase [.text "OrdinalIgnoreCase"] 0 = .ok true ∧
      ∃ first last,
        FoundIgnoringCase "AΣ İΣ" (.text "ς") (.text "OrdinalIgnoreCase") first last ∧
        ∀ i, i ∈ first ∨ i ∈ last →
          (StartsAt "AΣ İΣ" (.text "ς") (.text "OrdinalIgnoreCase") i ↔ i ≤ 5 ∧
            Chars.OccursAt (Chars.lower ['ς']) (Chars.lowerCutAt "AΣ İΣ".toList i)
              (i + ("AΣ İΣ".toList.take i).count 'İ')) ∧
          ('İ' ∉ "AΣ İΣ".toList.take i →
            (StartsAt "AΣ İΣ" (.text "ς") (.text "OrdinalIgnoreCase") i ↔
              ¬(Chars.nextIsCased ("AΣ İΣ".toList.take i).reverse = true ∧
                ∃ m ∈ Chars.loneSigma? ("AΣ İΣ".toList.drop i),
                  m < (Chars.lower ['ς']).length))) := by
  have hs : (Chars.lower "AΣ İΣ".toList).length < 2 ^ 63 := by
    rw [Chars.length_lower]
    decide
  have hv : integer? (.text "OrdinalIgnoreCase") = none := by decide
  have hignore : ignoreCase [.text "OrdinalIgnoreCase"] 0 = .ok true := rfl
  exact ⟨hs, hv, hignore, search_ignoring_case_iff hs hv hignore (.text "ς")⟩

/-- Behind a dotted capital I the position found is one too large. -/
theorem exists_position_ignoring_case_beyond :
    AnswersPosition "İa" "IndexOf" [.text "a", .text "OrdinalIgnoreCase"] (some 2) ∧
      AnswersPosition "İa" "LastIndexOf" [.text "a", .text "OrdinalIgnoreCase"] (some 2) ∧
      ¬ StartsAt "İa" (.text "a") (.text "OrdinalIgnoreCase") 2 := by
  have hv : integer? (.text "OrdinalIgnoreCase") = none := by decide
  have hignore : ignoreCase [.text "OrdinalIgnoreCase"] 0 = .ok true := rfl
  have ha : Text.isLowercase 'a' = true := by
    rw [Text.isLowercase, Text.has_eq_any]
    rfl
  have hpart : Chars.lower ['a'] = ['a'] := by
    rw [Chars.lower, Chars.lowerAfter_cons, Chars.lowerBetween_of_isLowercase ha]
    rfl
  have hform : Chars.lower ['İ', 'a'] = ['i', '\u0307', 'a'] := by
    rw [Chars.lower, Chars.lowerAfter_cons, Chars.lowerAfter_cons,
      Chars.lowerBetween_of_isLowercase ha]
    rfl
  have hfirst := answers_indexOf_folded hv hignore "İa" (.text "a")
  have hlast := answers_lastIndexOf_folded hv hignore "İa" (.text "a")
  rw [show (Value.text "a").display.toList = ['a'] from rfl,
    show "İa".toList = ['İ', 'a'] from rfl, hpart, hform] at hfirst hlast
  refine ⟨⟨2, hfirst, rfl⟩, ⟨2, hlast, rfl⟩, fun h => ?_⟩
  have hbegins := ((startsAt_iff (by decide) hignore).1 h).2
  rw [show (Value.text "a").display.toList = ['a'] from rfl, hpart] at hbegins
  exact absurd hbegins (by decide)

end TextFunctions

end BuildExpr
