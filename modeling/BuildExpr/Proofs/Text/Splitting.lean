import BuildExpr.Proofs.Text.Pieces
import BuildExpr.Proofs.Text.SearchWindow

/-!
# Splitting and joining

A text that is split at a character in at most so many pieces has the first pieces of the plain
split and all the rest in one piece (`Chars.splitAtMost_eq`), so joining the pieces gives back the
text. The members `Split` and `Join` are inverse in this sense, for every limit
(`TextFunctions.join_split`).
-/

namespace BuildExpr

namespace Chars

variable {sep c : Char} {cs : List Char}

/-! ## Pieces of the plain split -/

theorem length_splitOn (sep : Char) (cs : List Char) :
    (splitOn sep cs).length = 1 + cs.count sep := by
  induction cs with
  | nil => rfl
  | cons c cs ih =>
    by_cases hc : c = sep
    · subst hc
      rw [splitOn_cons_self, List.length_cons, ih, List.count_cons_self, Nat.add_assoc]
    · obtain ⟨piece, pieces, hp⟩ := exists_splitOn sep cs
      rw [splitOn_cons_of_ne hc hp, List.count_cons_of_ne hc, ← ih, hp, List.length_cons,
        List.length_cons]

/-- Pieces that are joined first are joined all the same. -/
theorem join_append_join (sep : List Char) (first : List (List Char)) {rest : List (List Char)}
    (h : rest ≠ []) : join sep (first ++ [join sep rest]) = join sep (first ++ rest) := by
  induction first with
  | nil => rfl
  | cons piece first ih =>
    rw [List.cons_append, List.cons_append, join_cons_of_ne_nil _ _ (by simp), ih,
      join_cons_of_ne_nil _ _ (by simp [h])]

/-! ## A limit on the number of pieces -/

/-- The first pieces, and the others joined to one. -/
def firstPieces (sep : Char) (cuts : ℕ) (pieces : List (List Char)) : List (List Char) :=
  if cuts < pieces.length then pieces.take cuts ++ [join [sep] (pieces.drop cuts)] else pieces

theorem firstPieces_cons (sep : Char) (cuts : ℕ) (piece : List Char) (pieces : List (List Char)) :
    firstPieces sep (cuts + 1) (piece :: pieces) = piece :: firstPieces sep cuts pieces := by
  simp only [firstPieces, List.length_cons, Nat.add_lt_add_iff_right]
  split <;> rfl

/-- A limit leaves the first pieces as they are and the rest in one. -/
theorem splitAtMost_eq (sep : Char) (cuts : ℕ) (cs : List Char) :
    splitAtMost (· == sep) cuts cs = firstPieces sep cuts (splitOn sep cs) := by
  induction cs generalizing cuts with
  | nil =>
    cases cuts with
    | zero => rfl
    | succ cuts => rfl
  | cons c cs ih =>
    cases cuts with
    | zero =>
      rw [splitAtMost, firstPieces, if_pos (by rw [length_splitOn]; omega), List.take_zero,
        List.drop_zero, join_splitOn, List.nil_append]
    | succ cuts =>
      by_cases hc : c = sep
      · subst hc
        rw [splitAtMost, if_pos (beq_self_eq_true c), ih, splitOn_cons_self, firstPieces_cons]
      · obtain ⟨piece, pieces, hp⟩ := exists_splitOn sep cs
        rw [splitAtMost, if_neg (by simpa using hc), ih, hp, firstPieces_cons,
          splitOn_cons_of_ne hc hp, firstPieces_cons]

theorem length_firstPieces (sep : Char) (cuts : ℕ) (pieces : List (List Char)) :
    (firstPieces sep cuts pieces).length = min (cuts + 1) pieces.length := by
  rw [firstPieces]
  split
  · rw [List.length_append, List.length_take, List.length_singleton]
    omega
  · omega

theorem join_firstPieces (sep : Char) (cuts : ℕ) (pieces : List (List Char)) :
    join [sep] (firstPieces sep cuts pieces) = join [sep] pieces := by
  rw [firstPieces]
  split
  · rename_i h
    rw [join_append_join _ _ (by simpa using h), List.take_append_drop]
  · rfl

/-- All pieces but the last are pieces of the plain split. -/
theorem mem_of_mem_dropLast_firstPieces {cuts : ℕ} {piece : List Char} {pieces : List (List Char)}
    (h : piece ∈ (firstPieces sep cuts pieces).dropLast) : piece ∈ pieces := by
  rw [firstPieces] at h
  split at h
  · rw [List.dropLast_concat] at h
    exact List.mem_of_mem_take h
  · exact List.dropLast_subset _ h

/-- The pieces of a text that is split at a character, all of them or at most so many. -/
def limitedPieces (sep : Char) (limit : Option ℕ) (cs : List Char) : List (List Char) :=
  match limit with
  | some 0 => []
  | some (cuts + 1) => splitAtMost (· == sep) cuts cs
  | none => splitOn sep cs

section

variable {limit : Option ℕ}

theorem length_limitedPieces_some (sep : Char) {count : ℕ} (h : count ≠ 0) (cs : List Char) :
    (limitedPieces sep (some count) cs).length = min count (1 + cs.count sep) := by
  obtain ⟨cuts, rfl⟩ := Nat.exists_eq_succ_of_ne_zero h
  rw [limitedPieces, splitAtMost_eq, length_firstPieces, length_splitOn]

theorem join_limitedPieces (h : limit ≠ some 0) (sep : Char) (cs : List Char) :
    join [sep] (limitedPieces sep limit cs) = cs := by
  rcases limit with _ | _ | cuts
  · exact join_splitOn sep cs
  · exact absurd rfl h
  · rw [limitedPieces, splitAtMost_eq, join_firstPieces, join_splitOn]

/-- All pieces but the last are pieces of the plain split. -/
theorem mem_of_mem_dropLast_limitedPieces {piece : List Char}
    (h : piece ∈ (limitedPieces sep limit cs).dropLast) : piece ∈ splitOn sep cs := by
  rcases limit with _ | _ | cuts
  · exact List.dropLast_subset _ h
  · cases h
  · rw [limitedPieces, splitAtMost_eq] at h
    exact mem_of_mem_dropLast_firstPieces h

end

end Chars

namespace TextFunctions

open Arguments FunctionTable

variable {s : String} {a b d o : Value} {c : Char} {n : Int64}

/-! ## The members -/

/-- A character or the text of it is one separator. -/
theorem charList_of_char? (ha : char? a = some c) : charList [a] 0 = .ok [c] := by
  have hvalue : value [a] 0 = a := rfl
  rw [charList, hvalue]
  cases a with
  | text t =>
    rw [char?] at ha
    split at ha
    · rename_i d ht
      cases ha
      rw [← ht]
    · cases ha
  | char d =>
    cases ha
    rfl
  | _ => cases ha

theorem display_of_char? (ha : char? a = some c) : a.display.toList = [c] := by
  cases a with
  | text t =>
    rw [char?] at ha
    split at ha
    · rename_i d ht
      cases ha
      exact ht
    · cases ha
  | char d =>
    cases ha
    simp [Value.display]
  | _ => cases ha

theorem answers_split (s : String) (a : Value) {more : List Value} (h : more.length ≤ 1) :
    MemberAnswers (.text s) "Split" (a :: more) (split (.text s :: a :: more)) :=
  answers_member (by rfl : _ = "split") (by rfl) s (by simp; omega)

theorem answers_join (d v : Value) :
    Answers "System.String" "Join" [d, v] (join [d, v]) :=
  answers_of_resolve (resolveStatic_of_find (by rfl : _ = "system.string")
    (by rfl : _ = "join") rfl rfl)

/-- The pieces that `Split` gives, without trimming. -/
theorem split_eq (ha : char? a = some c) {more : List Value} {limit : Option ℕ} {options : ℕ}
    (hlimit : splitLimit (.text s :: a :: more) = .ok (limit, options))
    (hoptions : options / 2 % 2 = 0) :
    split (.text s :: a :: more) = .ok (.ofTexts
      ((if options % 2 == 1 then
        (Chars.limitedPieces c limit s.toList).filter fun piece => !piece.isEmpty
      else Chars.limitedPieces c limit s.toList).map String.ofList)) := by
  have hvalue : value (.text s :: a :: more) 1 = value [a] 0 := rfl
  have hset : charList (.text s :: a :: more) 1 = .ok [c] :=
    charList_of_value_eq hvalue (charList_of_char? ha)
  have hchars : chars (.text s :: a :: more) 0 = s.toList := rfl
  have hgiven : isGiven (.text s :: a :: more) 1 = true := by simp [isGiven]
  have hseparates : (fun d => if [c].isEmpty then Chars.isBlank d else [c].contains d) =
      (· == c) := by
    funext d
    rw [List.contains_cons, List.contains_nil, Bool.or_false]
    rfl
  rw [split, if_pos hgiven, hset, hlimit, hchars]
  simp only [bind, Except.bind, hseparates, hoptions]
  rcases limit with _ | _ | cuts <;> rfl

theorem splitLimit_none (s : String) (a : Value) :
    splitLimit [.text s, a] = .ok (none, 0) := rfl

theorem splitLimit_count (hb : integer? b = some n) (hn : 1 ≤ n.toInt) :
    splitLimit [.text s, a, b] = .ok (some n.toInt.toNat, 0) := by
  have hvalue : value [.text s, a, b] 2 = b := rfl
  have hneg : ¬ n < 0 := by
    rw [Int64.lt_iff_toInt_lt]
    exact fun h => absurd (lt_of_lt_of_le h (by decide)) (not_lt.2 hn)
  rw [splitLimit, if_neg (by simp [isGiven]), hvalue, hb]
  exact if_neg hneg

theorem splitLimit_options {options : ℕ} (ho : integer? o = none)
    (h : flags [o] 0 splitOptions = .ok options) :
    splitLimit [.text s, a, o] = .ok (none, options) := by
  have hvalue : value [.text s, a, o] 2 = o := rfl
  have hflags : flags [.text s, a, o] 2 splitOptions = .ok options :=
    flags_of_value_eq (hvalue.trans (by rfl : o = value [o] 0)) h
  rw [splitLimit, if_neg (by simp [isGiven]), hvalue, ho, hflags]
  rfl

theorem join_ofTexts (hd : char? d = some c) (pieces : List (List Char)) :
    join [d, .ofTexts (pieces.map String.ofList)] =
      .ok (.text (String.ofList (Chars.join [c] pieces))) := by
  have hseparator : (text [d, .ofTexts (pieces.map String.ofList)] 0).toList = [c] :=
    display_of_char? hd
  have hdisplay : ((pieces.map String.ofList).map Value.text).map Value.display =
      pieces.map String.ofList := by
    simp [Value.display]
  have htexts : texts [d, .ofTexts (pieces.map String.ofList)] 1 = .ok (pieces.map String.ofList) :=
    congrArg Except.ok hdisplay
  have hpieces : (pieces.map String.ofList).map String.toList = pieces := by simp
  rw [join, if_pos (by rfl), htexts]
  simp only [bind, Except.bind, Text.join, hseparator, hpieces]
  rfl

/-! ## Splitting and joining -/

/-- `Split` cuts a text at a character into parts that `Join` puts together again. None of them but
the last holds the character. -/
structure CutsInto (s : String) (c : Char) (args : List Value) (d : Value) (parts : List String) :
    Prop where
  answers : MemberAnswers (.text s) "Split" args (.ok (.ofTexts parts))
  joined : Answers "System.String" "Join" [d, .ofTexts parts] (.ok (.text s))
  not_mem : ∀ part ∈ parts.dropLast, c ∉ part.toList

theorem cutsInto_of_splitLimit (ha : char? a = some c) (hd : char? d = some c) (more : List Value)
    (hmore : more.length ≤ 1) {limit : Option ℕ} (hne : limit ≠ some 0)
    (hlimit : splitLimit (.text s :: a :: more) = .ok (limit, 0)) :
    CutsInto s c (a :: more) d ((Chars.limitedPieces c limit s.toList).map String.ofList) where
  answers := by
    have h := answers_split s a hmore
    rwa [split_eq ha hlimit rfl] at h
  joined := by
    have h := answers_join d (.ofTexts ((Chars.limitedPieces c limit s.toList).map String.ofList))
    rwa [join_ofTexts hd, Chars.join_limitedPieces hne, String.ofList_toList] at h
  not_mem := by
    intro part hpart
    rw [← List.map_dropLast] at hpart
    obtain ⟨piece, hpiece, rfl⟩ := List.mem_map.1 hpart
    rw [String.toList_ofList]
    exact Chars.not_mem_of_mem_splitOn (Chars.mem_of_mem_dropLast_limitedPieces hpiece)

/-- Splitting at a character and joining with it are inverse, with a limit on the number of parts
and without. There are as many parts as occurrences of the character and one more, or as the limit
admits, and only the last of them may hold the character. The option to remove empty parts leaves
the others in their order. -/
theorem join_split (ha : char? a = some c) (hd : char? d = some c) (s : String) :
    (∃ parts, CutsInto s c [a] d parts ∧ parts.length = 1 + s.toList.count c ∧
      (∀ part ∈ parts, c ∉ part.toList) ∧
      ∀ o, integer? o = none → flags [o] 0 splitOptions = .ok 1 →
        MemberAnswers (.text s) "Split" [a, o]
          (.ok (.ofTexts (parts.filter fun part => part ≠ "")))) ∧
    ∀ (b : Value) (n : Int64), integer? b = some n → 1 ≤ n.toInt →
      ∃ parts, CutsInto s c [a, b] d parts ∧
        (parts.length : ℤ) = min n.toInt (1 + s.toList.count c) := by
  have hplain : CutsInto s c [a] d _ :=
    cutsInto_of_splitLimit ha hd [] (Nat.zero_le 1) (Option.some_ne_none 0).symm
      (splitLimit_none s a)
  refine ⟨⟨_, hplain, ?_, ?_, fun o ho hoptions => ?_⟩, fun b n hb hn => ?_⟩
  · rw [List.length_map]
    exact Chars.length_splitOn c s.toList
  · intro part hpart
    obtain ⟨piece, hpiece, rfl⟩ := List.mem_map.1 hpart
    rw [String.toList_ofList]
    exact Chars.not_mem_of_mem_splitOn hpiece
  · have h := answers_split s a (Nat.le_refl [o].length)
    have hempty : (fun part : String => decide (part ≠ "")) ∘ String.ofList =
        fun piece => !piece.isEmpty := by
      funext piece
      cases piece <;> simp
    rw [split_eq ha (splitLimit_options ho hoptions) rfl] at h
    rw [List.filter_map, hempty]
    exact h
  · have hcount : n.toInt.toNat ≠ 0 := by omega
    have hlimited : CutsInto s c [a, b] d _ :=
      cutsInto_of_splitLimit ha hd [b] (Nat.le_refl 1) (fun h => hcount (Option.some.inj h))
        (splitLimit_count hb hn)
    refine ⟨_, hlimited, ?_⟩
    rw [List.length_map, Chars.length_limitedPieces_some c hcount]
    omega

/-- A text with an empty part, split in two, plainly, and without the empty part. -/
theorem join_split_of_empty_part :
    char? (.text ";") = some ';' ∧ char? (.char ';') = some ';' ∧
      (∃ parts, CutsInto "a;;b;c" ';' [.text ";"] (.char ';') parts ∧ parts.length = 4 ∧
        (∀ part ∈ parts, ';' ∉ part.toList) ∧
        MemberAnswers (.text "a;;b;c") "Split" [.text ";", .text "RemoveEmptyEntries"]
          (.ok (.ofTexts (parts.filter fun part => part ≠ "")))) ∧
      ∃ parts, CutsInto "a;;b;c" ';' [.text ";", .int 2] (.char ';') parts ∧ parts.length = 2 := by
  have hseparator : char? (.text ";") = some ';' := by decide
  obtain ⟨⟨parts, hparts, hlength, hnot, hremoved⟩, hlimited⟩ :=
    join_split hseparator (d := .char ';') rfl "a;;b;c"
  refine ⟨hseparator, rfl, ⟨parts, hparts, hlength, hnot, ?_⟩, ?_⟩
  · exact hremoved (.text "RemoveEmptyEntries") (by decide) (by rfl)
  · obtain ⟨two, htwo, hcount⟩ := hlimited (.int 2) 2 rfl (by decide)
    exact ⟨two, htwo, Int.ofNat_inj.1 hcount⟩

end TextFunctions

end BuildExpr
