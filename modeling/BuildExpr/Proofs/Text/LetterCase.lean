import BuildExpr.Proofs.Text.Trimming
import BuildExpr.Source.Rest
import BuildExpr.Text.Case

/-!
# Letters of either case

A function of characters is `Caseless` when it gives the same for both cases of the letters A to Z.
All that reading asks of a character is caseless, but for the comparison with a letter
(`caseless_beq`), and so is trimming (`Text.eqIgnoreCase_trim`).
-/

namespace BuildExpr

namespace Chars

theorem toNat_of_isWord {c : Char} (h : isWord c = true) :
    48 ≤ c.toNat ∧ c.toNat ≤ 122 := by
  unfold isWord Char.isAlphanum Char.isAlpha Char.isUpper Char.isLower Char.isDigit at h
  simp only [Bool.or_eq_true, Bool.and_eq_true, decide_eq_true_eq, beq_iff_eq,
    UInt32.le_iff_toNat_le, ge_iff_le] at h
  rcases h with ((h | h) | h) | rfl
  · exact ⟨Nat.le_trans (by decide) h.1, Nat.le_trans h.2 (by decide)⟩
  · exact ⟨Nat.le_trans (by decide) h.1, Nat.le_trans h.2 (by decide)⟩
  · exact ⟨Nat.le_trans (by decide) h.1, Nat.le_trans h.2 (by decide)⟩
  · decide

theorem isBlank_of_isWord {c : Char} (h : isWord c = true) : isBlank c = false := by
  have := toNat_of_isWord h
  simp only [isBlank, Bool.or_eq_false_iff, Bool.and_eq_false_iff, beq_eq_false_iff_ne,
    decide_eq_false_iff_not]
  omega

/-- A name does not begin with a blank. -/
theorem isBlank_of_nameStart {c : Char} (h : (c.isAlpha || c == '_') = true) :
    isBlank c = false := by
  refine isBlank_of_isWord ?_
  rw [isWord, Char.isAlphanum]
  simp only [Bool.or_eq_true] at h ⊢
  exact h.imp .inl id

/-- The letters that have a lower case of their own. -/
def capitals : List Char := "ABCDEFGHIJKLMNOPQRSTUVWXYZ".toList

theorem toLower_of_not_isUpper {c : Char} (h : c.isUpper = false) : c.toLower = c := by
  exact dif_neg (of_decide_eq_false h)

theorem mem_capitals_of_isUpper {c : Char} (h : c.isUpper = true) : c ∈ capitals := by
  have hall : ∀ n ≤ 90, 65 ≤ n → Char.ofNat n ∈ capitals := by decide
  obtain ⟨hlow, hhigh⟩ : c.val ≥ 65 ∧ c.val ≤ 90 := of_decide_eq_true h
  rw [← Char.ofNat_toNat c]
  exact hall c.toNat (UInt32.le_iff_toNat_le.1 hhigh) (UInt32.le_iff_toNat_le.1 hlow)

/-- A function that gives the same for both cases of a letter. -/
def Caseless {α : Type} (f : Char → α) : Prop := ∀ c : Char, f c.toLower = f c

namespace Caseless

variable {α : Type} {f : Char → α}

/-- Only the capital letters have to be looked at. -/
theorem of_capitals [BEq α] [LawfulBEq α]
    (h : capitals.all (fun c => f c.toLower == f c) = true) : Caseless f := by
  intro c
  cases hc : c.isUpper with
  | true => exact beq_iff_eq.1 (List.all_eq_true.1 h c (mem_capitals_of_isUpper hc))
  | false => rw [toLower_of_not_isUpper hc]

theorem eq_of_toLower (h : Caseless f) {c d : Char} (hcd : c.toLower = d.toLower) : f c = f d :=
  calc f c = f c.toLower := (h c).symm
    _ = f d.toLower := by rw [hcd]
    _ = f d := h d

end Caseless

theorem caseless_utf8Size : Caseless Char.utf8Size := .of_capitals (by decide)

theorem caseless_isBlank : Caseless isBlank := .of_capitals (by decide)

theorem caseless_isAsciiBlank : Caseless isAsciiBlank := .of_capitals (by decide)

theorem caseless_isWord : Caseless isWord := .of_capitals (by decide)

theorem caseless_isAlpha : Caseless Char.isAlpha := .of_capitals (by decide)

theorem caseless_isQuote : Caseless isQuote := .of_capitals (by decide)

theorem caseless_toLower : Caseless Char.toLower := .of_capitals (by decide)

/-- No letter of either case is a character that is none. -/
theorem caseless_beq {d : Char} (hd : d.isAlpha = false) : Caseless (· == d) := by
  have hletters : capitals.all (fun c => c.isAlpha && c.toLower.isAlpha) = true := by decide
  have hne {c : Char} (hc : c.isAlpha = true) : (c == d) = false := by
    rw [beq_eq_false_iff_ne]
    rintro rfl
    rw [hd] at hc
    cases hc
  refine .of_capitals (List.all_eq_true.2 fun c hc => ?_)
  obtain ⟨hcapital, hsmall⟩ := Bool.and_eq_true_iff.1 (List.all_eq_true.1 hletters c hc)
  rw [hne hcapital, hne hsmall, beq_self_eq_true]

/-- A character that is no letter has no other case. -/
theorem eq_of_toLower_eq {c d : Char} (hd : d.isAlpha = false) (h : c.toLower = d.toLower) :
    c = d := by
  have := (caseless_beq hd).eq_of_toLower h
  simpa using this

/-- Trimming a text does not look at the case of its letters. -/
theorem trim_map_toLower (cs : List Char) :
    trim (cs.map Char.toLower) = (trim cs).map Char.toLower := by
  have hkeeps : KeepsBlanks fun c => [c.toLower] := by
    refine ⟨fun c hc => ?_, fun c hc => ⟨c.toLower, [], rfl, (caseless_isBlank c).trans hc⟩⟩
    cases hupper : c.isUpper with
    | false => rw [toLower_of_not_isUpper hupper]
    | true =>
      have hletters : capitals.any isBlank = false := by decide
      have hblank := List.any_eq_false.1 hletters c (mem_capitals_of_isUpper hupper)
      exact absurd hc hblank
  have h := trim_flatMap hkeeps (by simpa using hkeeps) cs
  rwa [← List.map_eq_flatMap, ← List.map_eq_flatMap] at h

end Chars

namespace Text

/-- Whether two names differ at most in the case of the letters A to Z. -/
abbrev SameName (a b : String) : Prop := eqIgnoreCase a b = true

theorem eqIgnoreCase_iff {a b : String} :
    eqIgnoreCase a b = true ↔ a.toList.map Char.toLower = b.toList.map Char.toLower := by
  simp only [eqIgnoreCase, foldAscii, beq_iff_eq, String.ofList_inj]

theorem foldAscii_eq {a b : String} (h : eqIgnoreCase a b = true) : foldAscii a = foldAscii b :=
  beq_iff_eq.1 h

/-- A name in lower case is the same name. -/
theorem sameName_foldAscii (a : String) : SameName a (foldAscii a) := by
  rw [SameName, eqIgnoreCase_iff, foldAscii, String.toList_ofList, List.map_map]
  exact List.map_congr_left fun c _ => (Chars.caseless_toLower c).symm

theorem eqIgnoreCase_trim {a b : String} (h : eqIgnoreCase a b = true) :
    eqIgnoreCase (trim a) (trim b) = true := by
  rw [eqIgnoreCase_iff] at h ⊢
  simp only [trim, String.toList_ofList, ← Chars.trim_map_toLower, h]

/-- Whether a text is blank does not depend on the case of its letters. -/
theorem isBlank_eq {a b : String} (h : eqIgnoreCase a b = true) : isBlank a = isBlank b := by
  have hall (cs : List Char) : cs.all Chars.isBlank = (cs.map Char.toLower).all Chars.isBlank := by
    rw [List.all_map]
    congr 1
    funext c
    exact (Chars.caseless_isBlank c).symm
  rw [isBlank, isBlank, hall, eqIgnoreCase_iff.1 h, ← hall]

end Text

end BuildExpr
