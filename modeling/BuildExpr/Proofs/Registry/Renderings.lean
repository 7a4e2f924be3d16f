import BuildExpr.Proofs.Text.Escaping
import BuildExpr.Registry.Basic

/-!
# The two renderings of registry values

A value of a registry is put into text in escaped form by itself (`RegistryValue.escaped`), and
expressions see it as a value that is put into text in its own way (`RegistryValue.toValue`). Both
keep the entries of a list of texts apart by raw separators, and both write integers in decimal. But
the separators between bytes are escaped by the first and raw in the second, so the two agree on all
values but lists of two bytes or more (`RegistryValue.escaped_eq_iff`).
-/

namespace BuildExpr

/-! ## Integers -/

namespace Numeral

/-- A digit is no special character. -/
theorem isSpecial_of_mem_decimal {n : Nat} {c : Char} (h : c ∈ decimal n) :
    Chars.isSpecial c = false := by
  have hdigit : c.isDigit = true := Nat.isDigit_of_mem_toDigits (by decide) (by decide) h
  cases hs : Chars.isSpecial c with
  | false => rfl
  | true =>
    simp only [Chars.isSpecial, Bool.or_eq_true, beq_iff_eq] at hs
    rcases hs with (((((rfl | rfl) | rfl) | rfl) | rfl) | rfl) | rfl <;> cases hdigit

end Numeral

/-- A text without special characters is its own escaped form. -/
theorem Chars.escape_of_not_special {cs : List Char} (h : ∀ c ∈ cs, isSpecial c = false) :
    escape cs = cs := by
  induction cs with
  | nil => rfl
  | cons c cs ih =>
    obtain ⟨hc, hcs⟩ := List.forall_mem_cons.1 h
    rw [escape, List.flatMap_cons, escapeChar_of_not_special hc, ← escape, ih hcs,
      List.singleton_append]

theorem Text.escape_decimal (n : Nat) :
    escape (String.ofList (Numeral.decimal n)) = String.ofList (Numeral.decimal n) := by
  rw [escape, String.toList_ofList,
    Chars.escape_of_not_special fun _ => Numeral.isSpecial_of_mem_decimal]

namespace Integer

/-- A natural number that fits in a word is written in decimal. -/
theorem text_ofInt {n : Nat} (h : (n : Int) ≤ greatest) :
    text (Int64.ofInt n) = String.ofList (Numeral.decimal n) := by
  have hgreatest : greatest = 9223372036854775807 := rfl
  have hword : (Int64.ofInt n).toInt = n := Int64.toInt_ofInt_of_le (by omega) (by omega)
  rw [text, hword, chars, if_neg (by omega), Int.natAbs_natCast]

theorem fit?_natCast (n : Nat) :
    fit? n = if (n : Int) ≤ greatest then some (Int64.ofInt n) else none := by
  have hleast : least ≤ (n : Int) := by
    rw [least]
    omega
  simp only [fit?, hleast, true_and]

end Integer

/-! ## Values -/

namespace RegistryValue

/-- A number that fits in a word is put into text in the same way as a word. -/
theorem escaped_ofInt {n : Nat} (h : (n : Int) ≤ Integer.greatest) :
    (Value.ofInt n).escaped = String.ofList (Numeral.decimal n) := by
  rw [Value.ofInt, Value.escaped, Value.display, Integer.text_ofInt h, Text.escape_decimal]
  simp

theorem escaped_text (s : String) : (Value.text s).escaped = Text.escape s := by
  rw [Value.escaped, Value.display]
  simp

theorem escaped_ofTexts (list : List String) :
    (Value.ofTexts list).escaped = Text.join ";" (list.map Text.escape) := by
  rw [Value.ofTexts, Value.escaped, Value.escapedAll_eq_map, List.map_map]
  exact congrArg _ (List.map_congr_left fun s _ => escaped_text s)

theorem escaped_bytes (vars : Variables) (list : List UInt8) :
    ((bytes list).toValue vars).escaped = (bytes list).display vars := by
  rw [toValue, display, Value.escaped, Value.escapedAll_eq_map, List.map_map]
  refine congrArg _ (List.map_congr_left fun b _ => escaped_ofInt ?_)
  have hgreatest : Integer.greatest = 9223372036854775807 := rfl
  have := b.toNat_lt
  omega

/-- A separator stands between the first two of several texts. -/
theorem semicolon_mem_join (first second : String) (more : List String) :
    ';' ∈ (Text.join ";" (first :: second :: more)).toList := by
  simp [Text.join, Chars.join]

/-- Bytes with separators between them have special characters only if there are separators. -/
theorem escape_display_bytes_iff (vars : Variables) (list : List UInt8) :
    Text.escape ((bytes list).display vars) = (bytes list).display vars ↔ list.length ≤ 1 := by
  match list with
  | [] => exact ⟨fun _ => Nat.zero_le 1, fun _ => rfl⟩
  | [b] =>
    refine ⟨fun _ => Nat.le_refl 1, fun _ => ?_⟩
    have hone : (bytes [b]).display vars = String.ofList (Numeral.decimal b.toNat) := by
      simp [display, Text.join, Chars.join]
    rw [hone, Text.escape_decimal]
  | b :: b' :: more =>
    refine ⟨fun h => ?_, fun h => absurd h (by simp)⟩
    have hmem : ';' ∈ ((bytes (b :: b' :: more)).display vars).toList :=
      semicolon_mem_join _ _ _
    rw [← h, Text.escape, String.toList_ofList] at hmem
    exact absurd hmem (Chars.semicolon_not_mem_escape _)

/-- The two renderings of a value agree unless it is a list of several bytes. -/
theorem escaped_eq_iff (v : RegistryValue) (vars : Variables) :
    v.escaped vars = (v.toValue vars).escaped ↔ ∀ list, v = .bytes list → list.length ≤ 1 := by
  have hagree (h : v.escaped vars = (v.toValue vars).escaped) (hv : ∀ list, v ≠ .bytes list) :
      v.escaped vars = (v.toValue vars).escaped ↔ ∀ list, v = .bytes list → list.length ≤ 1 :=
    ⟨fun _ list he => absurd he (hv list), fun _ => h⟩
  cases v with
  | text s => exact hagree (escaped_text s).symm (by simp)
  | expandable s => exact hagree (escaped_text _).symm (by simp)
  | texts list => exact hagree (escaped_ofTexts list).symm (by simp)
  | bytes list =>
    rw [escaped_bytes]
    constructor
    · rintro h _ ⟨rfl⟩
      exact (escape_display_bytes_iff vars list).1 h
    · exact fun h => (escape_display_bytes_iff vars list).2 (h list rfl)
  | word32 n =>
    refine hagree ?_ (by simp)
    have hgreatest : Integer.greatest = 9223372036854775807 := rfl
    have hfits : (n.toNat : Int) ≤ Integer.greatest := by
      have := n.toNat_lt
      omega
    rw [toValue, escaped_ofInt hfits]
    exact Text.escape_decimal n.toNat
  | word64 n =>
    refine hagree ?_ (by simp)
    rw [toValue, Integer.fit?_natCast]
    by_cases hfits : (n.toNat : Int) ≤ Integer.greatest
    · rw [if_pos hfits]
      exact (Text.escape_decimal n.toNat).trans (escaped_ofInt hfits).symm
    · rw [if_neg hfits]
      exact (escaped_text _).symm

end RegistryValue

/-- The value that expressions see of a registry value is put into text as the registry value is,
in every environment, exactly when it is no list of several bytes. -/
theorem Registry.renderings_agree_iff {r : Registry} {view : RegistryView} {key name : String}
    {v : RegistryValue} (h : r.get? view key name = .ok (some v)) (vars : Variables) :
    ∃ value, r.read vars view key name = .ok value ∧
      (v.escaped vars = value.escaped ↔ ∀ list, v = .bytes list → list.length ≤ 1) := by
  refine ⟨v.toValue vars, ?_, v.escaped_eq_iff vars⟩
  rw [Registry.read, h]
  rfl

/-- A registry with a list of texts. -/
def toolRegistry : Registry :=
  { keys := [((.default, "hkey_local_machine\\tools"),
      { entries := [("Paths", .texts ["a;b", "", "%C%"])] })] }

theorem Registry.renderings_agree_iff_of_texts :
    toolRegistry.get? .registry64 "HKLM/Tools" "paths" = .ok (some (.texts ["a;b", "", "%C%"])) ∧
      ∃ value, toolRegistry.read [("C", "x")] .registry64 "HKLM/Tools" "paths" = .ok value ∧
        (RegistryValue.texts ["a;b", "", "%C%"]).escaped [("C", "x")] = value.escaped ∧
        value.escaped = "a%3bb;;%25C%25" := by
  have hfound : toolRegistry.get? .registry64 "HKLM/Tools" "paths" =
      .ok (some (.texts ["a;b", "", "%C%"])) := by
    decide +kernel
  obtain ⟨value, hread, hiff⟩ := renderings_agree_iff hfound [("C", "x")]
  have hagree := hiff.2 fun list hlist => by cases hlist
  exact ⟨hfound, value, hread, hagree, hagree ▸ by decide +kernel⟩

/-- The separators between bytes are escaped by the one rendering and not by the other. -/
theorem exists_renderings_ne :
    ∃ (v : RegistryValue) (vars : Variables), v.escaped vars ≠ (v.toValue vars).escaped := by
  refine ⟨.bytes [1, 2], [], ?_⟩
  have hvalue : ((RegistryValue.bytes [1, 2]).toValue []).escaped = "1;2" := by decide +kernel
  have htext : (RegistryValue.bytes [1, 2]).escaped [] = "1%3b2" := by decide +kernel
  rw [hvalue, htext]
  decide

end BuildExpr
