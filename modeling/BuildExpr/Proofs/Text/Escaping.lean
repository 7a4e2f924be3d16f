import BuildExpr.Proofs.Text.Pieces

/-!
# Escaped texts

`unescape_escape`: what was escaped is read back. Escaping works character by character, so the
escaped forms of the parts of a text make up that of the whole; an escaped text has no special
character but the `%` of its escapes (`eq_percent_of_mem_escape`), which a hexadecimal digit follows
(`escapeChar_of_special`), and trimming commutes with escaping (`trim_escape`). So an escaped text
is one entry of a list at most, which is read back (`splitList_escape`).
-/

namespace BuildExpr

namespace Chars

/-! ## Reading back -/

theorem unescape_cons {c : Char} (hc : c ≠ '%') (cs : List Char) :
    unescape (c :: cs) = c :: unescape cs := by
  rw [unescape]
  intro high low rest h
  exact absurd h hc

/-- The escape of a special character stands for that character. -/
theorem unescape_escapeChar_append (c : Char) (cs : List Char) :
    unescape (escapeChar c ++ cs) = c :: unescape cs := by
  rw [escapeChar]
  split
  · rename_i hc
    simp only [isSpecial, Bool.or_eq_true, beq_iff_eq] at hc
    rcases hc with (((((rfl | rfl) | rfl) | rfl) | rfl) | rfl) | rfl <;> rfl
  · rename_i hc
    exact unescape_cons (by rintro rfl; exact hc rfl) cs

theorem unescape_escape_append (xs ys : List Char) :
    unescape (escape xs ++ ys) = xs ++ unescape ys := by
  induction xs with
  | nil => rfl
  | cons c xs ih =>
    rw [escape, List.flatMap_cons, List.append_assoc, unescape_escapeChar_append, ← escape, ih,
      List.cons_append]

/-- What was escaped is read back. -/
theorem unescape_escape (cs : List Char) : unescape (escape cs) = cs := by
  simpa [unescape] using unescape_escape_append cs []

@[simp] theorem escape_append (xs ys : List Char) : escape (xs ++ ys) = escape xs ++ escape ys :=
  List.flatMap_append

/-! ## What an escaped text holds -/

theorem escapeChar_of_not_special {c : Char} (h : isSpecial c = false) : escapeChar c = [c] := by
  rw [escapeChar, if_neg (by simp [h])]

/-- A special character is escaped by `%` and two hexadecimal digits. -/
theorem escapeChar_of_special {c : Char} (h : isSpecial c = true) :
    ∃ high low, escapeChar c = ['%', high, low] ∧
      (isSpecial high = false ∧ isBlank high = false ∧ high ≠ '(') ∧
      (isSpecial low = false ∧ isBlank low = false ∧ low ≠ '(') := by
  refine ⟨_, _, by rw [escapeChar, if_pos h], ?_⟩
  simp only [isSpecial, Bool.or_eq_true, beq_iff_eq] at h
  rcases h with (((((rfl | rfl) | rfl) | rfl) | rfl) | rfl) | rfl <;> decide

/-- A special character of an escaped text is the `%` of an escape. -/
theorem eq_percent_of_mem_escape {cs : List Char} {c : Char} (h : c ∈ escape cs)
    (hc : isSpecial c = true) : c = '%' := by
  obtain ⟨d, -, hd⟩ := List.mem_flatMap.1 h
  cases hs : isSpecial d with
  | false =>
    rw [escapeChar_of_not_special hs, List.mem_singleton] at hd
    rw [hd, hs] at hc
    cases hc
  | true =>
    obtain ⟨high, low, he, ⟨hhigh, -⟩, hlow, -⟩ := escapeChar_of_special hs
    rw [he] at hd
    simp only [List.mem_cons, List.not_mem_nil, or_false] at hd
    rcases hd with rfl | rfl | rfl
    · rfl
    · rw [hhigh] at hc
      cases hc
    · rw [hlow] at hc
      cases hc

theorem semicolon_not_mem_escape (cs : List Char) : ';' ∉ escape cs :=
  fun h => absurd (eq_percent_of_mem_escape h rfl) (by decide)

/-! ## Trimming an escaped text -/

theorem isSpecial_eq_false_of_isBlank {c : Char} (h : isBlank c = true) : isSpecial c = false := by
  cases hs : isSpecial c with
  | false => rfl
  | true =>
    simp only [isSpecial, Bool.or_eq_true, beq_iff_eq] at hs
    rcases hs with (((((rfl | rfl) | rfl) | rfl) | rfl) | rfl) | rfl <;> cases h

theorem keepsBlanks_escapeChar : KeepsBlanks escapeChar where
  blank c hc := escapeChar_of_not_special (isSpecial_eq_false_of_isBlank hc)
  other c hc := by
    cases hs : isSpecial c with
    | false => exact ⟨c, [], escapeChar_of_not_special hs, hc⟩
    | true =>
      obtain ⟨high, low, he, -⟩ := escapeChar_of_special hs
      exact ⟨'%', [high, low], he, rfl⟩

theorem keepsBlanks_escapeChar_reverse : KeepsBlanks fun c => (escapeChar c).reverse where
  blank c hc := by rw [escapeChar_of_not_special (isSpecial_eq_false_of_isBlank hc)]; rfl
  other c hc := by
    cases hs : isSpecial c with
    | false => exact ⟨c, [], by rw [escapeChar_of_not_special hs]; rfl, hc⟩
    | true =>
      obtain ⟨high, low, he, -, -, hlow, -⟩ := escapeChar_of_special hs
      exact ⟨low, [high, '%'], by rw [he]; rfl, hlow⟩

/-- Escaping leaves the blanks at the ends of a text as they are and makes none. -/
theorem trim_escape (cs : List Char) : trim (escape cs) = escape (trim cs) :=
  trim_flatMap keepsBlanks_escapeChar keepsBlanks_escapeChar_reverse cs

end Chars

namespace Text

theorem escape_append (a b : String) : escape (a ++ b) = escape a ++ escape b := by
  simp [escape]

theorem unescape_escape (s : String) : unescape (escape s) = s := by
  simp [unescape, escape, Chars.unescape_escape]

/-! ## Entries of escaped texts -/

/-- What is left of texts as entries of a list: they are trimmed, and blank ones dropped. -/
def entriesOf (texts : List String) : List String :=
  (texts.map trim).filter fun text => !text.isEmpty

theorem entriesOf_singleton (s : String) :
    entriesOf [s] = if (trim s).isEmpty then [] else [trim s] := by
  cases h : (trim s).isEmpty <;> simp [entriesOf, h]

theorem entriesOf_append (xs ys : List String) :
    entriesOf (xs ++ ys) = entriesOf xs ++ entriesOf ys := by
  simp [entriesOf]

/-- The only entry of an escaped text is the text without the blanks at its ends. -/
theorem splitList_escape (s : String) :
    (splitList (escape s)).map unescape = entriesOf [s] := by
  have hlist := Chars.splitList_of_not_mem (Chars.semicolon_not_mem_escape s.toList)
  have hempty : (Chars.escape (Chars.trim s.toList)).isEmpty = (trim s).isEmpty := by
    have hback := Chars.unescape_escape (Chars.trim s.toList)
    cases htrim : Chars.trim s.toList with
    | nil => simp [trim, htrim, Chars.escape]
    | cons c cs =>
      rw [htrim] at hback
      cases hescape : Chars.escape (c :: cs) with
      | nil =>
        rw [hescape] at hback
        cases hback
      | cons d ds => simp [trim, htrim]
  rw [splitList, escape, String.toList_ofList, hlist, Chars.trim_escape, hempty,
    entriesOf_singleton]
  split
  · rfl
  · simp [unescape, trim, Chars.unescape_escape]

/-- The entries of texts with a `;` between them are those of each text. -/
theorem splitList_join (texts : List String) :
    splitList (join ";" texts) = texts.flatMap splitList := by
  induction texts with
  | nil => rfl
  | cons text texts ih =>
    cases texts with
    | nil => simp [join, Chars.join]
    | cons next texts =>
      have hjoin : join ";" (text :: next :: texts) =
          text ++ (";" ++ join ";" (next :: texts)) := by
        simp [join, Chars.join]
      rw [hjoin, splitList_append, ih]
      exact List.flatMap_cons.symm

/-- Escaped texts with a `;` between them have the texts as their entries. -/
theorem splitList_join_escape (texts : List String) :
    (splitList (join ";" (texts.map escape))).map unescape = entriesOf texts := by
  rw [splitList_join]
  induction texts with
  | nil => rfl
  | cons text texts ih =>
    rw [List.map_cons, List.flatMap_cons, List.map_append, ih, splitList_escape,
      ← entriesOf_append, List.singleton_append]

end Text

end BuildExpr
