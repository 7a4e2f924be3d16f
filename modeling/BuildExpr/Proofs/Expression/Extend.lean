import BuildExpr.Proofs.Expression.Chunks

/-!
# Reading in front of more text

A reading step that does not come to the end of a text gives the same with more text behind it:
quoted runs and groups, names that something follows, blanks that something follows. A name that
does come to the end of its text stays the same in front of a text that cannot go on with it
(`Chars.StopsName`).
-/

namespace BuildExpr

namespace Chars

theorem cut?_append {sep : Char} {cs before after : List Char}
    (h : cut? sep cs = some (before, after)) (tail : List Char) :
    cut? sep (cs ++ tail) = some (before, after ++ tail) := by
  induction cs generalizing before with
  | nil => simp [cut?] at h
  | cons c cs ih =>
    rw [List.cons_append, cut?]
    rw [cut?] at h
    split
    · rename_i hc
      rw [if_pos hc] at h
      obtain ⟨rfl, rfl⟩ := Prod.mk.inj (Option.some.inj h)
      rfl
    · rename_i hc
      rw [if_neg hc] at h
      obtain ⟨⟨b, a⟩, hb, hab⟩ := Option.map_eq_some_iff.1 h
      obtain ⟨rfl, rfl⟩ := Prod.mk.inj hab
      rw [ih hb]
      rfl

/-- Whether a name ends before a text. -/
def StopsName (cs : List Char) : Prop :=
  ∀ c rest, cs = c :: rest → isWord c = false ∧ c ≠ '>' ∧ (c = '-' → rest.head? = some '>')

theorem stopsName_parenthesis (cs : List Char) : StopsName ('(' :: cs) := by
  rintro c rest ⟨rfl⟩
  exact ⟨rfl, by decide, fun h => absurd h (by decide)⟩

theorem stopsName_point (cs : List Char) : StopsName ('.' :: cs) := by
  rintro c rest ⟨rfl⟩
  exact ⟨rfl, by decide, fun h => absurd h (by decide)⟩

/-- A name begins with a letter or an underscore. -/
theorem exists_cons_of_name? {dash : Bool} {name : List Char}
    (h : name? dash name = some (name, [])) :
    ∃ c cs, name = c :: cs ∧ (c.isAlpha || c == '_') = true := by
  cases name with
  | nil => cases h
  | cons c cs =>
    rw [name?] at h
    split at h
    · exact ⟨c, cs, rfl, ‹_›⟩
    · cases h

/-- A name that ends before a text. -/
theorem nameTail_append_stop {dash : Bool} {cs : List Char} (hcs : StopsName cs) {name : List Char}
    (h : (nameTail dash name).2 = []) : nameTail dash (name ++ cs) = (name, cs) := by
  induction name with
  | nil =>
    cases cs with
    | nil => rfl
    | cons c rest =>
      obtain ⟨hword, -, hdash⟩ := hcs c rest rfl
      rw [List.nil_append, nameTail, if_neg]
      by_cases hc : c = '-'
      · simp [hword, hdash hc]
      · simp [hword, hc]
  | cons c name ih =>
    have hhead : ((name ++ cs).head? != some '>') = (name.head? != some '>') := by
      cases name with
      | cons d name => rfl
      | nil =>
        cases cs with
        | nil => rfl
        | cons d rest =>
          have hd : (some d != some '>') = true := by simpa using (hcs d rest rfl).2.1
          exact hd
    rw [nameTail] at h
    rw [List.cons_append, nameTail, hhead]
    split
    · rename_i hc
      rw [if_pos hc] at h
      rw [ih h]
    · rename_i hc
      rw [if_neg hc] at h
      cases h

theorem name?_append_stop {dash : Bool} {cs : List Char} (hcs : StopsName cs) {name : List Char}
    (h : name? dash name = some (name, [])) : name? dash (name ++ cs) = some (name, cs) := by
  cases name with
  | nil => cases h
  | cons c name =>
    rw [name?] at h
    split at h
    · rename_i hc
      have hrest := (Prod.mk.inj (Option.some.inj h)).2
      rw [List.cons_append, name?, if_pos hc, nameTail_append_stop hcs hrest]
    · cases h

/-- A name that something follows is the same with more text behind that. -/
theorem nameTail_append_of_ne_nil {cs : List Char} (h : (nameTail false cs).2 ≠ [])
    (tail : List Char) :
    nameTail false (cs ++ tail) = ((nameTail false cs).1, (nameTail false cs).2 ++ tail) := by
  induction cs with
  | nil => exact absurd rfl h
  | cons c cs ih =>
    simp only [List.cons_append, nameTail, Bool.false_and, Bool.or_false] at h ⊢
    split
    · rename_i hc
      rw [if_pos hc] at h
      rw [ih h]
    · rfl

theorem name?_append_of_ne_nil {cs name after : List Char} (h : name? false cs = some (name, after))
    (hafter : after ≠ []) (tail : List Char) :
    name? false (cs ++ tail) = some (name, after ++ tail) := by
  cases cs with
  | nil => cases h
  | cons c cs =>
    rw [List.cons_append, name?]
    rw [name?] at h
    split
    · rename_i hc
      rw [if_pos hc] at h
      obtain ⟨rfl, rfl⟩ := Prod.mk.inj (Option.some.inj h)
      rw [nameTail_append_of_ne_nil hafter]
    · rename_i hc
      rw [if_neg hc] at h
      cases h

theorem dropWhile_append_of_ne_nil {p : Char → Bool} {cs : List Char} (h : cs.dropWhile p ≠ [])
    (tail : List Char) :
    (cs ++ tail).takeWhile p = cs.takeWhile p ∧
      (cs ++ tail).dropWhile p = cs.dropWhile p ++ tail := by
  induction cs with
  | nil => exact absurd rfl h
  | cons c cs ih =>
    by_cases hc : p c = true
    · rw [List.dropWhile_cons_of_pos hc] at h
      simpa [hc] using ih h
    · simp [hc]

end Chars

namespace Rest

variable {r value inside after : Rest} {name : Span}

theorem quoted?_extend (h : r.quoted? = some (value, after)) (tail : List Char) :
    (r.extend tail).quoted? = some (value, after.extend tail) := by
  obtain ⟨pos, cs⟩ := r
  cases cs with
  | nil => cases h
  | cons q cs =>
    obtain ⟨⟨inner, rest⟩, hi, he⟩ := Option.map_eq_some_iff.1 h
    obtain ⟨rfl, rfl⟩ := Prod.mk.inj he
    simp only [extend, quoted?, List.cons_append, Chars.cut?_append hi, Option.map_some]

theorem group?_extend {opener closer : Char} (h : r.group? opener closer = some (inside, after))
    (tail : List Char) : (r.extend tail).group? opener closer = some (inside, after.extend tail) := by
  obtain ⟨pos, cs⟩ := r
  cases cs with
  | nil => cases h
  | cons c cs =>
    obtain ⟨⟨inner, rest⟩, hi, he⟩ := Option.map_eq_some_iff.1 h
    obtain ⟨rfl, rfl⟩ := Prod.mk.inj he
    obtain ⟨rfl, hcloses⟩ := Chars.closing_eq_some hi
    have hmore := hcloses.closing (rest ++ tail)
    simp only [extend, group?, List.cons_append, List.append_assoc, hmore, Option.map_some]

theorem name?_extend (h : r.name? false = some (name, after)) (hafter : after.chars ≠ [])
    (tail : List Char) : (r.extend tail).name? false = some (name, after.extend tail) := by
  obtain ⟨⟨cs, rest⟩, hcs, he⟩ := Option.map_eq_some_iff.1 h
  obtain ⟨rfl, rfl⟩ := Prod.mk.inj he
  simp only [name?, extend, Chars.name?_append_of_ne_nil hcs hafter, Option.map_some]

theorem skipBlanks_extend (h : r.skipBlanks.chars ≠ []) (tail : List Char) :
    (r.extend tail).skipBlanks = r.skipBlanks.extend tail := by
  obtain ⟨htake, hdrop⟩ := Chars.dropWhile_append_of_ne_nil h tail
  simp only [skipBlanks, extend, htake, hdrop]

theorem peek?_extend (h : r.chars ≠ []) (tail : List Char) :
    (r.extend tail).peek? = r.peek? := by
  obtain ⟨pos, cs⟩ := r
  cases cs with
  | nil => exact absurd rfl h
  | cons c cs => rfl

theorem upTo_extend (h : after.Tail r) (tail : List Char) :
    (r.extend tail).upTo (after.extend tail) = r.upTo after := by
  obtain ⟨cs, hcs, -⟩ := h
  have hmore : (r.extend tail).chars = cs ++ (after.extend tail).chars := by
    simp only [extend, hcs, List.append_assoc]
  rw [upTo_eq hcs, upTo_eq hmore]
  rfl

theorem ne_nil_of_peek? {c : Char} (h : r.peek? = some c) : r.chars ≠ [] := by
  intro hnil
  rw [peek?, hnil] at h
  cases h

theorem ne_nil_of_quote (h : r.peek?.any isQuote = true) : r.chars ≠ [] := by
  intro hnil
  rw [peek?, hnil] at h
  cases h

theorem drop_extend {n : Nat} (h : n ≤ r.chars.length) (tail : List Char) :
    (r.extend tail).drop n = (r.drop n).extend tail := by
  simp only [drop, extend, List.take_append_of_le_length h, List.drop_append_of_le_length h]

end Rest

end BuildExpr
