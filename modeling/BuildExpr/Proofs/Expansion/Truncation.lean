import BuildExpr.Proofs.Expansion.Typed
import BuildExpr.Proofs.Expression.Calls

/-!
# Shortened values

A value that is too long is cut in escaped form, and what is left of it is read back afterwards. An
escape is read back from its own three characters (`unescape_append_of_head`), so the cut only
matters where it falls into one (`CutEscape`): the characters in front of it are then no longer read
as what they stood for. `expand_named` says what a reference to a property expands to, and
`expand_shortened_iff` when that is its value or the beginning of it.
-/

namespace BuildExpr

namespace Chars

/-! ## Escapes across a cut -/

/-- A `%` stands for itself unless two hexadecimal digits follow it. -/
theorem unescape_percent (cs : List Char) :
    (∃ high low after, cs = high :: low :: after ∧ (hexValue? high).isSome ∧
      (hexValue? low).isSome) ∨ unescape ('%' :: cs) = '%' :: unescape cs := by
  match cs with
  | [] => exact .inr rfl
  | [_] => exact .inr (by simp [unescape])
  | high :: low :: after =>
    cases hhigh : hexValue? high with
    | none => exact .inr (by simp [unescape, hhigh])
    | some h =>
      cases hlow : hexValue? low with
      | none => exact .inr (by simp [unescape, hlow])
      | some l => exact .inl ⟨high, low, after, rfl, by simp [hhigh], by simp [hlow]⟩

/-- What stands in front of a character that no escape holds is read back by itself. -/
theorem unescape_append_of_head {c : Char} (hc : hexValue? c = none) (before after : List Char) :
    unescape (before ++ c :: after) = unescape before ++ unescape (c :: after) := by
  induction before using unescape.induct with
  | case1 high low cs h l hhigh hlow ih =>
    simp only [List.cons_append, unescape, hhigh, hlow, ih]
  | case2 high low cs hdigits ih =>
    rw [List.cons_append, List.cons_append] at ih
    rw [List.cons_append, List.cons_append, List.cons_append, unescape, unescape]
    split
    · rename_i h l hhigh hlow
      exact absurd hlow (hdigits h l hhigh)
    · rw [ih, List.cons_append]
  | case3 d cs hother ih =>
    by_cases hd : d = '%'
    · subst hd
      have hfirst : unescape ('%' :: cs) = '%' :: unescape cs := by
        refine (unescape_percent cs).resolve_left ?_
        rintro ⟨high, low, rest, hcs, -⟩
        exact hother high low rest rfl hcs
      rcases unescape_percent (cs ++ c :: after) with ⟨high, low, rest, hcs, digits⟩ | heq
      · rcases cs with _ | ⟨high, _ | ⟨low, rest⟩⟩
        · obtain ⟨rfl, -⟩ := List.cons.inj hcs
          rw [hc] at digits
          cases digits.1
        · obtain ⟨rfl, -⟩ := List.cons.inj (List.cons.inj hcs).2
          rw [hc] at digits
          cases digits.2
        · exact absurd rfl (hother high low rest rfl)
      · rw [List.cons_append, heq, ih, hfirst, List.cons_append]
    · rw [List.cons_append, unescape_cons hd, unescape_cons hd, ih, List.cons_append]
  | case4 => rfl

/-- An escape that stands across the end of the first `n` characters of a text: `kept` is the part
of it among them, and `rest` is the text from the escape on. -/
inductive CutEscape (n : Nat) (cs : List Char) : (kept rest : List Char) → Prop
  | percent {before after : List Char} {high low : Char}
      (text : cs = before ++ '%' :: high :: low :: after)
      (digits : (hexValue? high).isSome ∧ (hexValue? low).isSome)
      (place : n = before.length + 1) : CutEscape n cs ['%'] ('%' :: high :: low :: after)
  | digit {before after : List Char} {high low : Char}
      (text : cs = before ++ '%' :: high :: low :: after)
      (digits : (hexValue? high).isSome ∧ (hexValue? low).isSome)
      (place : n = before.length + 2) : CutEscape n cs ['%', high] ('%' :: high :: low :: after)

namespace CutEscape

variable {n : Nat} {cs kept rest : List Char}

/-- Characters in front move the cut. -/
theorem append (front : List Char) (h : CutEscape n cs kept rest) :
    CutEscape (front.length + n) (front ++ cs) kept rest := by
  cases h with
  | @percent before after high low text digits place =>
    have htext : front ++ cs = front ++ before ++ '%' :: high :: low :: after := by
      rw [text, List.append_assoc]
    refine .percent htext digits ?_
    rw [place, List.length_append, Nat.add_assoc]
  | @digit before after high low text digits place =>
    have htext : front ++ cs = front ++ before ++ '%' :: high :: low :: after := by
      rw [text, List.append_assoc]
    refine .digit htext digits ?_
    rw [place, List.length_append, Nat.add_assoc]

/-- The text in front of the escape, and how the characters of the escape are read. -/
theorem exists_before (h : CutEscape n cs kept rest) :
    ∃ before, cs = before ++ rest ∧ cs.take n = before ++ kept ∧
      (∃ more, rest = '%' :: more) ∧ (∃ more, kept = '%' :: more) ∧ unescape kept = kept := by
  cases h with
  | @percent before after high low text digits place =>
    refine ⟨before, text, ?_, ⟨_, rfl⟩, ⟨_, rfl⟩, rfl⟩
    rw [text, place, List.take_length_add_append, List.take_succ_cons, List.take_zero]
  | @digit before after high low text digits place =>
    refine ⟨before, text, ?_, ⟨_, rfl⟩, ⟨_, rfl⟩, ?_⟩
    · rw [text, place, List.take_length_add_append, List.take_succ_cons, List.take_succ_cons,
        List.take_zero]
    · have hhigh : high ≠ '%' := by
        rintro rfl
        exact absurd digits.1 (by decide)
      have hkept : unescape ['%', high] = '%' :: unescape [high] := by simp [unescape]
      rw [hkept, unescape_cons hhigh, unescape]

/-- The escape begins at one of the last two characters in front of the cut. -/
theorem exists_percent (h : CutEscape n cs kept rest) :
    ∃ i, i < n ∧ n ≤ i + 2 ∧ cs[i]? = some '%' := by
  cases h with
  | @percent before after high low text digits place =>
    exact ⟨before.length, by omega, by omega, by simp [text]⟩
  | @digit before after high low text digits place =>
    exact ⟨before.length, by omega, by omega, by simp [text]⟩

/-- The first characters are read back as the beginning of the text exactly when the part of the
escape among them stands for itself also in the whole text. -/
theorem prefix_iff (h : CutEscape n cs kept rest) :
    unescape (cs.take n) <+: unescape cs ↔ kept <+: unescape rest := by
  have hpercent : hexValue? '%' = none := by decide
  obtain ⟨before, hcs, htake, ⟨more, hrest⟩, ⟨more', hkept⟩, hself⟩ := h.exists_before
  have hwhole : unescape cs = unescape before ++ unescape rest := by
    rw [hcs, hrest, unescape_append_of_head hpercent]
  have hfirst : unescape (cs.take n) = unescape before ++ kept := by
    rw [htake, hkept, unescape_append_of_head hpercent, ← hkept, hself]
  rw [hwhole, hfirst, List.prefix_append_right_inj]

end CutEscape

/-- Two parts of a text are read back one by one unless an escape stands across the place between
them. -/
theorem exists_cutEscape {first second : List Char}
    (h : unescape (first ++ second) ≠ unescape first ++ unescape second) :
    ∃ kept rest, CutEscape first.length (first ++ second) kept rest := by
  have hlift (front : List Char) {more : List Char}
      (hmore : ∃ kept rest, CutEscape more.length (more ++ second) kept rest) :
      ∃ kept rest, CutEscape (front ++ more).length (front ++ more ++ second) kept rest := by
    obtain ⟨kept, rest, hcut⟩ := hmore
    refine ⟨kept, rest, ?_⟩
    rw [List.length_append, List.append_assoc]
    exact hcut.append front
  induction first using unescape.induct with
  | case1 high low cs hv lv hhigh hlow ih =>
    refine hlift ['%', high, low] (ih fun heq => h ?_)
    simp only [List.cons_append, unescape, hhigh, hlow, heq]
  | case2 high low cs hdigits ih =>
    refine hlift ['%'] (ih fun heq => h ?_)
    rw [List.cons_append, List.cons_append] at heq
    rw [List.cons_append, List.cons_append, List.cons_append, unescape, unescape]
    split
    · rename_i hv lv hhigh hlow
      exact absurd hlow (hdigits hv lv hhigh)
    · rw [heq, List.cons_append]
  | case3 c cs hother ih =>
    by_cases hc : c = '%'
    · subst hc
      rcases cs with _ | ⟨high, _ | ⟨low, rest⟩⟩
      · rcases unescape_percent second with ⟨high, low, after, rfl, digits⟩ | heq
        · exact ⟨_, _, @CutEscape.percent _ _ [] _ _ _ rfl digits rfl⟩
        · exact absurd heq h
      · rcases unescape_percent (high :: second) with ⟨_, low, after, hsecond, digits⟩ | heq
        · obtain ⟨rfl, rfl⟩ := List.cons.inj hsecond
          exact ⟨_, _, @CutEscape.digit _ _ [] _ _ _ rfl digits rfl⟩
        · refine hlift ['%'] (ih fun hmore => h ?_)
          have hfirst : unescape ['%', high] = '%' :: unescape [high] := by simp [unescape]
          calc unescape (['%', high] ++ second)
            _ = '%' :: unescape ([high] ++ second) := heq
            _ = unescape ['%', high] ++ unescape second := by rw [hmore, hfirst, List.cons_append]
      · exact absurd rfl (hother high low rest rfl)
    · refine hlift [c] (ih fun heq => h ?_)
      rw [List.cons_append, unescape_cons hc, unescape_cons hc, heq, List.cons_append]
  | case4 => exact absurd rfl h

/-- The first characters of a text are read back as the beginning of the text exactly when what
they hold of an escape across their end stands for itself also in the whole text. -/
theorem unescape_take_prefix_iff (n : Nat) (cs : List Char) :
    unescape (cs.take n) <+: unescape cs ↔
      ∀ kept rest, CutEscape n cs kept rest → kept <+: unescape rest := by
  refine ⟨fun h kept rest hcut => hcut.prefix_iff.1 h, fun h => ?_⟩
  by_cases hn : n ≤ cs.length
  · by_cases hparts :
        unescape (cs.take n ++ cs.drop n) = unescape (cs.take n) ++ unescape (cs.drop n)
    · rw [List.take_append_drop] at hparts
      exact ⟨_, hparts.symm⟩
    · obtain ⟨kept, rest, hcut⟩ := exists_cutEscape hparts
      rw [List.take_append_drop, List.length_take_of_le hn] at hcut
      exact hcut.prefix_iff.2 (h kept rest hcut)
  · have hall : cs.take n = cs := List.take_of_length_le (by omega)
    simp only [hall, List.prefix_rfl]

end Chars

/-! ## Shortened values -/

namespace Setting

/-- The characters that are kept of a value that is too long. -/
def keptLength : Nat := valueLimit - ellipsis.length

example : keptLength = 1021 := by decide

variable {s : Setting} {value : String}

theorem shownValue_of_long (hs : s.options.truncate = true) (h : valueLimit < value.length) :
    s.shownValue value = String.ofList (value.toList.take keptLength) ++ ellipsis := by
  rw [shownValue, hs, Bool.true_and, if_pos (decide_eq_true h), keptLength]

theorem shownValue_of_short (h : value.length ≤ valueLimit) : s.shownValue value = value := by
  rw [shownValue, decide_eq_false (Nat.not_lt.2 h), Bool.and_false, if_neg Bool.false_ne_true]

/-- The mark at the end of a shortened value is read back as it is. -/
theorem unescape_append_ellipsis (cs : List Char) :
    Text.unescape (String.ofList cs ++ ellipsis) =
      String.ofList (Chars.unescape cs) ++ ellipsis := by
  have hmark : ellipsis.toList = ['.', '.', '.'] := rfl
  have hback : Chars.unescape ['.', '.', '.'] = ['.', '.', '.'] := rfl
  rw [Text.unescape, String.toList_append, String.toList_ofList, hmark,
    Chars.unescape_append_of_head (by decide), hback, String.ofList_append, ← hmark,
    String.ofList_toList]

/-- What is shown of a value, read back, is the value or the beginning of the value with the mark
behind it exactly when the value is short or the cut changes no escape. -/
theorem unescape_shownValue_iff (hs : s.options.truncate = true) :
    (Text.unescape (s.shownValue value) = Text.unescape value ∨
      ∃ p : String, p.toList <+: (Text.unescape value).toList ∧
        Text.unescape (s.shownValue value) = p ++ ellipsis) ↔
      value.length ≤ valueLimit ∨
        ∀ kept rest, Chars.CutEscape keptLength value.toList kept rest →
          kept <+: Chars.unescape rest := by
  by_cases hshort : value.length ≤ valueLimit
  · rw [shownValue_of_short hshort]
    exact iff_of_true (.inl rfl) (.inl hshort)
  · have hplain : (Text.unescape value).toList = Chars.unescape value.toList :=
      String.toList_ofList
    rw [or_iff_right hshort, ← Chars.unescape_take_prefix_iff,
      shownValue_of_long hs (Nat.not_le.1 hshort), unescape_append_ellipsis, hplain]
    constructor
    · rintro (heq | ⟨p, hp, heq⟩)
      · have hchars := congrArg String.toList heq
        rw [String.toList_append, String.toList_ofList, hplain] at hchars
        exact ⟨_, hchars⟩
      · rw [String.append_left_inj] at heq
        rw [← heq, String.toList_ofList] at hp
        exact hp
    · exact fun h => .inr ⟨_, by rwa [String.toList_ofList], rfl⟩

end Setting

/-! ## References to properties -/

namespace Expander

open Eval

variable (x : Expander) {options : Options} {lookup : Lookup} {name value : String}

/-- A reference to a property expands to what is shown of its value. -/
theorem expandEscaped_named (hproperties : options.properties = true) (hname : IsPropertyName name)
    (hvalue : lookup.property? name = some value) (w : World) :
    (x.expandEscaped ("$(" ++ name ++ ")") options lookup).result w =
      (.ok ((x.setting options lookup w).shownValue value), w) := by
  have hproperty : (x.setting options lookup w).property name = value := by
    rw [Setting.property, hname.filled, if_neg Bool.false_ne_true]
    exact congrArg (·.getD "") hvalue
  refine result_expandEscaped (hname.parse hproperties) ?_
  rw [evalExpression_of_singleProperty rfl, evalProperty, hproperty]
  rfl

theorem expand_named (hproperties : options.properties = true) (hname : IsPropertyName name)
    (hvalue : lookup.property? name = some value) (w : World) :
    (x.expand ("$(" ++ name ++ ")") options lookup).result w =
      (.ok (Text.unescape ((x.setting options lookup w).shownValue value)), w) :=
  result_bind_eq_ok.2 ⟨_, _, x.expandEscaped_named hproperties hname hvalue w, rfl⟩

end Expander

/-- Where long values are shortened, a reference to a property expands to its whole value, or to the
beginning of the value with the mark behind it, exactly when the value is short enough or what is
kept of an escape at the cut stands for itself also in the whole value. -/
theorem expand_shortened_iff (x : Expander) {options : Options} {lookup : Lookup}
    {name value : String} (hproperties : options.properties = true)
    (htruncate : options.truncate = true) (hname : IsPropertyName name)
    (hvalue : lookup.property? name = some value) (w : World) :
    ∃ out, (x.expand ("$(" ++ name ++ ")") options lookup).result w = (.ok out, w) ∧
      ((out = Text.unescape value ∨
        ∃ p : String, p.toList <+: (Text.unescape value).toList ∧ out = p ++ Setting.ellipsis) ↔
        value.length ≤ Setting.valueLimit ∨
          ∀ kept rest, Chars.CutEscape Setting.keptLength value.toList kept rest →
            kept <+: Chars.unescape rest) :=
  ⟨_, x.expand_named hproperties hname hvalue w,
    Setting.unescape_shownValue_iff (s := x.setting options lookup w) htruncate⟩

/-- A long value with an escaped separator behind `n` other characters. -/
def separatedValue (n : Nat) : String :=
  String.ofList (List.replicate n 'a' ++ '%' :: '3' :: 'b' :: List.replicate 100 'b')

theorem length_separatedValue (n : Nat) : (separatedValue n).length = n + 103 := by
  rw [separatedValue, String.length_ofList, List.length_append, List.length_replicate]
  rfl

/-- A lookup with one property. -/
def lookupOf (value : String) : Lookup := { scopes := [.ofDocument [("A", value)] []] }

theorem property?_lookupOf (value : String) : (lookupOf value).property? "A" = some value := rfl

/-- The options that ask for shortened properties. -/
def shortenedProperties : Options := { properties := true, truncate := true }

theorem isPropertyName_letter : IsPropertyName "A" where
  closes := Chars.closes_of_plain (List.forall_mem_singleton.2 (by decide))
  unmarked := by decide +kernel
  memberless := by decide
  pathless := by decide
  filled := by decide +kernel

theorem expand_shortened_iff_of_escape :
    ∃ out, (({} : Expander).expand "$(A)" shortenedProperties
        (lookupOf (separatedValue 1018))).result .bare = (.ok out, .bare) ∧
      (out = Text.unescape (separatedValue 1018) ∨
        ∃ p : String, p.toList <+: (Text.unescape (separatedValue 1018)).toList ∧
          out = p ++ "...") := by
  have hproperties : shortenedProperties.properties = true := rfl
  obtain ⟨out, hout, hiff⟩ := expand_shortened_iff {} hproperties rfl isPropertyName_letter
    (property?_lookupOf (separatedValue 1018)) .bare
  refine ⟨out, hout, hiff.2 (.inr fun kept rest hcut => ?_)⟩
  obtain ⟨i, hlt, hle, hpercent⟩ := hcut.exists_percent
  have hlength : Setting.keptLength = 1021 := rfl
  rw [separatedValue, String.toList_ofList] at hpercent
  obtain rfl | rfl : i = 1019 ∨ i = 1020 := by omega
  · exact absurd hpercent (by decide +kernel)
  · exact absurd hpercent (by decide +kernel)

/-- Of an escape that the cut goes through only the `%` is left. -/
theorem exists_expand_not_prefix :
    ∃ (x : Expander) (lookup : Lookup) (value : String), lookup.property? "A" = some value ∧
      ∃ out, (x.expand "$(A)" shortenedProperties lookup).result .bare = (.ok out, .bare) ∧
        ¬(out = Text.unescape value ∨
          ∃ p : String, p.toList <+: (Text.unescape value).toList ∧ out = p ++ "...") := by
  refine ⟨{}, _, separatedValue 1020, property?_lookupOf _, _,
    Expander.expand_named {} rfl isPropertyName_letter (property?_lookupOf _) .bare, ?_⟩
  intro hkept
  have hlong : ¬(separatedValue 1020).length ≤ Setting.valueLimit := by
    rw [length_separatedValue]
    decide
  have hcut : Chars.CutEscape Setting.keptLength (separatedValue 1020).toList ['%']
      ('%' :: '3' :: 'b' :: List.replicate 100 'b') :=
    .percent String.toList_ofList (by decide) (by rw [List.length_replicate]; rfl)
  have hseparator (more : List Char) :
      Chars.unescape ('%' :: '3' :: 'b' :: more) = ';' :: Chars.unescape more := rfl
  have hprefix := ((Setting.unescape_shownValue_iff rfl).1 hkept).resolve_left hlong _ _ hcut
  rw [hseparator, List.cons_prefix_cons] at hprefix
  exact absurd hprefix.1 (by decide)

end BuildExpr
