import BuildExpr.Proofs.Evaluation.Answers
import Mathlib.Algebra.Ring.Parity
import Mathlib.Data.List.Induction

/-!
# Escaping for patterns

An escaped text is made of a unit for each character: a backslash and the character, a backslash and
the letter of a control character, or the character alone (`Chars.patternEscapeChar_cases`). Since a
unit ends in two backslashes or in none, the backslashes before a unit come in pairs
(`Chars.even_endingBackslashes`), which tells the backslashes that escape from those that are
escaped. So every metacharacter of an escaped text is escaped
(`Chars.isPatternEscaped_patternEscape`), and taking the escapes away gives back the text
(`PatternFunctions.escape_inverted`).
-/

namespace BuildExpr

namespace Chars

/-- The characters with a meaning of their own in a pattern. -/
def metacharacters : List Char :=
  ['\\', '*', '+', '?', '|', '\x7b', '[', '(', ')', '^', '$', '.', '#', ' ']

/-- The control characters that are spelled with a letter, each with its letter. -/
def controlLetters : List (Char × Char) := [('\t', 't'), ('\n', 'n'), ('\r', 'r'), ('\x0c', 'f')]

/-- How many backslashes a text ends in. -/
def endingBackslashes (cs : List Char) : ℕ := (cs.reverse.takeWhile (· == '\\')).length

/-- The text ends in a backslash that escapes what stands behind it: one that is not escaped
itself. -/
def Escapes (cs : List Char) : Prop := Odd (endingBackslashes cs)

/-- A text without a control character and without a metacharacter that is not escaped, but for the
backslashes that escape. Nothing is escaped but metacharacters and the letters of control
characters. -/
structure IsPatternEscaped (cs : List Char) : Prop where
  control_not_mem : ∀ {control letter}, (control, letter) ∈ controlLetters → control ∉ cs
  escaped : ∀ {before c after}, cs = before ++ c :: after → c ∈ metacharacters →
    Escapes before ∨ (c = '\\' ∧ after ≠ [])
  needed : ∀ {before c after}, cs = before ++ c :: after → Escapes before →
    c ∈ metacharacters ∨ ∃ control, (control, c) ∈ controlLetters

variable {c letter : Char} {cs : List Char}

/-! ## The unit of a character -/

theorem patternEscapeChar_of_mem (h : c ∈ metacharacters) : patternEscapeChar c = ['\\', c] :=
  if_pos (List.contains_iff_mem.2 h)

theorem patternEscapeChar_of_control (h : (c, letter) ∈ controlLetters) :
    patternEscapeChar c = ['\\', letter] := by
  simp only [controlLetters, List.mem_cons, Prod.mk.injEq, List.not_mem_nil, or_false] at h
  rcases h with ⟨rfl, rfl⟩ | ⟨rfl, rfl⟩ | ⟨rfl, rfl⟩ | ⟨rfl, rfl⟩ <;> rfl

theorem patternEscapeChar_of_plain (h : c ∉ metacharacters)
    (hcontrol : ∀ letter, (c, letter) ∉ controlLetters) : patternEscapeChar c = [c] := by
  have hspecial : isPatternSpecial c = false := by
    rw [← Bool.not_eq_true, isPatternSpecial, List.contains_iff_mem]
    exact h
  simp only [controlLetters, List.mem_cons, Prod.mk.injEq, List.not_mem_nil, or_false, not_or,
    not_and] at hcontrol
  have ht : c ≠ '\t' := fun e => (hcontrol 't').1 e rfl
  have hn : c ≠ '\n' := fun e => (hcontrol 'n').2.1 e rfl
  have hr : c ≠ '\r' := fun e => (hcontrol 'r').2.2.1 e rfl
  have hf : c ≠ '\x0c' := fun e => (hcontrol 'f').2.2.2 e rfl
  simp only [patternEscapeChar, hspecial, beq_iff_eq, ht, hn, hr, hf, if_false, Bool.false_eq_true]

theorem patternEscapeChar_cases (c : Char) :
    (c ∈ metacharacters ∧ patternEscapeChar c = ['\\', c]) ∨
      (∃ letter, (c, letter) ∈ controlLetters ∧ patternEscapeChar c = ['\\', letter]) ∨
      (c ∉ metacharacters ∧ (∀ letter, (c, letter) ∉ controlLetters) ∧
        patternEscapeChar c = [c]) := by
  by_cases hmeta : c ∈ metacharacters
  · exact .inl ⟨hmeta, patternEscapeChar_of_mem hmeta⟩
  · by_cases hcontrol : ∃ letter, (c, letter) ∈ controlLetters
    · obtain ⟨letter, hletter⟩ := hcontrol
      exact .inr (.inl ⟨letter, hletter, patternEscapeChar_of_control hletter⟩)
    · rw [not_exists] at hcontrol
      exact .inr (.inr ⟨hmeta, hcontrol, patternEscapeChar_of_plain hmeta hcontrol⟩)

/-! ## Taking the escapes away -/

theorem patternUnescapeChar_of_mem (h : c ∈ metacharacters) : patternUnescapeChar c = c := by
  have hall : metacharacters.all (fun c => patternUnescapeChar c == c) = true := by decide
  exact beq_iff_eq.1 (List.all_eq_true.1 hall c h)

theorem patternUnescapeChar_of_control (h : (c, letter) ∈ controlLetters) :
    patternUnescapeChar letter = c := by
  have hall : ∀ pair ∈ controlLetters, patternUnescapeChar pair.2 = pair.1 := by decide
  exact hall _ h

theorem patternUnescape_cons_of_ne (h : c ≠ '\\') (cs : List Char) :
    patternUnescape (c :: cs) = (c :: ·) <$> patternUnescape cs := by
  rw [patternUnescape]
  · rintro rfl
    exact absurd rfl h
  · rintro _ _ rfl
    exact absurd rfl h

/-- The unit of a character is read in front of anything. -/
theorem patternUnescape_patternEscapeChar_append (c : Char) (cs : List Char) :
    patternUnescape (patternEscapeChar c ++ cs) = (c :: ·) <$> patternUnescape cs := by
  rcases patternEscapeChar_cases c with ⟨hc, he⟩ | ⟨letter, hc, he⟩ | ⟨hc, -, he⟩
  · rw [he, List.cons_append, List.singleton_append, patternUnescape,
      patternUnescapeChar_of_mem hc]
  · rw [he, List.cons_append, List.singleton_append, patternUnescape,
      patternUnescapeChar_of_control hc]
  · rw [he, List.singleton_append]
    exact patternUnescape_cons_of_ne (by rintro rfl; exact hc (by decide)) cs

/-- What was escaped is read back. -/
theorem patternUnescape_patternEscape (cs : List Char) :
    patternUnescape (patternEscape cs) = .ok cs := by
  induction cs with
  | nil => rfl
  | cons c cs ih =>
    rw [patternEscape, List.flatMap_cons, patternUnescape_patternEscapeChar_append,
      ← patternEscape, ih]
    rfl

/-! ## The backslashes before a unit -/

theorem endingBackslashes_concat_backslash (cs : List Char) :
    endingBackslashes (cs ++ ['\\']) = endingBackslashes cs + 1 := by
  simp [endingBackslashes]

theorem endingBackslashes_concat_of_ne (h : c ≠ '\\') (cs : List Char) :
    endingBackslashes (cs ++ [c]) = 0 := by
  simp [endingBackslashes, h]

/-- The backslashes that an escaped text ends in are pairs of one that escapes and one that is
escaped. -/
theorem even_endingBackslashes (cs : List Char) : Even (endingBackslashes (patternEscape cs)) := by
  induction cs using List.reverseRecOn with
  | nil => exact .zero
  | append_singleton cs c ih =>
    have hunit : patternEscape (cs ++ [c]) = patternEscape cs ++ patternEscapeChar c := by
      simp [patternEscape]
    have hpair (d : Char) : patternEscape cs ++ ['\\', d] = patternEscape cs ++ ['\\'] ++ [d] := by
      simp
    rw [hunit]
    by_cases hc : c = '\\'
    · rw [hc, patternEscapeChar_of_mem (by decide), hpair, endingBackslashes_concat_backslash,
        endingBackslashes_concat_backslash]
      exact ih.add (by decide : Even 2)
    · rcases patternEscapeChar_cases c with ⟨-, he⟩ | ⟨letter, hletter, he⟩ | ⟨-, -, he⟩
      · rw [he, hpair, endingBackslashes_concat_of_ne hc]
        exact .zero
      · have hne : letter ≠ '\\' := by
          have hall : ∀ pair ∈ controlLetters, pair.2 ≠ '\\' := by decide
          exact hall _ hletter
        rw [he, hpair, endingBackslashes_concat_of_ne hne]
        exact .zero
      · rw [he, endingBackslashes_concat_of_ne hc]
        exact .zero

theorem not_escapes_patternEscape (cs : List Char) : ¬ Escapes (patternEscape cs) :=
  Nat.not_odd_iff_even.2 (even_endingBackslashes cs)

theorem escapes_patternEscape_concat (cs : List Char) : Escapes (patternEscape cs ++ ['\\']) := by
  rw [Escapes, endingBackslashes_concat_backslash]
  exact (even_endingBackslashes cs).add_one

/-! ## The characters of an escaped text -/

/-- A character of an escaped text stands in the unit of a character of the text. -/
theorem exists_unit {before after : List Char} (h : patternEscape cs = before ++ c :: after) :
    ∃ first d u v, before = patternEscape first ++ u ∧ patternEscapeChar d = u ++ c :: v ∧
      v <+: after := by
  induction cs generalizing before with
  | nil => simp [patternEscape] at h
  | cons d ds ih =>
    have hfirst (first : List Char) :
        patternEscape (d :: first) = patternEscapeChar d ++ patternEscape first := rfl
    rw [hfirst] at h
    rcases List.append_eq_append_iff.1 h with ⟨more, rfl, hmore⟩ | ⟨unit, hunit, hafter⟩
    · obtain ⟨first, e, u, v, rfl, hsplit, hv⟩ := ih hmore
      exact ⟨d :: first, e, u, v, by rw [hfirst, List.append_assoc], hsplit, hv⟩
    · cases unit with
      | nil =>
        -- The unit ends right before the character, which begins the next one.
        have hds : patternEscape ds = [] ++ c :: after := hafter.symm
        obtain ⟨first, e, u, v, hnil, hsplit, hv⟩ := ih hds
        refine ⟨d :: first, e, u, v, ?_, hsplit, hv⟩
        rw [hfirst, List.append_assoc, ← hnil, hunit, List.append_nil, List.append_nil]
      | cons b unit =>
        obtain ⟨rfl, rfl⟩ := List.cons.inj hafter
        exact ⟨[], d, before, unit, rfl, hunit, List.prefix_append _ _⟩

/-- A character of an escaped text is a backslash that escapes, or it is escaped, or it stands for
itself. -/
theorem patternEscape_cases {before after : List Char}
    (h : patternEscape cs = before ++ c :: after) :
    (¬ Escapes before ∧ c = '\\' ∧ after ≠ []) ∨
      (Escapes before ∧ (c ∈ metacharacters ∨ ∃ control, (control, c) ∈ controlLetters)) ∨
      (¬ Escapes before ∧ c ∉ metacharacters ∧ ∀ letter, (c, letter) ∉ controlLetters) := by
  obtain ⟨first, d, u, v, rfl, hsplit, hv⟩ := exists_unit h
  have hpair {e : Char} (he : ['\\', e] = u ++ c :: v) :
      (u = [] ∧ c = '\\' ∧ v = [e]) ∨ (u = ['\\'] ∧ c = e) := by
    rcases u with _ | ⟨a, _ | ⟨b, u⟩⟩
    · obtain ⟨rfl, rfl⟩ := List.cons.inj he
      exact .inl ⟨rfl, rfl, rfl⟩
    · simp only [List.cons_append, List.nil_append, List.cons.injEq] at he
      exact .inr ⟨by rw [← he.1], he.2.1.symm⟩
    · simp at he
  have hescaped {e : Char} (he : ['\\', e] = u ++ c :: v)
      (hmem : e ∈ metacharacters ∨ ∃ control, (control, e) ∈ controlLetters) :
      (¬ Escapes (patternEscape first ++ u) ∧ c = '\\' ∧ after ≠ []) ∨
        (Escapes (patternEscape first ++ u) ∧
          (c ∈ metacharacters ∨ ∃ control, (control, c) ∈ controlLetters)) := by
    rcases hpair he with ⟨rfl, rfl, rfl⟩ | ⟨rfl, rfl⟩
    · refine .inl ⟨?_, rfl, ?_⟩
      · rw [List.append_nil]
        exact not_escapes_patternEscape first
      · rintro rfl
        simp at hv
    · exact .inr ⟨escapes_patternEscape_concat first, hmem⟩
  rcases patternEscapeChar_cases d with ⟨hd, he⟩ | ⟨letter, hletter, he⟩ | ⟨hd, hcontrol, he⟩
  · exact (hescaped (he ▸ hsplit) (.inl hd)).imp_right .inl
  · exact (hescaped (he ▸ hsplit) (.inr ⟨d, hletter⟩)).imp_right .inl
  · rw [he, List.singleton_eq_append_iff] at hsplit
    rcases hsplit with ⟨rfl, hc⟩ | ⟨-, hnil⟩
    · obtain ⟨rfl, -⟩ := List.cons.inj hc
      refine .inr (.inr ⟨?_, hd, hcontrol⟩)
      rw [List.append_nil]
      exact not_escapes_patternEscape first
    · cases hnil

theorem not_control_of_escaped
    (h : c ∈ metacharacters ∨ ∃ control, (control, c) ∈ controlLetters) (letter : Char) :
    (c, letter) ∉ controlLetters := by
  intro hc
  rcases h with h | ⟨control, hcontrol⟩
  · have hall : ∀ pair ∈ controlLetters, pair.1 ∉ metacharacters := by decide
    exact hall _ hc h
  · have hall : ∀ first ∈ controlLetters, ∀ pair ∈ controlLetters, first.2 ≠ pair.1 := by decide
    exact hall _ hcontrol _ hc rfl

/-- In an escaped text every metacharacter is escaped and every control character spelled. -/
theorem isPatternEscaped_patternEscape (cs : List Char) : IsPatternEscaped (patternEscape cs) where
  control_not_mem hletter hmem := by
    obtain ⟨before, after, h⟩ := List.append_of_mem hmem
    rcases patternEscape_cases h with ⟨-, rfl, -⟩ | ⟨-, hescaped⟩ | ⟨-, -, hcontrol⟩
    · exact not_control_of_escaped (.inl (by decide)) _ hletter
    · exact not_control_of_escaped hescaped _ hletter
    · exact hcontrol _ hletter
  escaped h hc := by
    rcases patternEscape_cases h with ⟨-, hmark⟩ | ⟨hescapes, -⟩ | ⟨-, hplain, -⟩
    · exact .inr hmark
    · exact .inl hescapes
    · exact absurd hc hplain
  needed h hescapes := by
    rcases patternEscape_cases h with ⟨hnot, -⟩ | ⟨-, hescaped⟩ | ⟨hnot, -⟩
    · exact absurd hescapes hnot
    · exact hescaped
    · exact absurd hescapes hnot

end Chars

namespace PatternFunctions

open Arguments FunctionTable

theorem answers_escape (s : String) :
    Answers "System.Text.RegularExpressions.Regex" "Escape" [.text s]
      (.ok (.text (String.ofList (Chars.patternEscape s.toList)))) :=
  answers_of_resolve (resolveStatic_of_find
    (by rfl : _ = "system.text.regularexpressions.regex") (by rfl : _ = "escape") rfl rfl)

theorem answers_unescape (s : String) :
    Answers "System.Text.RegularExpressions.Regex" "Unescape" [.text s] (unescape [.text s]) :=
  answers_of_resolve (resolveStatic_of_find
    (by rfl : _ = "system.text.regularexpressions.regex") (by rfl : _ = "unescape") rfl rfl)

/-- `Unescape` undoes `Escape` for every text, and what `Escape` gives has no control character that
it spells with a letter and no metacharacter that is not escaped. -/
theorem escape_inverted (s : String) :
    ∃ escaped,
      Answers "System.Text.RegularExpressions.Regex" "Escape" [.text s] (.ok (.text escaped)) ∧
      Answers "System.Text.RegularExpressions.Regex" "Unescape" [.text escaped] (.ok (.text s)) ∧
      Chars.IsPatternEscaped escaped.toList := by
  refine ⟨_, answers_escape s, ?_, ?_⟩
  · have hchars : chars [.text (String.ofList (Chars.patternEscape s.toList))] 0 =
        Chars.patternEscape s.toList := String.toList_ofList
    have hread : unescape [.text (String.ofList (Chars.patternEscape s.toList))] =
        .ok (.text s) := by
      rw [unescape, hchars, Chars.patternUnescape_patternEscape]
      exact congrArg (fun t => Except.ok (Value.text t)) String.ofList_toList
    exact hread ▸ answers_unescape _
  · rw [String.toList_ofList]
    exact Chars.isPatternEscaped_patternEscape s.toList

end PatternFunctions

end BuildExpr
