import BuildExpr.Proofs.Expansion.Escaped
import BuildExpr.Proofs.Text.Escaping
import Mathlib.Data.List.Forall2

/-!
# Typed outcomes

Expanding a text to a typed outcome and expanding it to escaped text are two evaluations of the same
tree: a lone property reference keeps the type of its value in the first. They fail together, and
otherwise the text is the escaped form of the outcome (`expandEscaped_eq_map`). The escaped form of a
value reads back as the plain text of the value, the separators of nested arrays included
(`unescape_escaped`), so that what an outcome passes to a function is displayed as the expanded text.
-/

namespace BuildExpr

/-! ## Escaped values -/

namespace Chars

/-- Whether a text in escaped form reads back as a plain text whatever follows it. -/
def ReadsBack (escaped plain : List Char) : Prop :=
  ∀ rest, unescape (escaped ++ rest) = plain ++ unescape rest

theorem ReadsBack.nil : ReadsBack [] [] := fun _ => rfl

theorem ReadsBack.escape (cs : List Char) : ReadsBack (escape cs) cs := unescape_escape_append cs

theorem ReadsBack.unescape_eq {escaped plain : List Char} (h : ReadsBack escaped plain) :
    unescape escaped = plain := by
  simpa [unescape] using h []

/-- Texts with a separator between them that stands for itself. -/
theorem ReadsBack.join {sep : Char} (hsep : sep ≠ '%') {escaped plain : List (List Char)}
    (h : List.Forall₂ ReadsBack escaped plain) :
    ReadsBack (join [sep] escaped) (join [sep] plain) := by
  induction h with
  | nil => exact .nil
  | @cons e p escaped plain hfirst hmore ih =>
    cases hmore with
    | nil => exact hfirst
    | cons hnext hrest =>
      intro rest
      have ih := ih rest
      simp only [Chars.join, List.append_assoc, List.cons_append, List.nil_append] at ih ⊢
      rw [hfirst, unescape_cons hsep, ih]

end Chars

namespace Value

mutual

/-- The escaped form of a value reads back as its plain text. -/
theorem readsBack_escaped :
    ∀ v : Value, Chars.ReadsBack v.escaped.toList v.display.toList
  | .array elements => by
    simp only [escaped, display, Text.join, String.toList_ofList]
    exact .join (show ';' ≠ '%' by decide) (readsBack_escapedAll elements)
  | .null | .text _ | .char _ | .bool _ | .int _ | .double _ | .version _ | .dateTime _
  | .timeSpan _ => by
    rw [escaped, Text.escape, String.toList_ofList]
    · exact .escape _
    · simp

theorem readsBack_escapedAll :
    ∀ vs : List Value, List.Forall₂ Chars.ReadsBack ((escapedAll vs).map String.toList)
      ((displayAll vs).map String.toList)
  | [] => .nil
  | v :: vs => .cons (readsBack_escaped v) (readsBack_escapedAll vs)

end

theorem unescape_escaped (v : Value) : Text.unescape v.escaped = v.display := by
  rw [Text.unescape, (readsBack_escaped v).unescape_eq, String.ofList_toList]

end Value

/-- What an outcome passes to a function is displayed as its escaped form reads. -/
theorem Outcome.display_argument (o : Outcome) : o.argument.display = Text.unescape o.escaped := by
  cases o with
  | text s => rfl
  | value v => exact v.unescape_escaped.symm

/-! ## The two evaluations -/

namespace Eval

theorem result_map {α β : Type} (g : α → β) (f : Eval α) (w : World) :
    result (g <$> f) w = ((f.result w).1.map g, (f.result w).2) := by
  rw [map_eq_pure_bind, result_bind]
  rcases f.result w with ⟨d | a, w'⟩ <;> rfl

end Eval

section Outcome

variable {s : Setting}

theorem shownValue_of_not_truncate (hs : s.options.truncate = false) (value : String) :
    s.shownValue value = value := by
  simp [Setting.shownValue, hs]

/-- A lone property reference is the text of its outcome, shortened where that is asked for. -/
theorem evalExpression_of_singleProperty {e : Expression} {p : Property}
    (hp : e.singleProperty? = some p) (item : Option Item) :
    evalExpression s item e = (fun o => s.shownValue o.escaped) <$> evalProperty s item p := by
  obtain ⟨span, segments⟩ := e
  obtain rfl : segments = [.property p] := Expression.eq_of_singleProperty? hp
  simp only [evalExpression, evalSegments, evalSegment, bind_assoc, pure_bind, String.append_empty,
    map_eq_pure_bind]

/-- The text of an expression is the escaped form of its outcome. -/
theorem evalExpression_eq_map (hs : s.options.truncate = false) (e : Expression) :
    evalExpression s none e = Outcome.escaped <$> evalOutcome s e := by
  rw [evalOutcome]
  cases h : e.singleProperty? with
  | none =>
    simp only [map_bind, map_pure, Outcome.escaped, bind_pure]
  | some ref =>
    simp only [evalExpression_of_singleProperty h, shownValue_of_not_truncate hs]

end Outcome

namespace Expander

open Eval

variable (x : Expander) {options : Options} (lookup : Lookup)

/-- The text that a text expands to is the escaped form of its typed outcome, and there is none of
either where the other fails. -/
theorem expandEscaped_eq_map (h : options.truncate = false) (text : String) (w : World) :
    (x.expandEscaped text options lookup).result w =
      (Outcome.escaped <$> x.expandTyped text options lookup).result w := by
  rw [expandEscaped, expandTyped]
  cases hany : options.expandsAnything with
  | false => rfl
  | true =>
    simp only [Bool.not_true, Bool.false_eq_true, if_false]
    cases he : Expression.parse options text with
    | error m =>
      rw [parse, he]
      rfl
    | ok e =>
      have hs : (x.setting options lookup w).options.truncate = false := h
      rw [x.parse_of_ok options he, pure_bind, pure_bind, result_map, result_eval]
      have hvalue := congrArg (Eval.result · w) (evalExpression_eq_map hs e)
      simp only [result_map] at hvalue
      split
      · rename_i hliteral
        rw [evalExpression_of_isLiteral he hliteral] at hvalue
        rcases hout : (evalOutcome (x.setting options lookup w) e).result w with ⟨d | o, w'⟩
        · rw [hout] at hvalue
          cases hvalue
        · rw [hout] at hvalue
          exact hvalue
      · rw [result_eval, hvalue]
        rcases (evalOutcome (x.setting options lookup w) e).result w with ⟨d | o, w'⟩ <;> rfl

/-- Typed and textual expansion agree when nothing is shortened: they fail with the same report, or
the escaped form of the typed outcome is the escaped text and what it passes to a function is
displayed as the expanded text. -/
theorem expandTyped_agrees (h : options.truncate = false) (text : String) (w : World) :
    (∃ d w', (x.expandTyped text options lookup).result w = (.error d, w') ∧
        (x.expandEscaped text options lookup).result w = (.error d, w')) ∨
      ∃ o w', (x.expandTyped text options lookup).result w = (.ok o, w') ∧
        (x.expandEscaped text options lookup).result w = (.ok o.escaped, w') ∧
        (x.expand text options lookup).result w = (.ok o.argument.display, w') := by
  have hescaped := x.expandEscaped_eq_map lookup h text w
  rw [result_map] at hescaped
  rcases htyped : (x.expandTyped text options lookup).result w with ⟨d | o, w'⟩
  · rw [htyped] at hescaped
    exact .inl ⟨d, w', rfl, hescaped⟩
  · rw [htyped] at hescaped
    refine .inr ⟨o, w', rfl, hescaped, ?_⟩
    rw [o.display_argument]
    exact result_bind_eq_ok.2 ⟨_, _, hescaped, rfl⟩

theorem expandTyped_agrees_of_array :
    ∃ o w, (({} : Expander).expandTyped "$(A.Split(' '))" .all
          { scopes := [.ofDocument [("A", "x%3by z")] []] }).result .bare = (.ok o, w) ∧
        o.escaped = "x%3by;z" ∧
        (({} : Expander).expandEscaped "$(A.Split(' '))" .all
          { scopes := [.ofDocument [("A", "x%3by z")] []] }).result .bare = (.ok o.escaped, w) ∧
        (({} : Expander).expand "$(A.Split(' '))" .all
          { scopes := [.ofDocument [("A", "x%3by z")] []] }).result .bare =
            (.ok o.argument.display, w) := by
  have hescaped : (({} : Expander).expandTyped "$(A.Split(' '))" .all
      { scopes := [.ofDocument [("A", "x%3by z")] []] } |>.result .bare).1.toOption.map
        Outcome.escaped = some "x%3by;z" := by
    decide +kernel
  rcases expandTyped_agrees {} { scopes := [.ofDocument [("A", "x%3by z")] []] }
    (show Options.all.truncate = false from rfl) "$(A.Split(' '))" .bare with
    ⟨d, w, htyped, -⟩ | ⟨o, w, htyped, htext, hplain⟩
  · rw [htyped] at hescaped
    cases hescaped
  · rw [htyped] at hescaped
    exact ⟨o, w, htyped, Option.some.inj hescaped, htext, hplain⟩

end Expander

end BuildExpr
