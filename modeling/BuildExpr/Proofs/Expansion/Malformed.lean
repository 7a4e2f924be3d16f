import BuildExpr.Proofs.Evaluation.Reports
import BuildExpr.Proofs.Expansion.Modes
import BuildExpr.Proofs.Expression.Everywhere

/-!
# Malformed texts

A reference is malformed by the way it is written, and what is written was read before anything is
evaluated: functions, item functions, metadata and the registry report what they cannot find and
what they refuse, never a malformed reference. The one report of the kind that an evaluation can
make is that a type has no member after it, and reading gives every type a member with a name
(`Expression.memberNamed_of_parse`). So no evaluation of the tree of a text makes it
(`formed_evalExpression`, `formed_evalOutcome`).

Whether a text is malformed is therefore settled by reading it, before anything is looked up. A text
either fails in the same way against all surroundings, or no expansion of it reports a malformed
reference (`Expander.malformed_of_text`). That is so for the ways of expansion that read the text as
a whole; an expansion to items reads it in pieces.
-/

namespace BuildExpr

/-- Whether a computation reports no malformed reference. -/
def Except.Formed {α : Type} (x : Except Diagnostic α) : Prop :=
  ∀ d, x = .error d → d.kind ≠ .malformed

/-- An evaluation that reports no malformed reference. -/
def Eval.Formed {α : Type} (f : Eval α) : Prop := ∀ w, Except.Formed (f.result w).1

namespace Eval.Formed

variable {α β : Type}

theorem pure (a : α) : Formed (Pure.pure a) := Reports.pure a

theorem bind {f : Eval α} {g : α → Eval β} (hf : f.Formed) (hg : ∀ a, (g a).Formed) :
    (f >>= g).Formed :=
  Reports.bind hf hg

end Eval.Formed

open Eval

/-! ## Trees -/

open TreeNode

namespace Expression

theorem grants_memberNamed : Grants (fun _ => True) MemberNamed where
  ok_argument _ := trivial
  ok_list _ := trivial
  ok_copied _ := trivial
  good_items _ _ _ := trivial
  good_static _ _ _ _ hnamed := hnamed
  good_other {n} _ hn := by
    unfold MemberNamed
    split
    · cases hn
    · trivial

/-- In the tree of a text every type has a member with a name after it. -/
theorem memberNamed_of_parse {options : Options} {text : String} {e : Expression}
    (he : Expression.parse options text = .ok e) : (expression e).Everywhere MemberNamed :=
  grants_memberNamed.everywhere_parseUpTo _ options _ e trivial he

end Expression

/-- Of a type with a named member after it, no report is that of a malformed reference. -/
theorem permits_formed : Permits MemberNamed fun d => d.kind ≠ .malformed where
  property _ d hd := by
    cases hd with
    | failure function e => exact e.kind_ne
    | refusal r => simp [FunctionTable.Refusal.diagnostic]
    | notIndexed v => simp [notIndexed]
  memberMissing hgood hmissing := by
    rw [show _ = true from hgood] at hmissing
    cases hmissing
  metadata _ cause := by simp [metadataFailed]
  stage _ _ d hd := by
    cases hd with
    | failed h detail => exact h
    | metadata name cause => simp [metadataFailed]

section Parsed

variable {options : Options} {text : String} {e : Expression}

/-- No evaluation of the tree of a text reports a malformed reference. -/
theorem formed_evalExpression (he : Expression.parse options text = .ok e) (s : Setting)
    (item : Option Item) : (evalExpression s item e).Formed :=
  related_evalExpression (s.related_reports permits_formed) item e
    (Expression.memberNamed_of_parse he)

theorem formed_evalOutcome (he : Expression.parse options text = .ok e) (s : Setting) :
    (evalOutcome s e).Formed :=
  related_evalOutcome (s.related_reports permits_formed) (Expression.memberNamed_of_parse he)

end Parsed

/-! ## Expansions -/

theorem Malformed.kind_diagnostic (m : Malformed) : m.diagnostic.kind = .malformed := by
  rw [diagnostic]
  split <;> rfl

namespace Expander

/-- The ways of expansion that read the text as a whole. -/
def Mode.ofWhole : List Mode := [.text, .escaped, .list, .typed]

theorem Mode.forall_ofWhole {p : Mode → Prop} :
    (∀ mode ∈ ofWhole, p mode) ↔ p .text ∧ p .escaped ∧ p .list ∧ p .typed := by
  simp [ofWhole]

variable {text : String} {options : Options}

/-- A text that cannot be read is reported before anything is evaluated. -/
theorem run_of_malformed (hany : options.expandsAnything = true) {m : Malformed}
    (he : Expression.parse options text = .error m) (x : Expander) (lookup : Lookup) (w : World) :
    ∀ mode ∈ Mode.ofWhole, (x.run text options lookup mode).result w =
      (.error (m.diagnostic.at? x.location), w) := by
  have hparse : (x.parse text options).result w = (.error (m.diagnostic.at? x.location), w) := by
    rw [parse, he]
    rfl
  have hescaped : (x.expandEscaped text options lookup).result w =
      (.error (m.diagnostic.at? x.location), w) := by
    rw [expandEscaped, hany]
    exact result_bind_of_error hparse
  refine Mode.forall_ofWhole.2
    ⟨result_bind_of_error hescaped, hescaped, result_bind_of_error hescaped, ?_⟩
  show (x.expandTyped text options lookup).result w = _
  rw [expandTyped, hany]
  exact result_bind_of_error hparse

theorem formed_eval {x : Expander} {lookup : Lookup} {α : Type} {f : Setting → Eval α}
    (h : ∀ s, (f s).Formed) : (x.eval options lookup f).Formed :=
  x.reports_eval options lookup h fun _ hd => hd

/-- A text that can be read, and any text where nothing is requested, is never reported as
malformed. -/
theorem formed_run (hread : options.expandsAnything = true →
      ∃ e, Expression.parse options text = .ok e) (x : Expander) (lookup : Lookup) :
    ∀ mode ∈ Mode.ofWhole, (x.run text options lookup mode).Formed := by
  have hescaped : (x.expandEscaped text options lookup).Formed := by
    rw [expandEscaped]
    split
    · exact .pure text
    · rename_i hany
      obtain ⟨e, he⟩ := hread (by simpa using hany)
      rw [x.parse_of_ok options he, pure_bind]
      split
      · exact .pure text
      · exact formed_eval fun s => formed_evalExpression he s none
  refine Mode.forall_ofWhole.2
    ⟨hescaped.bind fun _ => .pure _, hescaped, hescaped.bind fun _ => .pure _, ?_⟩
  show (x.expandTyped text options lookup).Formed
  rw [expandTyped]
  split
  · exact .pure _
  · rename_i hany
    obtain ⟨e, he⟩ := hread (by simpa using hany)
    rw [x.parse_of_ok options he, pure_bind]
    exact formed_eval fun s => formed_evalOutcome he s

/-- Whether a text is malformed depends on nothing but the text and what is requested: it fails in
the same way in all surroundings, or never because it is malformed. In particular no type in a
text that was read is without a member. -/
theorem malformed_of_text (text : String) (options : Options) :
    ((∃ d : Diagnostic, d.kind = .malformed ∧
        ∀ x : Expander, ∀ lookup w, ∀ mode ∈ Mode.ofWhole,
          (x.run text options lookup mode).result w = (.error (d.at? x.location), w)) ∨
      ∀ x : Expander, ∀ lookup w, ∀ mode ∈ Mode.ofWhole, ∀ d w',
        (x.run text options lookup mode).result w = (.error d, w') → d.kind ≠ .malformed) ∧
    ∀ e, Expression.parse options text = .ok e → ∀ s item w expression,
      ((evalExpression s item e).result w).1 ≠ .error (memberMissing expression) ∧
        ((evalOutcome s e).result w).1 ≠ .error (memberMissing expression) := by
  constructor
  · by_cases hread : options.expandsAnything = true → ∃ e, Expression.parse options text = .ok e
    · exact .inr fun x lookup w mode hmode d w' h =>
        formed_run hread x lookup mode hmode w d (by rw [h])
    · obtain ⟨hany, hfails⟩ := Classical.not_imp.1 hread
      cases he : Expression.parse options text with
      | ok e => exact absurd ⟨e, he⟩ hfails
      | error m => exact .inl ⟨m.diagnostic, m.kind_diagnostic, run_of_malformed hany he⟩
  · intro e he s item w expression
    have hkind : (memberMissing expression).kind = .malformed := rfl
    exact ⟨fun h => formed_evalExpression he s item w _ h hkind,
      fun h => formed_evalOutcome he s w _ h hkind⟩

/-- A type without a member is malformed in all surroundings, and a call is in none. -/
theorem malformed_of_text_of_static :
    (∃ d : Diagnostic, d.kind = .malformed ∧
      ∀ x : Expander, ∀ lookup w, ∀ mode ∈ Mode.ofWhole,
        (x.run "$([Math]::)" .all lookup mode).result w = (.error (d.at? x.location), w)) ∧
    (∀ x : Expander, ∀ lookup w, ∀ mode ∈ Mode.ofWhole, ∀ d w',
      (x.run "$([Math]::Max(1, $(A)))" .all lookup mode).result w = (.error d, w') →
        d.kind ≠ .malformed) ∧
    ∃ e, Expression.parse .all "$([Math]::Max(1, $(A)))" = .ok e ∧ ∀ s w expression,
      ((evalOutcome s e).result w).1 ≠ .error (memberMissing expression) := by
  have hescaped : Mode.escaped ∈ Mode.ofWhole := by simp [Mode.ofWhole]
  refine ⟨?malformed, ?formed, ?evaluated⟩
  case malformed =>
    refine (malformed_of_text "$([Math]::)" .all).1.resolve_right fun hnever => ?_
    have hfails : (Expression.parse .all "$([Math]::)").toOption.isNone = true := by decide +kernel
    cases he : Expression.parse .all "$([Math]::)" with
    | ok e =>
      rw [he] at hfails
      cases hfails
    | error m =>
      exact hnever {} {} .bare .escaped hescaped _ _
        (run_of_malformed rfl he {} {} .bare .escaped hescaped) m.kind_diagnostic
  case formed =>
    refine (malformed_of_text "$([Math]::Max(1, $(A)))" .all).1.resolve_left ?_
    rintro ⟨d, -, hfails⟩
    have hvalue : ((({} : Expander).expandEscaped "$([Math]::Max(1, $(A)))" .all
        { scopes := [.ofDocument [("A", "2")] []] }).result .bare).1.toOption = some "2" := by
      decide +kernel
    have hfailed := hfails {} { scopes := [.ofDocument [("A", "2")] []] } .bare .escaped hescaped
    obtain ⟨w, hresult⟩ := exists_of_toOption hvalue
    cases hresult.symm.trans hfailed
  case evaluated =>
    have hreads : (Expression.parse .all "$([Math]::Max(1, $(A)))").toOption.isSome = true := by
      decide +kernel
    obtain ⟨e, he⟩ := Option.isSome_iff_exists.1 hreads
    have he := Except.toOption_eq_some.1 he
    exact ⟨e, he, fun s w expression =>
      ((malformed_of_text "$([Math]::Max(1, $(A)))" .all).2 e he s none w expression).2⟩

end Expander

end BuildExpr
