import BuildExpr.Expander
import BuildExpr.Proofs.Evaluation.Reports
import BuildExpr.Proofs.Evaluation.Tokens
import BuildExpr.Proofs.Expression.Coverage

/-!
# Expansion in escaped form

`expandEscaped` returns a text in which nothing is requested, or that has no reference, without
evaluating it. Both are only short cuts: whatever the value of the tree of a text is, that is what
the text expands to (`result_expandEscaped`).
-/

namespace BuildExpr

/-! ## Texts without references -/

section Literal

variable {options : Options}

theorem evalSegments_of_isLiteral (s : Setting) (item : Option Item) {segments : List Segment}
    (h : segments.all Segment.isLiteral = true) :
    evalSegments s item segments = return String.join (segments.map fun s => s.span.text) := by
  induction segments with
  | nil => rfl
  | cons first segments ih =>
    rw [List.all_cons, Bool.and_eq_true] at h
    cases first with
    | literal span =>
      rw [evalSegments_literal, ih h.2, List.map_cons, String.join_cons, pure_bind]
      rfl
    | property ref => cases h.1
    | items list => cases h.1
    | metadata ref => cases h.1

/-- A text without references is its own value. -/
theorem evalExpression_of_isLiteral {text : String} {e : Expression}
    (h : Expression.parse options text = .ok e) (hliteral : e.isLiteral = true) (s : Setting)
    (item : Option Item) : evalExpression s item e = return text := by
  obtain ⟨hroot, hplaced, -⟩ := Expression.sound_parse h
  have hjoined := (TreeNode.keeps_of_below hplaced hroot .root).joined e rfl
  cases e with
  | mk span segments =>
    have hsegments : segments.all Segment.isLiteral = true := hliteral
    rw [evalExpression, evalSegments_of_isLiteral s item hsegments]
    exact congrArg pure (hjoined.trans (congrArg Span.text hroot))

theorem front_of_not_expandsAnything (h : options.expandsAnything = false) (r : Rest) :
    Chunk.front options r = .plain := by
  simp only [Options.expandsAnything, Bool.or_eq_false_iff] at h
  obtain ⟨⟨hproperties, hitems⟩, hmetadata⟩ := h
  rw [Chunk.front]
  split
  · simp [hproperties, hitems, hmetadata]
  · rfl

/-- Where nothing is requested all text is plain. -/
theorem chunksFrom_of_not_expandsAnything (h : options.expandsAnything = false) (start : Nat)
    (run : List Char) (pos : Nat) (cs : List Char) :
    Chunk.chunksFrom options start run 0 pos cs = Chunk.flush start (cs.reverse ++ run) :=
  Chunk.chunksFrom_of_plain (fun _ _ _ _ => front_of_not_expandsAnything h _) start run pos

theorem isLiteral_of_not_expandsAnything (h : options.expandsAnything = false) {text : String}
    {e : Expression} (he : Expression.parse options text = .ok e) : e.isLiteral = true := by
  obtain ⟨segments, hsegments, he⟩ := Except.bind_eq_ok.1 he
  obtain rfl := Except.ok.inj he
  rw [Rest.chunks, chunksFrom_of_not_expandsAnything h] at hsegments
  cases hrun : (Rest.ofText text).chars.reverse ++ [] with
  | nil =>
    rw [hrun] at hsegments
    obtain rfl := Except.mapM_nil_eq_ok.1 hsegments
    rfl
  | cons c run =>
    rw [hrun] at hsegments
    obtain ⟨first, more, hfirst, hmore, rfl⟩ := Except.mapM_cons_eq_ok.1 hsegments
    obtain rfl := Except.ok.inj hfirst
    obtain rfl := Except.mapM_nil_eq_ok.1 hmore
    rfl

end Literal

/-! ## Expansion -/

namespace Eval

theorem result_tryCatch {α : Type} (f : Eval α) (h : Diagnostic → Eval α) (w : World) :
    result (tryCatch f h) w =
      match f.result w with
      | (.ok a, w') => (.ok a, w')
      | (.error d, w') => (h d).result w' := by
  rw [result, ExceptT.run_tryCatch, StateT.run_bind]
  rcases hresult : f.result w with ⟨d | a, w'⟩
  all_goals
    rw [result] at hresult
    rw [hresult]
    rfl

end Eval

namespace Expander

open Eval

variable (x : Expander) (options : Options) (lookup : Lookup)

/-- Failures are reported at the place of the expander. -/
theorem result_eval {α : Type} (f : Setting → Eval α) (w : World) :
    (x.eval options lookup f).result w =
      (((f (x.setting options lookup w)).result w).1.mapError (Diagnostic.at? · x.location),
        ((f (x.setting options lookup w)).result w).2) := by
  have : (x.eval options lookup f).result w =
      (tryCatch (f (x.setting options lookup w)) fun d => throw (d.at? x.location)).result w := rfl
  rw [this, result_tryCatch]
  rcases (f (x.setting options lookup w)).result w with ⟨d | a, w'⟩ <;> rfl

theorem result_eval_eq_ok {α : Type} {f : Setting → Eval α} {a : α} {w w' : World} :
    (x.eval options lookup f).result w = (.ok a, w') ↔
      (f (x.setting options lookup w)).result w = (.ok a, w') := by
  rw [result_eval]
  rcases (f (x.setting options lookup w)).result w with ⟨d | a', w₁⟩ <;> simp [Except.mapError]

/-- The reports of an evaluation at the place of the expander. -/
theorem reports_eval {α : Type} {f : Setting → Eval α} {p q : Diagnostic → Prop}
    (h : ∀ s, (f s).Reports p) (hat : ∀ d, p d → q (d.at? x.location)) :
    (x.eval options lookup f).Reports q := by
  intro w d hd
  rw [result_eval] at hd
  cases hresult : ((f (x.setting options lookup w)).result w).1 with
  | ok a =>
    rw [hresult] at hd
    cases hd
  | error raw =>
    rw [hresult] at hd
    obtain rfl : raw.at? x.location = d := Except.error.inj hd
    exact hat raw (h _ w raw hresult)

theorem parse_of_ok {text : String} {e : Expression}
    (h : Expression.parse options text = .ok e) : x.parse text options = pure e := by
  rw [parse, h]

variable {x options lookup}

/-- A text is expanded by evaluating its tree, whether that succeeds or not. -/
theorem result_expandEscaped_eq {text : String} {e : Expression}
    (he : Expression.parse options text = .ok e) (w : World) :
    (x.expandEscaped text options lookup).result w =
      (x.eval options lookup fun s => evalExpression s none e).result w := by
  have hliteral (hl : e.isLiteral = true) :
      (x.eval options lookup fun s => evalExpression s none e).result w = (.ok text, w) := by
    rw [result_eval, evalExpression_of_isLiteral he hl]
    rfl
  rw [expandEscaped]
  cases hany : options.expandsAnything with
  | false => exact (hliteral (isLiteral_of_not_expandsAnything hany he)).symm
  | true =>
    simp only [Bool.not_true, Bool.false_eq_true, if_false, x.parse_of_ok options he, pure_bind]
    split
    · rename_i hl
      exact (hliteral hl).symm
    · rfl

/-- A text expands to the value of its tree. -/
theorem result_expandEscaped {text t : String} {e : Expression} {w w' : World}
    (he : Expression.parse options text = .ok e)
    (h : (evalExpression (x.setting options lookup w) none e).result w = (.ok t, w')) :
    (x.expandEscaped text options lookup).result w = (.ok t, w') := by
  rw [result_expandEscaped_eq he]
  exact (result_eval_eq_ok x options lookup).2 h

/-- Where something is requested, what a text expands to is the value of its tree. -/
theorem exists_value_of_expandEscaped (hany : options.expandsAnything = true) {text t : String}
    {w w' : World} (h : (x.expandEscaped text options lookup).result w = (.ok t, w')) :
    ∃ e, Expression.parse options text = .ok e ∧
      (evalExpression (x.setting options lookup w) none e).result w = (.ok t, w') := by
  simp only [expandEscaped, hany, Bool.not_true, Bool.false_eq_true, if_false] at h
  cases he : Expression.parse options text with
  | error m =>
    rw [parse, he] at h
    cases h
  | ok e =>
    refine ⟨e, rfl, ?_⟩
    rw [x.parse_of_ok options he, pure_bind] at h
    split at h
    · rename_i hliteral
      rwa [evalExpression_of_isLiteral he hliteral]
    · exact (result_eval_eq_ok x options lookup).1 h

/-- A text that expands while the extended table is closed leaves the surroundings as they are. -/
theorem eq_of_expandEscaped {text t : String} {w w' : World}
    (hclosed : FunctionTable.isOpen x.allFunctions w.vars = false)
    (h : (x.expandEscaped text options lookup).result w = (.ok t, w')) : w' = w := by
  cases hany : options.expandsAnything with
  | false =>
    simp only [expandEscaped, hany, Bool.not_false, if_true] at h
    cases h
    rfl
  | true =>
    obtain ⟨e, -, hvalue⟩ := exists_value_of_expandEscaped hany h
    have hopened : (x.setting options lookup w).opened = false := hclosed
    have hw := keeps_evalExpression hopened none e w
    rwa [hvalue] at hw

/-- The items of a piece that is a lone item list without a separator are made from its entries. -/
theorem exists_entries_of_expandPiece {factory : ItemFactory} {piece : String} {e : Expression}
    {list : ItemList} (he : Expression.parse options piece = .ok e)
    (hlist : e.singleItems? = some list) (hseparator : list.separator = none) {items : List Item}
    {w w' : World} (h : (x.expandPiece piece options lookup factory).result w = (.ok items, w')) :
    ∃ entries, (evalEntries (x.setting options lookup w) list).result w = (.ok entries, w') ∧
      items = x.itemsOfEntries factory entries := by
  simp only [expandPiece, x.parse_of_ok options he, pure_bind, hlist, hseparator,
    Option.isSome_none, Bool.false_eq_true, if_false] at h
  obtain ⟨entries, w₁, hentries, hreturn⟩ := result_bind_eq_ok.1 h
  cases hreturn
  exact ⟨entries, (x.result_eval_eq_ok options lookup).1 hentries, rfl⟩

end Expander

end BuildExpr
