import BuildExpr.Proofs.Expansion.Escaped

/-!
# The ways to expand a text

`Expander.run` is the expansion of a text in one of five ways. All of them read the text, as a whole
or piece by piece, and evaluate its trees (`Expander.Mode.trees`), so a relation between evaluations
that sequencing respects holds of two expanders in every way of expansion as soon as it holds of
what the nodes of these trees are evaluated against (`Expander.related_run_of_trees`).
-/

namespace BuildExpr

namespace Expander

/-- The ways to expand a text. -/
inductive Mode
  | text
  | escaped
  | list
  | typed
  | items (factory : ItemFactory)

/-- What a way of expansion gives. -/
def Mode.Answer : Mode → Type
  | text | escaped => String
  | list => List String
  | typed => Outcome
  | items _ => List Item

/-- Expands a text in one of the ways. -/
def run (x : Expander) (text : String) (options : Options) (lookup : Lookup) :
    (mode : Mode) → Eval mode.Answer
  | .text => x.expand text options lookup
  | .escaped => x.expandEscaped text options lookup
  | .list => x.expandList text options lookup
  | .typed => x.expandTyped text options lookup
  | .items factory => x.expandItems text options lookup factory

/-- The trees of texts, up to the first text that is not read. -/
def trees (options : Options) : List String → List Expression
  | [] => []
  | text :: texts =>
    match Expression.parse options text with
    | .ok e => e :: trees options texts
    | .error _ => []

/-- The trees that a way of expansion reads a text as. -/
def Mode.trees (options : Options) (text : String) : Mode → List Expression
  | items _ => Expander.trees options (pieces text)
  | _ => Expander.trees options [text]

theorem mem_trees_singleton {options : Options} {text : String} {e : Expression} :
    e ∈ trees options [text] ↔ Expression.parse options text = .ok e := by
  rw [trees]
  cases Expression.parse options text with
  | ok e' => simp [trees, eq_comm]
  | error m => simp

/-- A relation between evaluations that sequencing respects and that holds of all that two
expanders do with a tree of good nodes, each with a lookup of its own. -/
structure Related (R : ∀ α : Type, Eval α → Eval α → Prop) (good : TreeNode → Prop)
    (options : Options) (lookup lookup' : Lookup) (x x' : Expander) : Prop
    extends Eval.Sequenced R where
  throw {α : Type} (d : Diagnostic) : R α (throw d) (throw d)
  location : x'.location = x.location
  definingProject : x'.definingProject = x.definingProject
  setting (w : World) : (x.setting options lookup w).Related R good (x'.setting options lookup' w)
  eval {α : Type} {f : Setting → Eval α} :
    (∀ w, R α (f (x.setting options lookup w)) (f (x'.setting options lookup' w))) →
    R α (x.eval options lookup f) (x'.eval options lookup' f)

open TreeNode

variable {R : ∀ α : Type, Eval α → Eval α → Prop} {good : TreeNode → Prop} {options : Options}
  {lookup lookup' : Lookup} {x x' : Expander}

/-- Two expanders read a text as the same tree or report the same fault. -/
theorem related_read (h : x.Related R good options lookup lookup' x') {α : Type} {text : String}
    {f f' : Expression → Eval α}
    (hf : ∀ e, Expression.parse options text = .ok e → R α (f e) (f' e)) :
    R α (x.parse text options >>= f) (x'.parse text options >>= f') := by
  rw [parse, parse, h.location]
  cases he : Expression.parse options text with
  | ok e =>
    rw [pure_bind, pure_bind]
    exact hf e he
  | error m => exact h.throw _

theorem related_value (h : x.Related R good options lookup lookup' x') {e : Expression}
    (hgood : (expression e).Everywhere good) :
    R String (x.eval options lookup fun s => evalExpression s none e)
      (x'.eval options lookup' fun s => evalExpression s none e) :=
  h.eval fun w => related_evalExpression (h.setting w) none e hgood

theorem related_expandEscaped (h : x.Related R good options lookup lookup' x') {text : String}
    (hgood : ∀ e ∈ trees options [text], (expression e).Everywhere good) :
    R String (x.expandEscaped text options lookup) (x'.expandEscaped text options lookup') := by
  rw [expandEscaped, expandEscaped]
  split
  · exact h.pure text
  · refine related_read h fun e he => ?_
    split
    · exact h.pure text
    · exact related_value h (hgood e (mem_trees_singleton.2 he))

theorem related_expandTyped (h : x.Related R good options lookup lookup' x') {text : String}
    (hgood : ∀ e ∈ trees options [text], (expression e).Everywhere good) :
    R Outcome (x.expandTyped text options lookup) (x'.expandTyped text options lookup') := by
  rw [expandTyped, expandTyped]
  split
  · exact h.pure _
  · refine related_read h fun e he => h.eval fun w => ?_
    exact related_evalOutcome (h.setting w) (hgood e (mem_trees_singleton.2 he))

theorem related_expandPiece (h : x.Related R good options lookup lookup' x')
    (factory : ItemFactory) {piece : String}
    (hgood : ∀ e, Expression.parse options piece = .ok e → (expression e).Everywhere good) :
    R (List Item) (x.expandPiece piece options lookup factory)
      (x'.expandPiece piece options lookup' factory) := by
  have hproject := h.definingProject
  simp only [expandPiece, itemsOfText, itemsOfEntries, hproject, h.location]
  refine related_read h fun e he => ?_
  have hasText : R (List Item)
      (if e.isLiteral then return x.itemsOfText factory piece
        else do
          return x.itemsOfText factory (← x.eval options lookup fun s => evalExpression s none e))
      (if e.isLiteral then return x.itemsOfText factory piece
        else do
          return x.itemsOfText factory
            (← x'.eval options lookup' fun s => evalExpression s none e)) := by
    split
    · exact h.pure _
    · exact h.bind (related_value h (hgood e he)) fun _ => h.pure _
  split
  · rename_i list hlist
    split
    · exact hasText
    · have hitems : (items list).Everywhere good := (hgood e he).child (by
        simp [children, Expression.eq_of_singleItems? hlist, Segment.node])
      exact h.bind (h.eval fun w => related_evalEntries (h.setting w) hitems) fun _ => h.pure _
  · split
    · exact h.throw _
    · exact hasText

/-- The trees of the pieces matter only up to the first piece that is not read, since the pieces
behind it are not expanded. -/
theorem related_expandPieces (h : x.Related R good options lookup lookup' x')
    (factory : ItemFactory) {pieces : List String}
    (hgood : ∀ e ∈ trees options pieces, (expression e).Everywhere good) :
    R (List (List Item)) (pieces.mapM fun piece => x.expandPiece piece options lookup factory)
      (pieces.mapM fun piece => x'.expandPiece piece options lookup' factory) := by
  induction pieces with
  | nil => exact h.pure []
  | cons piece pieces ih =>
    rw [List.mapM_cons, List.mapM_cons]
    rw [trees] at hgood
    cases he : Expression.parse options piece with
    | ok e =>
      rw [he] at hgood
      obtain ⟨hfirst, hrest⟩ := List.forall_mem_cons.1 hgood
      have hpiece := related_expandPiece h factory fun e' he' => by
        rwa [← Except.ok.inj (he.symm.trans he')]
      exact h.bind hpiece fun first => h.bind (ih hrest) fun others => h.pure (first :: others)
    | error m =>
      simp only [expandPiece, parse, he, h.location]
      exact h.throw _

theorem related_expandItems (h : x.Related R good options lookup lookup' x')
    (factory : ItemFactory) {text : String}
    (hgood : ∀ e ∈ trees options (pieces text), (expression e).Everywhere good) :
    R (List Item) (x.expandItems text options lookup factory)
      (x'.expandItems text options lookup' factory) :=
  h.bind (related_expandPieces h factory hgood) fun _ => h.pure _

/-- What holds of all that two expanders do with trees of good nodes holds of every way to expand a
text that is read as such trees. -/
theorem related_run_of_trees (h : x.Related R good options lookup lookup' x') (text : String) :
    ∀ mode : Mode, (∀ e ∈ mode.trees options text, (expression e).Everywhere good) →
      R mode.Answer (x.run text options lookup mode) (x'.run text options lookup' mode)
  | .text => fun hgood => h.bind (related_expandEscaped h hgood) fun _ => h.pure _
  | .escaped => fun hgood => related_expandEscaped h hgood
  | .list => fun hgood => h.bind (related_expandEscaped h hgood) fun _ => h.pure _
  | .typed => fun hgood => related_expandTyped h hgood
  | .items factory => fun hgood => related_expandItems h factory hgood

/-- What holds of all that two expanders do with trees holds of every way to expand a text. -/
theorem related_run (h : x.Related R (fun _ => True) options lookup lookup' x') (text : String)
    (mode : Mode) :
    R mode.Answer (x.run text options lookup mode) (x'.run text options lookup' mode) :=
  related_run_of_trees h text mode fun _ _ => .all (fun _ => trivial) _

end Expander

end BuildExpr
