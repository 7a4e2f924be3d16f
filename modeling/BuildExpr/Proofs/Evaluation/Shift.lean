import BuildExpr.Proofs.Evaluation.Result
import BuildExpr.Proofs.Expression.ParseShift

/-!
# Evaluating a moved tree

Evaluation sees the texts of a tree and not where they stand: a tree moved by `k` bytes gives the
same text, or fails in the same way (`evalExpression_shift`).
-/

namespace BuildExpr

variable (s : Setting) (k : Nat)

mutual

theorem evalExpression_shift (item : Option Item) :
    ∀ e, evalExpression s item (Expression.shift k e) = evalExpression s item e
  | .mk _ segments => by
    rw [Expression.shift, evalExpression, evalExpression, evalSegments_shift item segments]

theorem evalSegments_shift (item : Option Item) :
    ∀ segments, evalSegments s item (Segment.shiftAll k segments) = evalSegments s item segments
  | [] => rfl
  | segment :: rest => by
    rw [Segment.shiftAll, evalSegments, evalSegments, evalSegment_shift item segment,
      evalSegments_shift item rest]

theorem evalSegment_shift (item : Option Item) :
    ∀ segment, evalSegment s item (Segment.shift k segment) = evalSegment s item segment
  | .literal _ => rfl
  | .property ref => by
    rw [Segment.shift, evalSegment, evalSegment, evalProperty_shift item ref]
  | .items list => by rw [Segment.shift, evalSegment, evalSegment, evalItems_shift item list]
  | .metadata ⟨_, none, _⟩ => rfl
  | .metadata ⟨_, some _, _⟩ => rfl

theorem evalProperty_shift (item : Option Item) :
    ∀ ref, evalProperty s item (Property.shift k ref) = evalProperty s item ref
  | .named _ _ => rfl
  | .registry _ _ => rfl
  | .bareRegistry _ _ => rfl
  | .chain _ (.property _) accesses => by
    rw [Property.shift, evalProperty, evalProperty]
    simp only [evalAccesses_shift item _ _ accesses, Span.shift_text]
  | .chain _ (.type _) accesses => by
    rw [Property.shift, evalProperty, evalProperty, evalStatic_shift item _ _ accesses,
      Span.shift_text, Span.shift_text]

theorem evalStatic_shift (item : Option Item) (expression type : String) :
    ∀ accesses, evalStatic s item expression type (Access.shiftAll k accesses) =
      evalStatic s item expression type accesses
  | [] => rfl
  | .method _ _ arguments :: rest => by
    have hrest : (Access.shiftAll k rest).isEmpty = rest.isEmpty := by cases rest <;> rfl
    rw [Access.shiftAll, Access.shift, evalStatic, evalStatic]
    simp only [evalArguments_shift item arguments, evalAccesses_shift item _ _ rest, hrest,
      Span.shift_text]
  | .member _ _ :: rest => by
    have hrest : (Access.shiftAll k rest).isEmpty = rest.isEmpty := by cases rest <;> rfl
    rw [Access.shiftAll, Access.shift, evalStatic, evalStatic]
    simp only [evalAccesses_shift item _ _ rest, hrest, Span.shift_text]
  | .index _ _ :: _ => rfl

theorem evalAccesses_shift (item : Option Item) (expression : String) (v : Value) :
    ∀ accesses, evalAccesses s item expression v (Access.shiftAll k accesses) =
      evalAccesses s item expression v accesses
  | [] => rfl
  | .method _ _ arguments :: rest => by
    rw [Access.shiftAll, Access.shift, evalAccesses, evalAccesses]
    simp only [evalArguments_shift item arguments, evalAccesses_shift item _ _ rest,
      Span.shift_text]
  | .member _ _ :: rest => by
    rw [Access.shiftAll, Access.shift, evalAccesses, evalAccesses]
    simp only [evalAccesses_shift item _ _ rest, Span.shift_text]
  | .index _ argument :: rest => by
    rw [Access.shiftAll, Access.shift, evalAccesses, evalAccesses]
    simp only [evalArgument_shift item argument, evalAccesses_shift item _ _ rest]

theorem evalArguments_shift (item : Option Item) :
    ∀ arguments, evalArguments s item (Argument.shiftAll k arguments) =
      evalArguments s item arguments
  | [] => rfl
  | argument :: rest => by
    rw [Argument.shiftAll, evalArguments, evalArguments, evalArgument_shift item argument,
      evalArguments_shift item rest]

theorem evalArgument_shift (item : Option Item) :
    ∀ argument, evalArgument s item (Argument.shift k argument) = evalArgument s item argument
  | .null _ => rfl
  | .quoted value => by
    rw [Argument.shift, evalArgument, evalArgument, evalExpression_shift item value]
  | .bare (.mk _ [.property ref]) => by
    simp only [Argument.shift, Expression.shift, Segment.shiftAll, Segment.shift, evalArgument,
      evalProperty_shift item ref]
  | .bare (.mk span []) => rfl
  | .bare (.mk span [.literal text]) => rfl
  | .bare (.mk span [.items list]) => by
    have h := evalExpression_shift item (.mk span [.items list])
    rw [Argument.shift, evalArgument_bare s item rfl, evalArgument_bare s item rfl, h]
  | .bare (.mk span [.metadata ref]) => by
    have h := evalExpression_shift item (.mk span [.metadata ref])
    rw [Argument.shift, evalArgument_bare s item rfl, evalArgument_bare s item rfl, h]
  | .bare (.mk span (first :: second :: rest)) => by
    have h := evalExpression_shift item (.mk span (first :: second :: rest))
    have hmany := singleProperty?_cons_cons span first second rest
    have hmoved := singleProperty?_cons_cons (span.shift k) (first.shift k) (second.shift k)
      (Segment.shiftAll k rest)
    rw [Argument.shift, evalArgument_bare s item hmany, ← h]
    exact evalArgument_bare s item hmoved

theorem evalItems_shift (item : Option Item) :
    ∀ list, evalItems s item (ItemList.shift k list) = evalItems s item list
  | .mk _ _ transforms none => by
    rw [ItemList.shift, evalItems, evalItems]
    simp only [evalTransforms_shift item _ _ _ transforms, Span.shift_text]
  | .mk _ _ transforms (some separator) => by
    rw [ItemList.shift, evalItems, evalItems]
    simp only [evalTransforms_shift item _ _ _ transforms, evalExpression_shift _ separator,
      Span.shift_text]

theorem evalTransforms_shift (item : Option Item) (list itemType : String) (entries : List Entry) :
    ∀ transforms, evalTransforms s item list itemType entries (Transform.shiftAll k transforms) =
      evalTransforms s item list itemType entries transforms
  | [] => rfl
  | .pattern _ value :: rest => by
    rw [Transform.shiftAll, Transform.shift, evalTransforms, evalTransforms]
    simp only [evalExpression_shift _ value, evalTransforms_shift item _ _ _ rest]
  | .function _ _ arguments :: rest => by
    rw [Transform.shiftAll, Transform.shift, evalTransforms, evalTransforms]
    simp only [evalArguments_shift item arguments, evalTransforms_shift item _ _ _ rest,
      Span.shift_text]

end

end BuildExpr
