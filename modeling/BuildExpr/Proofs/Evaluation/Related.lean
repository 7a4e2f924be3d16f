import BuildExpr.Evaluation.Expression
import BuildExpr.Proofs.Expression.Nodes

/-!
# Evaluating one tree in two settings

What an evaluation is made of are the values, calls and reports that it asks of its setting, put in
sequence. A relation between evaluations that sequencing respects therefore holds of all evaluations
of a tree as soon as it holds of what the nodes of the tree ask (`Setting.Related`): of expressions
(`related_evalExpression`), of single property references (`related_evalOutcome`) and of the entries
of item lists (`related_evalEntries`). A property of the evaluations in one setting is such a
relation that looks at the first of the two alone.
-/

namespace BuildExpr

/-- A named stage of an item list as it is written. -/
def ItemList.call (list : ItemList) (span name : Span) : ItemCall :=
  { list := list.span.text, itemType := list.itemType.text, stage := span.text, name := name.text }

/-- A relation between evaluations that sequencing respects. -/
structure Eval.Sequenced (R : ∀ α : Type, Eval α → Eval α → Prop) : Prop where
  pure {α : Type} (a : α) : R α (pure a) (pure a)
  bind {α β : Type} {f f' : Eval α} {g g' : α → Eval β} :
    R α f f' → (∀ a, R β (g a) (g' a)) → R β (f >>= g) (f' >>= g')

/-- A relation between evaluations that sequencing respects and that holds of all that the good
nodes of a tree ask of two settings. -/
structure Setting.Related (R : ∀ α : Type, Eval α → Eval α → Prop) (good : TreeNode → Prop)
    (s s' : Setting) : Prop extends Eval.Sequenced R where
  property {ref : Property} {name : Span} : good (.property ref) → ref.lookedUp? = some name →
    s'.property name.text = s.property name.text
  shownValue (value : String) : s'.shownValue value = s.shownValue value
  shownEntries (entries : List Entry) : s'.shownEntries entries = s.shownEntries entries
  entries {span itemType : Span} {transforms : List Transform} {separator : Option Expression} :
    good (.items (.mk span itemType transforms separator)) →
    s'.entries itemType.text = s.entries itemType.text
  registryValue {span key : Span} : good (.property (.registry span key)) →
    R String (s.registryValue span.text key.text) (s'.registryValue span.text key.text)
  metadataValue {ref : MetadataRef} : good (.metadata ref) → ∀ item,
    R String (s.metadataValue item ref) (s'.metadataValue item ref)
  callStatic {ref : Property} : good (.property ref) → ∀ type member args,
    R Value (s.callStatic ref.span.text type member args)
      (s'.callStatic ref.span.text type member args)
  callMember {ref : Property} : good (.property ref) → ∀ receiver member args,
    R Value (s.callMember ref.span.text receiver member args)
      (s'.callMember ref.span.text receiver member args)
  notIndexed {ref : Property} : good (.property ref) → ∀ v,
    R Value (throw (notIndexed ref.span.text v)) (throw (notIndexed ref.span.text v))
  /-- Only asked of chains on a type that do not go on with a name. -/
  memberMissing {span type : Span} {accesses : List Access} :
    good (.property (.chain span (.type type) accesses)) →
    accesses.head?.any Access.isNamed = false →
    R Outcome (throw (memberMissing span.text)) (throw (memberMissing span.text))
  run {list : ItemList} {span name : Span} {arguments : List Argument} : good (.items list) →
    good (.transform (.function span name arguments)) → ∀ args entries,
    R (List Entry) (.look fun w => (list.call span name).run s w args entries)
      (.look fun w => (list.call span name).run s' w args entries)

open TreeNode

/-! ## Arguments outside of quotes -/

/-- An argument outside of quotes that is more than a property reference is text. -/
theorem evalArgument_bare (s : Setting) (item : Option Item) {e : Expression}
    (h : e.singleProperty? = none) :
    evalArgument s item (.bare e) =
      (do return .text (Text.unescape (← evalExpression s item e))) := by
  rw [evalArgument]
  intro span ref he
  rw [he] at h
  cases h

theorem singleProperty?_cons_cons (span : Span) (first second : Segment) (rest : List Segment) :
    (Expression.mk span (first :: second :: rest)).singleProperty? = none := by
  cases first <;> rfl

theorem Expression.eq_of_singleProperty? {e : Expression} {ref : Property}
    (h : e.singleProperty? = some ref) : e.segments = [.property ref] := by
  rw [singleProperty?] at h
  split at h
  · rename_i other hsegments
    rw [hsegments, Option.some.inj h]
  · cases h

theorem Expression.eq_of_singleItems? {e : Expression} {list : ItemList}
    (h : e.singleItems? = some list) : e.segments = [.items list] := by
  rw [singleItems?] at h
  split at h
  · rename_i other hsegments
    rw [hsegments, Option.some.inj h]
  · cases h

/-! ## Sequences -/

namespace Eval.Sequenced

variable {R : ∀ α : Type, Eval α → Eval α → Prop}

theorem mapM (h : Sequenced R) {α β : Type} {f f' : α → Eval β} (hf : ∀ a, R β (f a) (f' a))
    (as : List α) : R (List β) (as.mapM f) (as.mapM f') := by
  induction as with
  | nil => exact h.pure []
  | cons a as ih =>
    rw [List.mapM_cons, List.mapM_cons]
    exact h.bind (hf a) fun b => h.bind ih fun bs => h.pure (b :: bs)

theorem join (h : Sequenced R) {f f' : Entry → Eval String} (hf : ∀ e, R String (f e) (f' e)) :
    ∀ entries, R String (Entries.join f entries) (Entries.join f' entries)
  | [] => h.pure ""
  | [e] => h.pure e.text
  | e :: next :: rest => by
    rw [Entries.join, Entries.join]
    exact h.bind (hf e) fun between => h.bind (join h hf (next :: rest)) fun tail =>
      h.pure (e.text ++ between ++ tail)

end Eval.Sequenced

/-! ## Trees -/

section Tree

variable {R : ∀ α : Type, Eval α → Eval α → Prop} {good : TreeNode → Prop} {s s' : Setting}

theorem related_bare (h : s.Related R good s') {item : Option Item} {e : Expression}
    (hnone : e.singleProperty? = none)
    (he : R String (evalExpression s item e) (evalExpression s' item e)) :
    R Value (evalArgument s item (.bare e)) (evalArgument s' item (.bare e)) := by
  rw [evalArgument_bare s item hnone, evalArgument_bare s' item hnone]
  exact h.bind he fun _ => h.pure _

mutual

/-- What holds of all that the nodes of a tree ask holds of its evaluation. -/
theorem related_evalExpression (h : s.Related R good s') (item : Option Item) :
    ∀ e, (expression e).Everywhere good →
      R String (evalExpression s item e) (evalExpression s' item e)
  | .mk _ segments => fun hgood => by
    rw [evalExpression, evalExpression]
    exact related_evalSegments h item segments fun segment hs =>
      hgood.child (List.mem_map_of_mem hs)

theorem related_evalSegments (h : s.Related R good s') (item : Option Item) :
    ∀ segments, (∀ segment ∈ segments, segment.node.Everywhere good) →
      R String (evalSegments s item segments) (evalSegments s' item segments)
  | [] => fun _ => h.pure ""
  | segment :: rest => fun hgood => by
    obtain ⟨hfirst, hrest⟩ := List.forall_mem_cons.1 hgood
    rw [evalSegments, evalSegments]
    exact h.bind (related_evalSegment h item segment hfirst) fun first =>
      h.bind (related_evalSegments h item rest hrest) fun others => h.pure (first ++ others)

theorem related_evalSegment (h : s.Related R good s') (item : Option Item) :
    ∀ segment : Segment, segment.node.Everywhere good →
      R String (evalSegment s item segment) (evalSegment s' item segment)
  | .literal span => fun _ => h.pure span.text
  | .property ref => fun hgood => by
    rw [evalSegment, evalSegment]
    refine h.bind (related_evalProperty h item ref hgood) fun outcome => ?_
    rw [h.shownValue]
    exact h.pure _
  | .items list => fun hgood => by
    rw [evalSegment, evalSegment]
    exact related_evalItems h item list hgood
  | .metadata _ => fun hgood => h.metadataValue hgood.here item

theorem related_evalProperty (h : s.Related R good s') (item : Option Item) :
    ∀ ref, (property ref).Everywhere good →
      R Outcome (evalProperty s item ref) (evalProperty s' item ref)
  | .named _ name => fun hgood => by
    rw [evalProperty, evalProperty, h.property hgood.here rfl]
    exact h.pure _
  | .registry _ _ => fun hgood => h.bind (h.registryValue hgood.here) fun _ => h.pure _
  | .bareRegistry _ _ => fun _ => h.pure _
  | .chain span (.property name) accesses => fun hgood => by
    have haccesses : ∀ a ∈ accesses, (access a).Everywhere good := fun a ha =>
      hgood.child (by simp [children, ha])
    rw [evalProperty, evalProperty, h.property hgood.here rfl]
    exact h.bind (related_evalAccesses h item hgood.here _ accesses haccesses) fun _ => h.pure _
  | .chain span (.type name) accesses => fun hgood => by
    have haccesses : ∀ a ∈ accesses, (access a).Everywhere good := fun a ha =>
      hgood.child (by simp [children, ha])
    rw [evalProperty, evalProperty]
    exact related_evalStatic h item span name accesses hgood.here haccesses

theorem related_evalStatic (h : s.Related R good s') (item : Option Item) (span type : Span) :
    ∀ accesses, good (property (.chain span (.type type) accesses)) →
      (∀ a ∈ accesses, (access a).Everywhere good) →
      R Outcome (evalStatic s item span.text type.text accesses)
        (evalStatic s' item span.text type.text accesses)
  | [] => fun href _ => h.memberMissing href rfl
  | .method _ name arguments :: rest => fun href hgood => by
    obtain ⟨hfirst, hrest⟩ := List.forall_mem_cons.1 hgood
    have harguments : ∀ a ∈ arguments, (argument a).Everywhere good := fun a ha =>
      hfirst.child (by simp [children, ha])
    rw [evalStatic, evalStatic]
    refine h.bind (related_evalArguments h item arguments harguments) fun args =>
      h.bind (h.callStatic href _ _ args) fun v => ?_
    split
    · exact h.pure _
    · exact h.bind (related_evalAccesses h item href v rest hrest) fun _ => h.pure _
  | .member _ name :: rest => fun href hgood => by
    obtain ⟨-, hrest⟩ := List.forall_mem_cons.1 hgood
    rw [evalStatic, evalStatic]
    refine h.bind (h.callStatic href _ _ []) fun v => ?_
    split
    · exact h.pure _
    · exact h.bind (related_evalAccesses h item href v rest hrest) fun _ => h.pure _
  | .index _ _ :: _ => fun href _ => h.memberMissing href rfl

theorem related_evalAccesses (h : s.Related R good s') (item : Option Item) {ref : Property}
    (href : good (property ref)) (v : Value) :
    ∀ accesses, (∀ a ∈ accesses, (access a).Everywhere good) →
      R Value (evalAccesses s item ref.span.text v accesses)
        (evalAccesses s' item ref.span.text v accesses)
  | [] => fun _ => h.pure v
  | .method _ name arguments :: rest => fun hgood => by
    obtain ⟨hfirst, hrest⟩ := List.forall_mem_cons.1 hgood
    have harguments : ∀ a ∈ arguments, (argument a).Everywhere good := fun a ha =>
      hfirst.child (by simp [children, ha])
    rw [evalAccesses, evalAccesses]
    exact h.bind (related_evalArguments h item arguments harguments) fun args =>
      h.bind (h.callMember href v _ args) fun next =>
        related_evalAccesses h item href next rest hrest
  | .member _ name :: rest => fun hgood => by
    obtain ⟨-, hrest⟩ := List.forall_mem_cons.1 hgood
    rw [evalAccesses, evalAccesses]
    exact h.bind (h.callMember href v _ []) fun next =>
      related_evalAccesses h item href next rest hrest
  | .index _ index :: rest => fun hgood => by
    obtain ⟨hfirst, hrest⟩ := List.forall_mem_cons.1 hgood
    have hindex : (argument index).Everywhere good := hfirst.child (by simp [children])
    rw [evalAccesses, evalAccesses]
    split
    · exact h.notIndexed href v
    · exact h.bind (related_evalArgument h item index hindex) fun i =>
        h.bind (h.callMember href v _ [i]) fun next =>
          related_evalAccesses h item href next rest hrest

theorem related_evalArguments (h : s.Related R good s') (item : Option Item) :
    ∀ arguments, (∀ a ∈ arguments, (argument a).Everywhere good) →
      R (List Value) (evalArguments s item arguments) (evalArguments s' item arguments)
  | [] => fun _ => h.pure []
  | a :: rest => fun hgood => by
    obtain ⟨hfirst, hrest⟩ := List.forall_mem_cons.1 hgood
    rw [evalArguments, evalArguments]
    exact h.bind (related_evalArgument h item a hfirst) fun first =>
      h.bind (related_evalArguments h item rest hrest) fun others => h.pure (first :: others)

theorem related_evalArgument (h : s.Related R good s') (item : Option Item) :
    ∀ a, (argument a).Everywhere good →
      R Value (evalArgument s item a) (evalArgument s' item a)
  | .null _ => fun _ => h.pure Value.null
  | .quoted value => fun hgood => by
    rw [evalArgument, evalArgument]
    exact h.bind (related_evalExpression h item value (hgood.child (by simp [children]))) fun _ =>
      h.pure _
  | .bare (.mk span [.property ref]) => fun hgood => by
    have hvalue : (expression (.mk span [.property ref])).Everywhere good :=
      hgood.child (by simp [children])
    rw [evalArgument, evalArgument]
    exact h.bind (related_evalProperty h item ref
      (hvalue.child (by simp [children, Expression.segments, Segment.node]))) fun _ => h.pure _
  | .bare (.mk _ []) => fun _ => h.pure _
  | .bare (.mk _ [.literal _]) => fun _ => h.pure _
  | .bare (.mk span [.items list]) => fun hgood =>
    related_bare h rfl (related_evalExpression h item (.mk span [.items list])
      (hgood.child (by simp [children])))
  | .bare (.mk span [.metadata ref]) => fun hgood => by
    have hvalue : (expression (.mk span [.metadata ref])).Everywhere good :=
      hgood.child (by simp [children])
    have href : (metadata ref).Everywhere good :=
      hvalue.child (by simp [children, Expression.segments, Segment.node])
    exact related_bare h rfl (h.bind (h.metadataValue href.here item) fun _ => h.pure _)
  | .bare (.mk span (first :: second :: rest)) => fun hgood =>
    related_bare h (singleProperty?_cons_cons span first second rest)
      (related_evalExpression h item (.mk span (first :: second :: rest))
        (hgood.child (by simp [children])))

theorem related_evalItems (h : s.Related R good s') (item : Option Item) :
    ∀ list, (items list).Everywhere good →
      R String (evalItems s item list) (evalItems s' item list)
  | .mk span itemType transforms none => fun hgood => by
    have htransforms : ∀ t ∈ transforms, (transform t).Everywhere good := fun t ht =>
      hgood.child (by simp [children, ht])
    rw [evalItems, evalItems, h.entries hgood.here]
    refine h.bind (related_evalTransforms h item hgood.here _ transforms htransforms) fun made => ?_
    rw [h.shownEntries]
    exact h.join (fun _ => h.pure ";") _
  | .mk span itemType transforms (some separator) => fun hgood => by
    have htransforms : ∀ t ∈ transforms, (transform t).Everywhere good := fun t ht =>
      hgood.child (by simp [children, ht])
    have hseparator : (expression separator).Everywhere good :=
      hgood.child (by simp [children])
    rw [evalItems, evalItems, h.entries hgood.here]
    refine h.bind (related_evalTransforms h item hgood.here _ transforms htransforms) fun made => ?_
    rw [h.shownEntries]
    exact h.join (fun e => related_evalExpression h (some e.metadataItem) separator hseparator) _

theorem related_evalTransforms (h : s.Related R good s') (item : Option Item) {list : ItemList}
    (hlist : good (items list)) (entries : List Entry) :
    ∀ transforms, (∀ t ∈ transforms, (transform t).Everywhere good) →
      R (List Entry)
        (evalTransforms s item list.span.text list.itemType.text entries transforms)
        (evalTransforms s' item list.span.text list.itemType.text entries transforms)
  | [] => fun _ => h.pure entries
  | .pattern _ value :: rest => fun hgood => by
    obtain ⟨hfirst, hrest⟩ := List.forall_mem_cons.1 hgood
    have hvalue : (expression value).Everywhere good := hfirst.child (by simp [children])
    rw [evalTransforms, evalTransforms]
    refine h.bind (h.mapM (fun e => ?_) entries) fun made =>
      related_evalTransforms h item hlist _ rest hrest
    exact h.bind (related_evalExpression h (some e.metadataItem) value hvalue) fun _ => h.pure _
  | .function span name arguments :: rest => fun hgood => by
    obtain ⟨hfirst, hrest⟩ := List.forall_mem_cons.1 hgood
    have harguments : ∀ a ∈ arguments, (argument a).Everywhere good := fun a ha =>
      hfirst.child (by simp [children, ha])
    rw [evalTransforms, evalTransforms]
    exact h.bind (related_evalArguments h item arguments harguments) fun args =>
      h.bind (h.run hlist hfirst.here args entries) fun made =>
        related_evalTransforms h item hlist made rest hrest

end

theorem related_evalEntries (h : s.Related R good s') {list : ItemList}
    (hgood : (items list).Everywhere good) :
    R (List Entry) (evalEntries s list) (evalEntries s' list) := by
  cases list with
  | mk span itemType transforms separator =>
    have htransforms : ∀ t ∈ transforms, (transform t).Everywhere good := fun t ht =>
      hgood.child (by simp [children, ht])
    rw [evalEntries, evalEntries, h.entries hgood.here]
    exact related_evalTransforms h none hgood.here _ transforms htransforms

theorem related_evalOutcome (h : s.Related R good s') {e : Expression}
    (hgood : (expression e).Everywhere good) :
    R Outcome (evalOutcome s e) (evalOutcome s' e) := by
  rw [evalOutcome, evalOutcome]
  split
  · rename_i ref href
    refine related_evalProperty h none ref (hgood.child ?_)
    simp [children, Expression.eq_of_singleProperty? href, Segment.node]
  · exact h.bind (related_evalExpression h none e hgood) fun _ => h.pure _

end Tree

end BuildExpr
