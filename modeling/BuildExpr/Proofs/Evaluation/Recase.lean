import BuildExpr.Proofs.Evaluation.Matching
import BuildExpr.Proofs.Expression.ParseRecase

/-!
# Evaluating a tree in letters of other case

A tree whose names get another case has the same value or fails with the same kind and code
(`evalExpression_recase`): every name is looked up in a way that does not look at its case. What
the case of a name does change is the wording of reports and the type of an item that has lost
its metadata, which is only compared with other names.
-/

namespace BuildExpr

open Text TreeNode

/-- Items that differ at most in the case of their types. -/
structure Item.Recased (i i' : Item) : Prop extends Item.Similar SameName i i' where
  spec : i.spec = i'.spec

theorem Entry.Similar.recased {e e' : Entry} (h : e.Similar SameName e') :
    e.metadataItem.Recased e'.metadataItem where
  toSimilar := h.metadataItem rfl
  spec := by rw [spec_metadataItem, spec_metadataItem, h.text]

theorem Item.Recased.refl (i : Item) : i.Recased i :=
  ⟨⟨rfl, rfl, eqIgnoreCase_self _⟩, rfl⟩

/-- A metadata value does not depend on the case of the names it is asked with. -/
theorem Item.Recased.qualifiedMetadata_eq {i i' : Item} (h : i.Recased i') (w : World)
    {itemType itemType' : Option String} (htype : Option.Rel SameName itemType itemType')
    {name name' : String} (hname : SameName name name') :
    i.qualifiedMetadata w itemType name = i'.qualifiedMetadata w itemType' name' := by
  have hvalue : i.metadataValue w name = i'.metadataValue w name' :=
    (h.metadataValue_eq h.spec w name).trans (i'.metadataValue_congr w hname)
  cases htype with
  | none => exact hvalue
  | @some t t' ht =>
    have htypes : eqIgnoreCase t i.itemType = eqIgnoreCase t' i'.itemType := by
      rw [eqIgnoreCase, eqIgnoreCase, foldAscii_eq ht, foldAscii_eq h.itemType]
    rw [qualifiedMetadata, qualifiedMetadata, htypes, hvalue]

/-! ## What an evaluation asks of its setting -/

section Setting

variable (s : Setting)

theorem matches_metadataValue (g : Recasing) {item item' : Option Item}
    (hitem : Option.Rel Item.Recased item item') (ref : MetadataRef) :
    Eval.Matches (· = ·) (s.metadataValue item ref)
      (s.metadataValue item' (ref.mapSpans (Span.recase g))) := by
  have htype : Option.Rel SameName (ref.itemType.map Span.text)
      ((ref.itemType.map (Span.recase g)).map Span.text) := by
    cases ref.itemType with
    | none => exact .none
    | some type => exact .some (type.sameName_recase g)
  have hvalue {i i' : Item} (hi : i.Recased i') (w : World) :
      i.qualifiedMetadata w (ref.itemType.map Span.text) ref.name.text =
        i'.qualifiedMetadata w ((ref.itemType.map (Span.recase g)).map Span.text)
          (ref.name.recase g).text :=
    hi.qualifiedMetadata_eq w htype (ref.name.sameName_recase g)
  have hfound : Option.Rel Item.Recased (item <|> s.lookup.metadataItem)
      (item' <|> s.lookup.metadataItem) := by
    cases hitem with
    | some hi => exact .some hi
    | none =>
      cases s.lookup.metadataItem with
      | none => exact .none
      | some i => exact .some (.refl i)
  rw [Setting.metadataValue, Setting.metadataValue]
  generalize (item <|> s.lookup.metadataItem) = found at hfound ⊢
  generalize (item' <|> s.lookup.metadataItem) = found' at hfound ⊢
  refine .look fun w => ?_
  cases hfound with
  | none => exact .ok rfl
  | some hi =>
    simp only [MetadataRef.mapSpans, ← hvalue hi w]
    split
    · exact .ok rfl
    · exact .error ⟨rfl, rfl⟩

theorem matches_registryValue (expression expression' spec : String) :
    Eval.Matches (· = ·) (s.registryValue expression spec)
      (s.registryValue expression' spec) := by
  refine .look fun w => ?_
  dsimp only
  split
  · exact .ok rfl
  · exact .error ⟨rfl, rfl⟩

theorem matches_apply (f : Function) (args : List Value) {report report' : Failure → Diagnostic}
    (h : ∀ e, (report e).SameFailure (report' e)) :
    Eval.Matches (· = ·) (s.apply f args report) (s.apply f args report') := by
  intro w
  unfold Setting.apply
  simp only [Eval.result_get_bind, Eval.result_set_bind]
  rcases f.run (s.context w) args with ⟨answer, w'⟩
  cases answer with
  | ok v => exact ⟨.ok rfl, rfl⟩
  | error e => exact ⟨.error (h e), rfl⟩

theorem matches_callStatic (expression expression' : String) {type type' member member' : String}
    (htype : SameName type type') (hmember : SameName member member') (args : List Value) :
    Eval.Matches (· = ·) (s.callStatic expression type member args)
      (s.callStatic expression' type' member' args) := by
  have hfound := FunctionTable.resolveStatic_congr s.opened htype hmember args.length
  rw [Setting.callStatic, Setting.callStatic]
  generalize FunctionTable.resolveStatic s.opened type member args.length = x at hfound ⊢
  generalize FunctionTable.resolveStatic s.opened type' member' args.length = x' at hfound ⊢
  obtain ⟨f, rfl, rfl⟩ | ⟨r, r', rfl, rfl, hcode⟩ := FunctionTable.cases_of_mapError hfound
  · exact matches_apply s f args fun e => ⟨rfl, rfl⟩
  · exact .throw ⟨rfl, hcode⟩

theorem matches_callMember (expression expression' : String) (receiver : Value)
    {member member' : String} (hmember : SameName member member') (args : List Value) :
    Eval.Matches (· = ·) (s.callMember expression receiver member args)
      (s.callMember expression' receiver member' args) := by
  have hfound := FunctionTable.resolveMember_congr receiver hmember args.length
  rw [Setting.callMember, Setting.callMember]
  generalize FunctionTable.resolveMember receiver member args.length = x at hfound ⊢
  generalize FunctionTable.resolveMember receiver member' args.length = x' at hfound ⊢
  obtain ⟨f, rfl, rfl⟩ | ⟨r, r', rfl, rfl, hcode⟩ := FunctionTable.cases_of_mapError hfound
  · exact matches_apply s f (receiver :: args) fun e => ⟨rfl, rfl⟩
  · exact .throw ⟨rfl, hcode⟩

end Setting

/-! ## Trees -/

section Tree

variable (s : Setting) {g : Recasing}

theorem matches_bare {item item' : Option Item} {e e' : Expression} (he : e.singleProperty? = none)
    (he' : e'.singleProperty? = none)
    (h : Eval.Matches (· = ·) (evalExpression s item e) (evalExpression s item' e')) :
    Eval.Matches (· = ·) (evalArgument s item (.bare e)) (evalArgument s item' (.bare e')) := by
  rw [evalArgument_bare s item he, evalArgument_bare s item' he']
  exact h.bind_eq fun _ => .refl _

mutual

/-- An expression has the same text in every case of its names, or fails in the same way. -/
theorem evalExpression_recase {item item' : Option Item}
    (hitem : Option.Rel Item.Recased item item') :
    ∀ e, (expression e).Everywhere (Spared g) →
      Eval.Matches (· = ·) (evalExpression s item e)
        (evalExpression s item' (Expression.mapSpans (Span.recase g) e))
  | .mk _ segments => fun hspared => by
    rw [Expression.mapSpans, evalExpression, evalExpression]
    exact evalSegments_recase hitem segments (everywhere_spared_iff.1 hspared)

theorem evalSegments_recase {item item' : Option Item}
    (hitem : Option.Rel Item.Recased item item') :
    ∀ segments, (∀ segment ∈ segments, Segment.Spared g segment) →
      Eval.Matches (· = ·) (evalSegments s item segments)
        (evalSegments s item' (Segment.mapSpansAll (Span.recase g) segments))
  | [] => fun _ => .refl _
  | segment :: rest => fun hspared => by
    obtain ⟨hfirst, hrest⟩ := List.forall_mem_cons.1 hspared
    rw [Segment.mapSpansAll, evalSegments, evalSegments]
    exact (evalSegment_recase hitem segment hfirst).bind_eq fun first =>
      (evalSegments_recase hitem rest hrest).bind_eq fun others => .refl _

theorem evalSegment_recase {item item' : Option Item}
    (hitem : Option.Rel Item.Recased item item') :
    ∀ segment, Segment.Spared g segment →
      Eval.Matches (· = ·) (evalSegment s item segment)
        (evalSegment s item' (Segment.mapSpans (Span.recase g) segment))
  | .literal span => fun hspared => by
    rw [Segment.mapSpans, hspared.1 span rfl]
    exact .refl _
  | .property ref => fun hspared => by
    rw [Segment.mapSpans, evalSegment, evalSegment]
    exact (evalProperty_recase hitem ref hspared.2).bind_eq fun outcome => .refl _
  | .items list => fun hspared => by
    rw [Segment.mapSpans, evalSegment, evalSegment]
    exact evalItems_recase hitem list hspared.2
  | .metadata ref => fun _ => by
    rw [Segment.mapSpans, evalSegment, evalSegment]
    exact matches_metadataValue s g hitem ref

theorem evalProperty_recase {item item' : Option Item}
    (hitem : Option.Rel Item.Recased item item') :
    ∀ ref, (property ref).Everywhere (Spared g) →
      Eval.Matches (· = ·) (evalProperty s item ref)
        (evalProperty s item' (Property.mapSpans (Span.recase g) ref))
  | .named _ name => fun _ => by
    rw [Property.mapSpans, evalProperty, evalProperty, s.property_congr (name.sameName_recase g)]
    exact .refl _
  | .registry span key => fun hspared => by
    have hkey : key.recase g = key := hspared.here key (by simp [plain])
    rw [Property.mapSpans, evalProperty, evalProperty, hkey]
    exact (matches_registryValue s _ _ _).bind_eq fun _ => .refl _
  | .bareRegistry _ _ => fun _ => .refl _
  | .chain span (.property name) accesses => fun hspared => by
    have haccesses : ∀ a ∈ accesses, (access a).Everywhere (Spared g) := fun a ha =>
      hspared.child (by simp [children, ha])
    rw [Property.mapSpans, Receiver.mapSpans, evalProperty, evalProperty,
      s.property_congr (name.sameName_recase g)]
    exact (evalAccesses_recase hitem _ _ _ accesses haccesses).bind_eq fun _ => .refl _
  | .chain span (.type name) accesses => fun hspared => by
    have haccesses : ∀ a ∈ accesses, (access a).Everywhere (Spared g) := fun a ha =>
      hspared.child (by simp [children, ha])
    rw [Property.mapSpans, Receiver.mapSpans, evalProperty, evalProperty]
    exact evalStatic_recase hitem _ _ (name.sameName_recase g) accesses haccesses

theorem evalStatic_recase {item item' : Option Item}
    (hitem : Option.Rel Item.Recased item item')
    (expression expression' : String) {type type' : String} (htype : SameName type type') :
    ∀ accesses, (∀ a ∈ accesses, (access a).Everywhere (Spared g)) →
      Eval.Matches (· = ·) (evalStatic s item expression type accesses)
        (evalStatic s item' expression' type' (Access.mapSpansAll (Span.recase g) accesses))
  | [] => fun _ => .throw ⟨rfl, rfl⟩
  | .method _ name arguments :: rest => fun hspared => by
    obtain ⟨hfirst, hrest⟩ := List.forall_mem_cons.1 hspared
    have harguments : ∀ a ∈ arguments, (argument a).Everywhere (Spared g) := fun a ha =>
      hfirst.child (by simp [children, ha])
    have hname := name.sameName_recase g
    rw [Access.mapSpansAll, Access.mapSpans, evalStatic, evalStatic, Access.isEmpty_mapSpansAll]
    refine (evalArguments_recase hitem arguments harguments).bind_eq fun args =>
      (matches_callStatic s _ _ htype hname args).bind_eq fun v => ?_
    rw [Outcome.ofStatic_congr htype hname]
    split
    · exact .refl _
    · exact (evalAccesses_recase hitem _ _ v rest hrest).bind_eq fun _ => .refl _
  | .member _ name :: rest => fun hspared => by
    obtain ⟨-, hrest⟩ := List.forall_mem_cons.1 hspared
    have hname := name.sameName_recase g
    rw [Access.mapSpansAll, Access.mapSpans, evalStatic, evalStatic, Access.isEmpty_mapSpansAll]
    refine (matches_callStatic s _ _ htype hname []).bind_eq fun v => ?_
    rw [Outcome.ofStatic_congr htype hname]
    split
    · exact .refl _
    · exact (evalAccesses_recase hitem _ _ v rest hrest).bind_eq fun _ => .refl _
  | .index _ _ :: _ => fun _ => .throw ⟨rfl, rfl⟩

theorem evalAccesses_recase {item item' : Option Item}
    (hitem : Option.Rel Item.Recased item item')
    (expression expression' : String) (v : Value) :
    ∀ accesses, (∀ a ∈ accesses, (access a).Everywhere (Spared g)) →
      Eval.Matches (· = ·) (evalAccesses s item expression v accesses)
        (evalAccesses s item' expression' v (Access.mapSpansAll (Span.recase g) accesses))
  | [] => fun _ => .refl _
  | .method _ name arguments :: rest => fun hspared => by
    obtain ⟨hfirst, hrest⟩ := List.forall_mem_cons.1 hspared
    have harguments : ∀ a ∈ arguments, (argument a).Everywhere (Spared g) := fun a ha =>
      hfirst.child (by simp [children, ha])
    rw [Access.mapSpansAll, Access.mapSpans, evalAccesses, evalAccesses]
    exact (evalArguments_recase hitem arguments harguments).bind_eq fun args =>
      (matches_callMember s _ _ v (name.sameName_recase g) args).bind_eq fun next =>
        evalAccesses_recase hitem _ _ next rest hrest
  | .member _ name :: rest => fun hspared => by
    obtain ⟨-, hrest⟩ := List.forall_mem_cons.1 hspared
    rw [Access.mapSpansAll, Access.mapSpans, evalAccesses, evalAccesses]
    exact (matches_callMember s _ _ v (name.sameName_recase g) []).bind_eq fun next =>
      evalAccesses_recase hitem _ _ next rest hrest
  | .index _ index :: rest => fun hspared => by
    obtain ⟨hfirst, hrest⟩ := List.forall_mem_cons.1 hspared
    have hindex : (argument index).Everywhere (Spared g) := hfirst.child (by simp [children])
    rw [Access.mapSpansAll, Access.mapSpans, evalAccesses, evalAccesses]
    split
    · exact .throw ⟨rfl, rfl⟩
    · exact (evalArgument_recase hitem index hindex).bind_eq fun i =>
        (matches_callMember s _ _ v (eqIgnoreCase_self _) [i]).bind_eq fun next =>
          evalAccesses_recase hitem _ _ next rest hrest

theorem evalArguments_recase {item item' : Option Item}
    (hitem : Option.Rel Item.Recased item item') :
    ∀ arguments, (∀ a ∈ arguments, (argument a).Everywhere (Spared g)) →
      Eval.Matches (· = ·) (evalArguments s item arguments)
        (evalArguments s item' (Argument.mapSpansAll (Span.recase g) arguments))
  | [] => fun _ => .refl _
  | a :: rest => fun hspared => by
    obtain ⟨hfirst, hrest⟩ := List.forall_mem_cons.1 hspared
    rw [Argument.mapSpansAll, evalArguments, evalArguments]
    exact (evalArgument_recase hitem a hfirst).bind_eq fun first =>
      (evalArguments_recase hitem rest hrest).bind_eq fun others => .refl _

theorem evalArgument_recase {item item' : Option Item}
    (hitem : Option.Rel Item.Recased item item') :
    ∀ a, (argument a).Everywhere (Spared g) →
      Eval.Matches (· = ·) (evalArgument s item a)
        (evalArgument s item' (Argument.mapSpans (Span.recase g) a))
  | .null _ => fun _ => .refl _
  | .quoted value => fun hspared => by
    have hvalue : (expression value).Everywhere (Spared g) := hspared.child (by simp [children])
    rw [Argument.mapSpans, evalArgument, evalArgument]
    exact (evalExpression_recase hitem value hvalue).bind_eq fun _ => .refl _
  | .bare (.mk span [.property ref]) => fun hspared => by
    have hvalue : (expression (.mk span [.property ref])).Everywhere (Spared g) :=
      hspared.child (by simp [children])
    have href : (property ref).Everywhere (Spared g) :=
      hvalue.child (by simp [children, Expression.segments, Segment.node])
    simp only [Argument.mapSpans, Expression.mapSpans, Segment.mapSpansAll, Segment.mapSpans,
      evalArgument]
    exact (evalProperty_recase hitem ref href).bind_eq fun _ => .refl _
  | .bare (.mk span []) => fun _ => .refl _
  | .bare (.mk span [.literal text]) => fun hspared => by
    have hvalue : (expression (.mk span [.literal text])).Everywhere (Spared g) :=
      hspared.child (by simp [children])
    exact matches_bare s rfl rfl (evalExpression_recase hitem (.mk span [.literal text]) hvalue)
  | .bare (.mk span [.items list]) => fun hspared => by
    have hvalue : (expression (.mk span [.items list])).Everywhere (Spared g) :=
      hspared.child (by simp [children])
    exact matches_bare s rfl rfl (evalExpression_recase hitem (.mk span [.items list]) hvalue)
  | .bare (.mk span [.metadata ref]) => fun hspared => by
    have hvalue : (expression (.mk span [.metadata ref])).Everywhere (Spared g) :=
      hspared.child (by simp [children])
    exact matches_bare s rfl rfl (evalExpression_recase hitem (.mk span [.metadata ref]) hvalue)
  | .bare (.mk span (first :: second :: rest)) => fun hspared => by
    have hvalue : (expression (.mk span (first :: second :: rest))).Everywhere (Spared g) :=
      hspared.child (by simp [children])
    have hmany := singleProperty?_cons_cons span first second rest
    rw [Argument.mapSpans]
    refine matches_bare s hmany ?_
      (evalExpression_recase hitem (.mk span (first :: second :: rest)) hvalue)
    rw [Expression.singleProperty?_mapSpans, hmany, Option.map_none]

theorem evalItems_recase {item item' : Option Item}
    (hitem : Option.Rel Item.Recased item item') :
    ∀ list, (items list).Everywhere (Spared g) →
      Eval.Matches (· = ·) (evalItems s item list)
        (evalItems s item' (ItemList.mapSpans (Span.recase g) list))
  | .mk _ itemType transforms none => fun hspared => by
    have htransforms : ∀ t ∈ transforms, (transform t).Everywhere (Spared g) := fun t ht =>
      hspared.child (by simp [children, ht])
    have htype := itemType.sameName_recase g
    rw [ItemList.mapSpans, evalItems, evalItems, ← s.entries_congr htype]
    refine (evalTransforms_recase hitem _ _ htype (.refl eqIgnoreCase_self _) transforms
      htransforms).bind fun made made' hmade => ?_
    exact Entries.matches_join (fun _ _ _ => .refl _) (hmade.shown s)
  | .mk _ itemType transforms (some separator) => fun hspared => by
    have htransforms : ∀ t ∈ transforms, (transform t).Everywhere (Spared g) := fun t ht =>
      hspared.child (by simp [children, ht])
    have hseparator : (expression separator).Everywhere (Spared g) :=
      hspared.child (by simp [children])
    have htype := itemType.sameName_recase g
    rw [ItemList.mapSpans, evalItems, evalItems, ← s.entries_congr htype]
    refine (evalTransforms_recase hitem _ _ htype (.refl eqIgnoreCase_self _) transforms
      htransforms).bind fun made made' hmade => ?_
    exact Entries.matches_join
      (fun e e' he => evalExpression_recase (.some he.recased) separator hseparator)
      (hmade.shown s)

/-- A chain of stages gives entries that are similar in every case of its names. -/
theorem evalTransforms_recase {item item' : Option Item}
    (hitem : Option.Rel Item.Recased item item') (list list' : String)
    {itemType itemType' : String} (htype : SameName itemType itemType')
    {entries entries' : List Entry} (hentries : Entries.Similar SameName entries entries') :
    ∀ transforms, (∀ t ∈ transforms, (transform t).Everywhere (Spared g)) →
      Eval.Matches (Entries.Similar SameName)
        (evalTransforms s item list itemType entries transforms)
        (evalTransforms s item' list' itemType' entries'
          (Transform.mapSpansAll (Span.recase g) transforms))
  | [] => fun _ => .pure hentries
  | .pattern _ value :: rest => fun hspared => by
    obtain ⟨hfirst, hrest⟩ := List.forall_mem_cons.1 hspared
    have hvalue : (expression value).Everywhere (Spared g) := hfirst.child (by simp [children])
    rw [Transform.mapSpansAll, Transform.mapSpans, evalTransforms, evalTransforms]
    refine (Eval.Matches.mapM (fun e e' he => ?_) hentries).bind fun made made' hmade =>
      evalTransforms_recase hitem _ _ htype (Entries.Similar.filled hmade) rest hrest
    exact (evalExpression_recase (.some he.recased) value hvalue).bind_eq fun text =>
      .pure (he.withText text)
  | .function _ name arguments :: rest => fun hspared => by
    obtain ⟨hfirst, hrest⟩ := List.forall_mem_cons.1 hspared
    have harguments : ∀ a ∈ arguments, (argument a).Everywhere (Spared g) := fun a ha =>
      hfirst.child (by simp [children, ha])
    rw [Transform.mapSpansAll, Transform.mapSpans, evalTransforms, evalTransforms]
    refine (evalArguments_recase hitem arguments harguments).bind_eq fun args => ?_
    refine (Eval.Matches.look fun w => ?_).bind fun made made' hmade =>
      evalTransforms_recase hitem _ _ htype hmade rest hrest
    refine ItemCall.matches_run ?_ args hentries
    exact ⟨name.sameName_recase g, htype⟩

end

/-- A tree has the same value in every case of its names, or fails in the same way. -/
theorem evalOutcome_recase {e : Expression} (hspared : (expression e).Everywhere (Spared g)) :
    Eval.Matches (· = ·) (evalOutcome s e)
      (evalOutcome s (e.mapSpans (Span.recase g))) := by
  rw [evalOutcome, evalOutcome, Expression.singleProperty?_mapSpans]
  cases href : e.singleProperty? with
  | some ref =>
    refine evalProperty_recase s .none ref (hspared.child ?_)
    simp [children, Expression.eq_of_singleProperty? href, Segment.node]
  | none => exact (evalExpression_recase s .none e hspared).bind_eq fun _ => .refl _

end Tree

end BuildExpr
