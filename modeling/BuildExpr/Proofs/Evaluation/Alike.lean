import BuildExpr.Proofs.Evaluation.Matching
import BuildExpr.Proofs.Evaluation.Relookup

/-!
# Chains of stages under other items

Entries are alike when they have the same text and come from items that differ at most in their
include. Each entry's metadata are computed from its text, so no stage can tell alike entries apart
(`ItemCall.matches_run`), nor can a chain of stages whatever the items of the lookup are
(`matches_evalTransforms`) or a separator (`Entries.matches_join`).
-/

namespace BuildExpr

/-! ## Entries that are alike -/

namespace Entry

/-- Entries with one text that come from items which differ at most in their include. -/
abbrev Alike : Entry → Entry → Prop := Similar (· = ·)

namespace Alike

variable {e e' : Entry}

theorem symm (h : Alike e e') : Alike e' e := by
  refine ⟨h.text.symm, ?_⟩
  obtain ⟨hnone, hnone'⟩ | ⟨i, i', hi, hi', hsimilar⟩ := h.source_cases
  · rw [hnone, hnone']
    exact .none
  · rw [hi, hi']
    exact .some ⟨hsimilar.metadata.symm, hsimilar.definingProject.symm, hsimilar.itemType.symm⟩

theorem trans {e'' : Entry} (h : Alike e e') (h' : Alike e' e'') : Alike e e'' := by
  refine ⟨h.text.trans h'.text, ?_⟩
  obtain ⟨hnone, hnone'⟩ | ⟨i, i', hi, hi', hsimilar⟩ := h.source_cases
  · have hsource := h'.source
    rw [hnone'] at hsource
    rwa [hnone]
  · obtain ⟨hnone, -⟩ | ⟨j, j', hj, hj', hmore⟩ := h'.source_cases
    · rw [hi'] at hnone
      cases hnone
    · obtain rfl : i' = j := Option.some.inj (hi'.symm.trans hj)
      rw [hi, hj']
      exact .some ⟨hsimilar.metadata.trans hmore.metadata,
        hsimilar.definingProject.trans hmore.definingProject,
        hsimilar.itemType.trans hmore.itemType⟩

theorem metadataItem (h : Alike e e') : e.metadataItem = e'.metadataItem := by
  have hspec := e.spec_metadataItem.trans (h.text.trans e'.spec_metadataItem.symm)
  obtain ⟨hmetadata, hproject, htype⟩ := Similar.metadataItem h rfl
  cases hitem : e.metadataItem
  cases hitem' : e'.metadataItem
  simp_all

end Alike

end Entry

namespace Entries

/-- Lists of entries that are alike one by one. -/
abbrev Alike : List Entry → List Entry → Prop := Similar (· = ·)

variable {entries entries' : List Entry}

theorem Alike.refl (entries : List Entry) : Alike entries entries :=
  Similar.refl (fun _ => rfl) entries

theorem Alike.symm (h : Alike entries entries') : Alike entries' entries :=
  List.Forall₂.flip (h.imp fun _ _ => Entry.Alike.symm)

theorem Alike.trans {entries'' : List Entry} (h : Alike entries entries')
    (h' : Alike entries' entries'') : Alike entries entries'' := by
  induction h generalizing entries'' with
  | nil => exact h'
  | cons hfirst _ ih =>
    cases h' with
    | cons hnext hmore => exact .cons (Entry.Alike.trans hfirst hnext) (ih hmore)

end Entries

/-! ## Chains -/

variable {s : Setting} {lookup : Lookup} {entries entries' : List Entry}

/-- Chains of stages match over entries that are alike, whatever the items of the lookup are and
whatever list they are written in. -/
theorem matches_evalTransforms (hlookup : lookup.SameBesideItems s.lookup) (item : Option Item)
    (list list' itemType : String) {transforms : List Transform}
    (hflat : ∀ t ∈ transforms, (TreeNode.transform t).Flat) (h : Entries.Alike entries entries') :
    Eval.Matches Entries.Alike (evalTransforms s item list itemType entries transforms)
      (evalTransforms (s.withLookup lookup) item list' itemType entries' transforms) := by
  induction transforms generalizing entries entries' with
  | nil => exact .pure h
  | cons t transforms ih =>
    obtain ⟨hfirst, hmore⟩ := List.forall_mem_cons.1 hflat
    cases t with
    | pattern span value =>
      have hvalue : (TreeNode.expression value).Flat := hfirst.child (by simp [TreeNode.children])
      rw [evalTransforms, evalTransforms]
      refine (Eval.Matches.mapM (fun e e' he => ?_) h).bind fun made made' hmade =>
        ih hmore (Entries.Similar.filled hmade)
      rw [evalExpression_relookup hlookup _ value hvalue, Entry.Alike.metadataItem he]
      exact (Eval.Matches.refl _).bind_eq fun text => .pure (he.withText text)
    | function span name arguments =>
      have harguments : ∀ a ∈ arguments, (TreeNode.argument a).Flat := fun a ha =>
        hfirst.child (by simp [TreeNode.children, ha])
      rw [evalTransforms, evalTransforms, evalArguments_relookup hlookup item arguments harguments]
      refine (Eval.Matches.refl _).bind_eq fun args => ?_
      refine (Eval.Matches.look fun w => ?_).bind fun made made' hmade => ih hmore hmade
      rw [run_withLookup]
      refine ItemCall.matches_run ?_ args h
      exact ⟨Text.eqIgnoreCase_self _, rfl⟩

/-- The entries after a chain are those of its second part, applied to those of its first. -/
theorem evalTransforms_append (s : Setting) (item : Option Item) (list itemType : String)
    (entries : List Entry) (first second : List Transform) :
    evalTransforms s item list itemType entries (first ++ second) = (do
      let made ← evalTransforms s item list itemType entries first
      evalTransforms s item list itemType made second) := by
  induction first generalizing entries with
  | nil => rw [List.nil_append, evalTransforms, pure_bind]
  | cons t first ih =>
    cases t with
    | pattern span value => simp only [List.cons_append, evalTransforms, ih, bind_assoc]
    | function span name arguments => simp only [List.cons_append, evalTransforms, ih, bind_assoc]

end BuildExpr
