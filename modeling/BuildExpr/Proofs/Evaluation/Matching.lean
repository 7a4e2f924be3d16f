import BuildExpr.Proofs.Evaluation.Names
import BuildExpr.Proofs.Evaluation.Result

/-!
# Evaluations that match

Two evaluations match (`Eval.Matches`) when from the same surroundings both succeed with related
values or both fail with the same kind and code, and leave the same surroundings. Entries are
similar when they have one text and come from items with the same metadata and project, whatever
their includes are. The text of an entry stands for the include of its item, so the item functions
of two calls that differ in how they are spelled match over similar entries (`ItemCall.matches_run`).
-/

namespace BuildExpr

variable {α β γ δ : Type}

/-! ## Failing in the same way -/

/-- Whether two reports are of one kind of failure and have one code. -/
def Diagnostic.SameFailure (d d' : Diagnostic) : Prop := d.kind = d'.kind ∧ d.code = d'.code

theorem Diagnostic.SameFailure.refl (d : Diagnostic) : d.SameFailure d := ⟨rfl, rfl⟩

/-- Two outcomes that are related values, or failures of the same kind and code. -/
inductive Except.Matches (R : α → β → Prop) : Except Diagnostic α → Except Diagnostic β → Prop
  | ok {a : α} {b : β} (h : R a b) : Matches R (.ok a) (.ok b)
  | error {d d' : Diagnostic} (h : d.SameFailure d') : Matches R (.error d) (.error d')

namespace Except.Matches

variable {R : α → β → Prop} {S : γ → δ → Prop}

theorem refl (x : Except Diagnostic α) : Matches (· = ·) x x := by
  cases x with
  | ok a => exact .ok rfl
  | error d => exact .error (.refl d)

theorem mono {R' : α → β → Prop} {x : Except Diagnostic α} {y : Except Diagnostic β}
    (h : Matches R x y) (hR : ∀ a b, R a b → R' a b) : Matches R' x y := by
  cases h with
  | ok hab => exact .ok (hR _ _ hab)
  | error hd => exact .error hd

theorem mapError {x : Except Diagnostic α} {y : Except Diagnostic β} {f : Diagnostic → Diagnostic}
    (h : Matches R x y) (hf : ∀ d d', d.SameFailure d' → (f d).SameFailure (f d')) :
    Matches R (x.mapError f) (y.mapError f) := by
  cases h with
  | ok hab => exact .ok hab
  | error hd => exact .error (hf _ _ hd)

theorem bind {x : Except Diagnostic α} {y : Except Diagnostic β} {f : α → Except Diagnostic γ}
    {g : β → Except Diagnostic δ} (h : Matches R x y)
    (hf : ∀ a b, R a b → Matches S (f a) (g b)) : Matches S (x >>= f) (y >>= g) := by
  cases h with
  | ok hab => exact hf _ _ hab
  | error hd => exact .error hd

end Except.Matches

namespace Eval

/-- Evaluations that succeed with related values or fail with the same kind and code, and leave the
same surroundings. -/
def Matches (R : α → β → Prop) (f : Eval α) (g : Eval β) : Prop :=
  ∀ w, Except.Matches R (f.result w).1 (g.result w).1 ∧ (f.result w).2 = (g.result w).2

namespace Matches

variable {R : α → β → Prop} {S : γ → δ → Prop} {f : Eval α} {g : Eval β}

theorem refl (f : Eval α) : Matches (· = ·) f f := fun _ => ⟨.refl _, rfl⟩

theorem pure {a : α} {b : β} (h : R a b) : Matches R (Pure.pure a) (Pure.pure b) :=
  fun _ => ⟨.ok h, rfl⟩

theorem throw {d d' : Diagnostic} (h : d.SameFailure d') :
    Matches R (throw d : Eval α) (throw d' : Eval β) := fun _ => ⟨.error h, rfl⟩

theorem look {f : World → Except Diagnostic α} {g : World → Except Diagnostic β}
    (h : ∀ w, Except.Matches R (f w) (g w)) : Matches R (look f) (look g) := by
  intro w
  rw [result_look, result_look]
  exact ⟨h w, rfl⟩

theorem bind {f' : α → Eval γ} {g' : β → Eval δ} (h : Matches R f g)
    (hnext : ∀ a b, R a b → Matches S (f' a) (g' b)) : Matches S (f >>= f') (g >>= g') := by
  intro w
  have hw := h w
  rw [result_bind, result_bind]
  generalize f.result w = x at hw
  generalize g.result w = y at hw
  obtain ⟨x, w₁⟩ := x
  obtain ⟨y, w₂⟩ := y
  obtain ⟨hanswer, rfl⟩ : Except.Matches R x y ∧ w₁ = w₂ := hw
  cases hanswer with
  | ok hab => exact hnext _ _ hab w₁
  | error hd => exact ⟨.error hd, rfl⟩

/-- Matching evaluations of one value, followed by matching ones. -/
theorem bind_eq {f g : Eval α} {f' : α → Eval γ} {g' : α → Eval δ} (h : Matches (· = ·) f g)
    (hnext : ∀ a, Matches S (f' a) (g' a)) : Matches S (f >>= f') (g >>= g') := by
  refine h.bind ?_
  rintro a _ rfl
  exact hnext a

theorem mapM {f' : α → Eval γ} {g' : β → Eval δ}
    (hnext : ∀ a b, R a b → Matches S (f' a) (g' b)) {as : List α} {bs : List β}
    (h : List.Forall₂ R as bs) : Matches (List.Forall₂ S) (as.mapM f') (bs.mapM g') := by
  induction h with
  | nil => exact pure .nil
  | cons hab _ ih =>
    rw [List.mapM_cons, List.mapM_cons]
    exact (hnext _ _ hab).bind fun _ _ hfirst => ih.bind fun _ _ hrest => pure (.cons hfirst hrest)

theorem exists_result (h : Matches R f g) {a : α} {w w' : World} (hf : f.result w = (.ok a, w')) :
    ∃ b, g.result w = (.ok b, w') ∧ R a b := by
  have hw := h w
  rw [hf] at hw
  generalize g.result w = y at hw
  obtain ⟨y, w₂⟩ := y
  obtain ⟨hanswer, rfl⟩ : Except.Matches R (.ok a) y ∧ w' = w₂ := hw
  cases hanswer with
  | ok hab => exact ⟨_, rfl, hab⟩

/-- What one of two matching evaluations answers, the other does. -/
theorem result_eq_ok_iff {f g : Eval α} (h : Matches (· = ·) f g) {a : α} {w w' : World} :
    f.result w = (.ok a, w') ↔ g.result w = (.ok a, w') := by
  constructor
  · intro hf
    obtain ⟨b, hg, rfl⟩ := h.exists_result hf
    exact hg
  · intro hg
    have hw := h w
    rw [hg] at hw
    generalize f.result w = x at hw
    obtain ⟨x, w₁⟩ := x
    obtain ⟨hanswer, rfl⟩ : Except.Matches (· = ·) x (.ok a) ∧ w₁ = w' := hw
    cases hanswer with
    | ok hab => rw [hab]

end Matches

end Eval

/-! ## Similar items and entries -/

/-- Items with the same metadata and project and with related types. -/
structure Item.Similar (T : String → String → Prop) (i i' : Item) : Prop where
  metadata : i.metadata = i'.metadata
  definingProject : i.definingProject = i'.definingProject
  itemType : T i.itemType i'.itemType

/-- Entries with one text that come from similar items. -/
structure Entry.Similar (T : String → String → Prop) (e e' : Entry) : Prop where
  text : e.text = e'.text
  source : Option.Rel (Item.Similar T) e.source e'.source

variable {T : String → String → Prop}

/-- The values of metadata do not depend on the type of an item. -/
theorem Item.Similar.metadataValue_eq {i i' : Item} (h : i.Similar T i') (hspec : i.spec = i'.spec)
    (w : World) (name : String) : i.metadataValue w name = i'.metadataValue w name := by
  obtain ⟨itemType, spec, metadata, definingProject⟩ := i
  obtain ⟨itemType', spec', metadata', definingProject'⟩ := i'
  obtain rfl : spec = spec' := hspec
  obtain rfl : metadata = metadata' := h.metadata
  obtain rfl : definingProject = definingProject' := h.definingProject
  rfl

theorem Item.Similar.reservedMetadata_eq {i i' : Item} (h : i.Similar T i')
    (hspec : i.spec = i'.spec) (w : World) (name : Reserved) :
    i.reservedMetadata w name = i'.reservedMetadata w name := by
  obtain ⟨itemType, spec, metadata, definingProject⟩ := i
  obtain ⟨itemType', spec', metadata', definingProject'⟩ := i'
  obtain rfl : spec = spec' := hspec
  obtain rfl : metadata = metadata' := h.metadata
  obtain rfl : definingProject = definingProject' := h.definingProject
  rfl

namespace Entry

/-- The item that answers for an entry has the text of the entry. -/
theorem metadataItem_eq (e : Entry) :
    e.metadataItem =
      (e.source.map fun i => { i with spec := e.text }).getD { itemType := "", spec := e.text } := by
  rw [metadataItem]
  cases e.source with
  | none => rfl
  | some source =>
    by_cases hspec : (source.spec == e.text) = true
    · obtain hspec' : source.spec = e.text := beq_iff_eq.1 hspec
      simp [← hspec']
    · simp [hspec, Item.derive]

theorem spec_metadataItem (e : Entry) : e.metadataItem.spec = e.text := by
  rw [metadataItem_eq]
  cases e.source <;> rfl

namespace Similar

variable {e e' : Entry}

theorem refl (hT : ∀ t, T t t) (e : Entry) : e.Similar T e := by
  refine ⟨rfl, ?_⟩
  cases e.source with
  | none => exact .none
  | some i => exact .some ⟨rfl, rfl, hT i.itemType⟩

theorem plain (h : e.Similar T e') : e.plain = e'.plain := by rw [Entry.plain, h.text, ← Entry.plain]

theorem isEmpty (h : e.Similar T e') : e.text.isEmpty = e'.text.isEmpty := by rw [h.text]

theorem source_cases (h : e.Similar T e') :
    (e.source = none ∧ e'.source = none) ∨
      ∃ i i', e.source = some i ∧ e'.source = some i' ∧ i.Similar T i' := by
  have hsource := h.source
  generalize e.source = source at hsource
  generalize e'.source = source' at hsource
  cases hsource with
  | none => exact .inl ⟨rfl, rfl⟩
  | some hi => exact .inr ⟨_, _, rfl, rfl, hi⟩

theorem baseDirectory (h : e.Similar T e') :
    e.source.bind Item.baseDirectory? = e'.source.bind Item.baseDirectory? := by
  obtain ⟨hnone, hnone'⟩ | ⟨i, i', hi, hi', hsimilar⟩ := h.source_cases
  · rw [hnone, hnone']
  · simp only [hi, hi', Option.bind_some, Item.baseDirectory?, hsimilar.definingProject]

/-- Similar entries stay so with a new text. -/
theorem withText (h : e.Similar T e') (text : String) :
    Similar T { e with text := text } { e' with text := text } := ⟨rfl, h.source⟩

/-- An entry without an item is similar to itself. -/
theorem of_text (text : String) : Similar T { text } { text } := ⟨rfl, .none⟩

theorem metadataItem (h : e.Similar T e') (hT : T "" "") :
    Item.Similar T e.metadataItem e'.metadataItem := by
  rw [metadataItem_eq, metadataItem_eq]
  obtain ⟨hnone, hnone'⟩ | ⟨i, i', hi, hi', hsimilar⟩ := h.source_cases
  · rw [hnone, hnone']
    exact ⟨rfl, rfl, hT⟩
  · rw [hi, hi']
    exact ⟨hsimilar.metadata, hsimilar.definingProject, hsimilar.itemType⟩

/-- The items that answer for similar entries have the same metadata. -/
theorem metadataItem_similar (h : e.Similar T e') :
    Item.Similar (fun _ _ => True) e.metadataItem e'.metadataItem ∧
      e.metadataItem.spec = e'.metadataItem.spec := by
  have hloose : e.Similar (fun _ _ => True) e' := by
    refine ⟨h.text, ?_⟩
    obtain ⟨hnone, hnone'⟩ | ⟨i, i', hi, hi', hsimilar⟩ := h.source_cases
    · rw [hnone, hnone']
      exact .none
    · rw [hi, hi']
      exact .some ⟨hsimilar.metadata, hsimilar.definingProject, trivial⟩
  refine ⟨hloose.metadataItem trivial, ?_⟩
  rw [spec_metadataItem, spec_metadataItem, h.text]

end Similar

end Entry

namespace Entries

/-- Lists of entries that are similar one by one. -/
abbrev Similar (T : String → String → Prop) : List Entry → List Entry → Prop :=
  List.Forall₂ (Entry.Similar T)

variable {entries entries' : List Entry}

theorem Similar.refl (hT : ∀ t, T t t) (entries : List Entry) : Similar T entries entries :=
  List.forall₂_same.2 fun e _ => .refl hT e

theorem Similar.filled (h : Similar T entries entries') :
    Similar T (filled entries) (filled entries') := by
  induction h with
  | nil => exact .nil
  | cons hfirst _ ih =>
    simp only [Entries.filled, List.filter_cons, hfirst.isEmpty] at ih ⊢
    split
    · exact .cons hfirst ih
    · exact ih

theorem similar_filled_withText {e e' : Entry} (h : e.Similar T e') (text : String) :
    Similar T (filled [{ e with text := text }]) (filled [{ e' with text := text }]) :=
  Similar.filled (.cons (h.withText text) .nil)

/-- Entries without items are similar to themselves. -/
theorem similar_of_source {entries : List Entry} (h : ∀ e ∈ entries, e.source = none) :
    Similar T entries entries := by
  refine List.forall₂_same.2 fun e he => ⟨rfl, ?_⟩
  rw [h e he]
  exact .none

/-- The entries that a list shows, of similar entries. -/
theorem Similar.shown (h : Similar T entries entries') (s : Setting) :
    Similar T (s.shownEntries entries) (s.shownEntries entries') := by
  rw [Setting.shownEntries, Setting.shownEntries, h.length_eq]
  split
  · exact List.rel_append (List.forall₂_take _ h) (.cons (.of_text _) .nil)
  · exact h

/-- The texts of similar entries, with separators that match. -/
theorem matches_join {separator separator' : Entry → Eval String}
    (hseparator : ∀ e e' : Entry, e.Similar T e' →
      Eval.Matches (· = ·) (separator e) (separator' e'))
    (h : Similar T entries entries') :
    Eval.Matches (· = ·) (join separator entries) (join separator' entries') := by
  induction h with
  | nil => exact .pure rfl
  | cons hfirst hmore ih =>
    cases hmore with
    | nil => exact .pure hfirst.text
    | cons hnext hrest =>
      refine (hseparator _ _ hfirst).bind_eq fun between => ih.bind_eq fun tail => ?_
      rw [hfirst.text]
      exact .refl _

end Entries

/-! ## Item functions -/

/-- Calls of one item function over items of related types, in whatever case its name is written. -/
structure ItemCall.Similar (T : String → String → Prop) (call call' : ItemCall) : Prop where
  name : Text.SameName call.name call'.name
  itemType : T call.itemType call'.itemType

namespace ItemCall

variable {call call' : ItemCall} {s : Setting} {w : World} {entries entries' : List Entry}

/-! ### Over all entries -/

theorem matches_replaceEach {R : Entry → Entry → Prop}
    {f g : Entry → Except Diagnostic (List Entry)}
    (hfg : ∀ e e' : Entry, e.Similar T e' → Except.Matches (List.Forall₂ R) (f e) (g e'))
    (h : Entries.Similar T entries entries') :
    Except.Matches (List.Forall₂ R) (replaceEach f entries) (replaceEach g entries') := by
  induction h with
  | nil => exact .ok .nil
  | cons hfirst _ ih =>
    exact (hfg _ _ hfirst).bind fun _ _ hmade => ih.bind fun _ _ hothers =>
      .ok (List.rel_append hmade hothers)

theorem matches_keep {test test' : Entry → Except Diagnostic Bool}
    (htest : ∀ e e' : Entry, e.Similar T e' → Except.Matches (· = ·) (test e) (test' e'))
    (h : Entries.Similar T entries entries') :
    Except.Matches (Entries.Similar T) (keep test entries) (keep test' entries') := by
  induction h with
  | nil => exact .ok .nil
  | cons hfirst _ ih =>
    refine (htest _ _ hfirst).bind ?_
    rintro kept _ rfl
    refine ih.bind fun others others' hothers => ?_
    cases kept with
    | true => exact .ok (.cons hfirst hothers)
    | false => exact .ok hothers

theorem matches_anyPasses {test test' : Entry → Except Diagnostic Bool}
    (htest : ∀ e e' : Entry, e.Similar T e' → Except.Matches (· = ·) (test e) (test' e'))
    (h : Entries.Similar T entries entries') :
    Except.Matches (· = ·) (anyPasses test entries) (anyPasses test' entries') := by
  induction h with
  | nil => exact .ok rfl
  | cons hfirst _ ih =>
    refine (htest _ _ hfirst).bind ?_
    rintro passed _ rfl
    cases passed with
    | true => exact .ok rfl
    | false => exact ih

theorem similar_firstsFrom {key : Entry → String}
    (hkey : ∀ e e' : Entry, e.Similar T e' → key e = key e') (seen : List String)
    (h : Entries.Similar T entries entries') :
    Entries.Similar T (firstsFrom key seen entries) (firstsFrom key seen entries') := by
  induction h generalizing seen with
  | nil => exact .nil
  | cons hfirst _ ih =>
    rw [firstsFrom, firstsFrom, hkey _ _ hfirst]
    split
    · exact ih seen
    · exact .cons hfirst (ih _)

theorem similar_firstOfKey {key : Entry → String}
    (hkey : ∀ e e' : Entry, e.Similar T e' → key e = key e')
    (h : Entries.Similar T entries entries') :
    Entries.Similar T (firstOfKey key entries) (firstOfKey key entries') := by
  rw [firstOfKey_eq_firstsFrom, firstOfKey_eq_firstsFrom]
  exact similar_firstsFrom hkey [] h

/-! ### On one entry -/

theorem matches_operand (call call' : ItemCall) (x : Except Fault α) :
    Except.Matches (· = ·) (call.operand x) (call'.operand x) := by
  cases x with
  | ok a => exact .ok rfl
  | error cause => exact .error ⟨rfl, rfl⟩

theorem rootedPath_similar {e e' : Entry} (h : e.Similar T e') :
    rootedPath s w e = rootedPath s w e' := by
  simp only [rootedPath, h.plain, h.baseDirectory]

theorem matches_metadataValue (call call' : ItemCall) {name : String} {e e' : Entry}
    (h : e.Similar T e') :
    Except.Matches (· = ·) (call.metadataValue w name e) (call'.metadataValue w name e') := by
  obtain ⟨hsimilar, hspec⟩ := h.metadataItem_similar
  rw [metadataValue, metadataValue, hsimilar.metadataValue_eq hspec]
  split
  · exact .ok rfl
  · exact .error ⟨rfl, rfl⟩

theorem matches_spreadMetadata (call call' : ItemCall) {name : String} {e e' : Entry}
    (h : e.Similar T e') :
    Except.Matches (Entries.Similar T) (call.spreadMetadata w name e)
      (call'.spreadMetadata w name e') := by
  refine (matches_metadataValue call call' h).bind ?_
  rintro value _ rfl
  split
  · refine .ok (List.forall₂_map_left_iff.2 (List.forall₂_map_right_iff.2 ?_))
    exact List.forall₂_same.2 fun piece _ => h.withText piece
  · exact .ok (Entries.similar_filled_withText h value)

theorem matches_directoryOf (call call' : ItemCall) {e e' : Entry} (h : e.Similar T e') :
    Except.Matches (Entries.Similar T) (call.directoryOf s w e) (call'.directoryOf s w e') := by
  rw [directoryOf, directoryOf, rootedPath_similar h]
  refine (matches_operand call call' _).bind ?_
  rintro p _ rfl
  refine .ok (Entries.Similar.filled ?_)
  cases Path.directoryName? p with
  | none => exact .nil
  | some directory => exact .cons (h.withText _) .nil

theorem matches_isThere (call call' : ItemCall) {e e' : Entry} (h : e.Similar T e') :
    Except.Matches (· = ·) (call.isThere s w e) (call'.isThere s w e') := by
  rw [isThere, isThere, rootedPath_similar h]
  refine (matches_operand call call' _).bind ?_
  rintro p _ rfl
  exact .ok rfl

/-- The directories above similar entries are the same, since they have no sources. -/
theorem matches_directoriesAbove (call call' : ItemCall) {e e' : Entry} (h : e.Similar T e') :
    Except.Matches (List.Forall₂ (· = ·)) (call.directoriesAbove s w e)
      (call'.directoriesAbove s w e') := by
  rw [directoriesAbove, directoriesAbove, rootedPath_similar h]
  refine (matches_operand call call' _).bind ?_
  rintro p _ rfl
  exact .ok (List.forall₂_refl _)

theorem matches_hasValue (call call' : ItemCall) {name value : String} {e e' : Entry}
    (h : e.Similar T e') :
    Except.Matches (· = ·) (call.hasValue w name value e) (call'.hasValue w name value e') := by
  refine (matches_metadataValue call call' h).bind ?_
  rintro found _ rfl
  exact .ok rfl

theorem matches_computed (call call' : ItemCall) {name : Reserved} {e e' : Entry}
    (h : e.Similar T e') :
    Except.Matches (Entries.Similar T) (call.computed w name e) (call'.computed w name e') := by
  obtain ⟨hsimilar, hspec⟩ := h.metadataItem_similar
  rw [computed, computed, hsimilar.reservedMetadata_eq hspec]
  refine (matches_operand call call' _).bind ?_
  rintro value _ rfl
  exact .ok (Entries.similar_filled_withText h value)

theorem matches_memberOf (call call' : ItemCall) {f : Function} {args : List Value} {e e' : Entry}
    (h : e.Similar T e') :
    Except.Matches (Entries.Similar T) (call.memberOf s w f args e)
      (call'.memberOf s w f args e') := by
  rw [memberOf, memberOf, h.plain]
  split
  · exact .ok (Entries.similar_filled_withText h _)
  · exact .error ⟨rfl, rfl⟩

theorem matches_checkCount (call call' : ItemCall) (args : List Value) (arity : Nat) :
    Except.Matches (· = ·) (call.checkCount args arity) (call'.checkCount args arity) := by
  rw [checkCount, checkCount]
  split
  · exact .ok rfl
  · exact .error ⟨rfl, rfl⟩

theorem matches_resolve (hcall : call.Similar T call') (args : List Value) :
    Except.Matches (· = ·) (call.resolve args) (call'.resolve args) := by
  have hfound := FunctionTable.resolveMember_congr (.text "") hcall.name args.length
  delta resolve
  generalize FunctionTable.resolveMember (.text "") call.name args.length = x at hfound ⊢
  generalize FunctionTable.resolveMember (.text "") call'.name args.length = x' at hfound ⊢
  obtain ⟨f, rfl, rfl⟩ | ⟨_, _, rfl, rfl, _⟩ := FunctionTable.cases_of_mapError hfound
  · exact .ok rfl
  · exact .error ⟨rfl, rfl⟩

theorem similar_cleared (hcall : call.Similar T call') {e e' : Entry} (h : e.Similar T e') :
    (call.cleared e).Similar T (call'.cleared e') := by
  obtain ⟨hnone, hnone'⟩ | ⟨i, i', hi, hi', hsimilar⟩ := h.source_cases
  · refine ⟨h.text, ?_⟩
    rw [cleared, cleared, hnone, hnone']
    exact .some ⟨rfl, rfl, hcall.itemType⟩
  · refine ⟨h.text, ?_⟩
    rw [cleared, cleared, hi, hi']
    exact .some ⟨rfl, hsimilar.definingProject, hsimilar.itemType⟩

/-! ### All of them -/

/-- The same item function gives similar entries for similar entries, or fails in the same way. -/
theorem matches_run (hcall : call.Similar T call') (args : List Value)
    (h : Entries.Similar T entries entries') :
    Except.Matches (Entries.Similar T) (call.run s w args entries)
      (call'.run s w args entries') := by
  have hcount (arity : Nat) := matches_checkCount call call' args arity
  have hsingle (text : String) : Entries.Similar T [{ text }] [{ text }] :=
    .cons (.of_text text) .nil
  rw [run, run, ItemFunction.ofName_congr hcall.name]
  cases ItemFunction.ofName call'.name with
  | count =>
    refine (hcount 0).bind fun _ _ _ => ?_
    rw [h.length_eq]
    exact .ok (hsingle _)
  | distinct caseMatters =>
    refine (hcount 0).bind fun _ _ _ => ?_
    cases caseMatters with
    | true => exact .ok (similar_firstOfKey (fun _ _ he => he.text) h)
    | false => exact .ok (similar_firstOfKey (fun _ _ he => congrArg Text.lower he.text) h)
  | reverse =>
    exact (hcount 0).bind fun _ _ _ => .ok (List.rel_reverse h)
  | metadata =>
    exact (hcount 1).bind fun _ _ _ =>
      matches_replaceEach (fun _ _ he => matches_spreadMetadata call call' he) h
  | directoryName =>
    exact (hcount 0).bind fun _ _ _ =>
      matches_replaceEach (fun _ _ he => matches_directoryOf call call' he) h.filled
  | existing =>
    exact (hcount 0).bind fun _ _ _ =>
      matches_keep (fun _ _ he => matches_isThere call call' he) h.filled
  | combine =>
    refine (hcount 1).bind fun _ _ _ => .ok ?_
    refine List.forall₂_map_left_iff.2 (List.forall₂_map_right_iff.2 (h.imp fun e e' he => ?_))
    rw [Entry.withPlain, Entry.withPlain, he.plain]
    exact he.withText _
  | directoriesAbove =>
    refine (hcount 0).bind fun _ _ _ =>
      (matches_replaceEach (fun _ _ he => matches_directoriesAbove call call' he) h.filled).bind ?_
    intro made made' hmade
    rw [List.forall₂_eq_eq_eq] at hmade
    rw [hmade]
    refine .ok (Entries.similar_of_source fun e he => ?_)
    obtain ⟨_, _, rfl⟩ := List.mem_map.1 he
    rfl
  | anyHaveMetadataValue =>
    refine (hcount 2).bind fun _ _ _ =>
      (matches_anyPasses (fun _ _ he => matches_hasValue call call' he) h).bind ?_
    rintro found _ rfl
    exact .ok (hsingle _)
  | hasMetadata =>
    refine (hcount 1).bind fun _ _ _ => matches_keep (fun e e' he => ?_) h
    refine (matches_metadataValue call call' he).bind ?_
    rintro value _ rfl
    exact .ok rfl
  | metadataValue wanted =>
    refine (hcount 2).bind fun _ _ _ => matches_keep (fun e e' he => ?_) h
    refine (matches_hasValue call call' he).bind ?_
    rintro found _ rfl
    exact .ok rfl
  | clearMetadata =>
    refine (hcount 0).bind fun _ _ _ => .ok ?_
    exact List.forall₂_map_left_iff.2 (List.forall₂_map_right_iff.2
      (h.imp fun _ _ he => similar_cleared hcall he))
  | reserved name =>
    exact (hcount 0).bind fun _ _ _ =>
      matches_replaceEach (fun _ _ he => matches_computed call call' he) h.filled
  | member =>
    refine (matches_resolve hcall args).bind ?_
    rintro f _ rfl
    exact matches_replaceEach (fun _ _ he => matches_memberOf call call' he) h

end ItemCall

end BuildExpr
