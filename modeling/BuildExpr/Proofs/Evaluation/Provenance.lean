import BuildExpr.Proofs.Evaluation.Result
import BuildExpr.Proofs.Except
import Mathlib.Data.List.NodupEquivFin
import Mathlib.Order.Fin.Basic

/-!
# Where entries come from

The stages of an item list that neither reverse it, nor count or look at it as a whole, nor give
their entries other items, make each entry from an entry before them: in order, with its source,
and at most one from each unless the stage reads lists of metadata (`ItemCall.inOrder_run`). So the
sources of the entries after a chain of them are items of the list in order
(`inOrder_evalTransforms`).

`InOrder once R made given` says that every element of `made` comes from an element of `given`, and
that the elements they come from do not go back in `given`; with `once` no two come from the same.
Such lists compose (`InOrder.trans`), so a chain of steps is in order when each step is.
-/

namespace BuildExpr

/-! ## Lists made from lists in order -/

section

variable {α β γ : Type}

/-- Whether every element of a list comes, by `R`, from an element of another, at places that do
not go back and, with `once`, do not stay. -/
def InOrder (once : Prop) (R : α → β → Prop) (made : List α) (given : List β) : Prop :=
  ∃ place : Fin made.length → Fin given.length,
    Monotone place ∧ (once → StrictMono place) ∧ ∀ i, R (made.get i) (given.get (place i))

namespace InOrder

variable {once : Prop} {R : α → β → Prop} {made : List α} {given : List β}

theorem nil : InOrder once R [] given :=
  ⟨fun i => i.elim0, fun i => i.elim0, fun _ i => i.elim0, fun i => i.elim0⟩

theorem mono {once' : Prop} {R' : α → β → Prop} (h : InOrder once R made given)
    (honce : once' → once) (hR : ∀ a b, R a b → R' a b) : InOrder once' R' made given := by
  obtain ⟨place, hmono, hstrict, hplace⟩ := h
  exact ⟨place, hmono, fun h => hstrict (honce h), fun i => hR _ _ (hplace i)⟩

theorem trans {S : β → γ → Prop} {T : α → γ → Prop} {first : List γ}
    (h : InOrder once R made given) (h' : InOrder once S given first)
    (hT : ∀ a b c, R a b → S b c → T a c) : InOrder once T made first := by
  obtain ⟨place, hmono, hstrict, hplace⟩ := h
  obtain ⟨place', hmono', hstrict', hplace'⟩ := h'
  exact ⟨place' ∘ place, hmono'.comp hmono, fun ho => (hstrict' ho).comp (hstrict ho),
    fun i => hT _ _ _ (hplace i) (hplace' (place i))⟩

theorem of_sublist {R : α → α → Prop} {made given : List α} (h : made.Sublist given)
    (hR : ∀ a, R a a) : InOrder once R made given := by
  obtain ⟨place, hplace⟩ := List.sublist_iff_exists_fin_orderEmbedding_get_eq.1 h
  refine ⟨place, place.monotone, fun _ => place.strictMono, fun i => ?_⟩
  rw [hplace i]
  exact hR _

theorem of_forall₂ (h : List.Forall₂ R made given) : InOrder once R made given := by
  have hlength := h.length_eq
  refine ⟨Fin.cast hlength, fun i j hij => hij, fun _ i j hij => hij, fun i => ?_⟩
  exact h.get i.2 (by omega)

theorem map {f : β → α} (hR : ∀ b ∈ given, R (f b) b) : InOrder once R (given.map f) given :=
  of_forall₂ <| List.forall₂_map_left_iff.2 <| List.forall₂_same.2 hR

/-- What the first element of a list gives, and behind it what the others give. -/
theorem append_cons {first others : List α} {b : β} (hfirst : ∀ a ∈ first, R a b)
    (honce : once → first.length ≤ 1) (h : InOrder once R others given) :
    InOrder once R (first ++ others) (b :: given) := by
  obtain ⟨place, hmono, hstrict, hplace⟩ := h
  have hlength (i : Fin (first ++ others).length) (hi : ¬i.1 < first.length) :
      i.1 - first.length < others.length := by
    have hlt : i.1 < (first ++ others).length := i.2
    simp only [List.length_append] at hlt
    omega
  refine ⟨fun i => if hi : i.1 < first.length then 0
    else (place ⟨i.1 - first.length, hlength i hi⟩).succ, fun i j hij => ?_, fun ho i j hij => ?_,
    fun i => ?_⟩
  · have hij : i.1 ≤ j.1 := hij
    by_cases hi : i.1 < first.length
    · simp only [dif_pos hi]
      exact Fin.zero_le _
    · simp only [dif_neg hi, dif_neg (show ¬j.1 < first.length by omega), Fin.succ_le_succ_iff]
      exact hmono (show i.1 - first.length ≤ j.1 - first.length by omega)
  · have hij : i.1 < j.1 := hij
    have hone := honce ho
    have hj : ¬j.1 < first.length := by omega
    by_cases hi : i.1 < first.length
    · simp only [dif_pos hi, dif_neg hj]
      exact Fin.succ_pos _
    · simp only [dif_neg hi, dif_neg hj, Fin.succ_lt_succ_iff]
      exact hstrict ho (show i.1 - first.length < j.1 - first.length by omega)
  · by_cases hi : i.1 < first.length
    · simp only [dif_pos hi, List.get_eq_getElem, List.getElem_append_left hi]
      exact hfirst _ (List.getElem_mem hi)
    · have := hplace ⟨i.1 - first.length, hlength i hi⟩
      simpa only [dif_neg hi, List.get_eq_getElem, List.getElem_append_right (Nat.le_of_not_lt hi),
        Fin.val_succ, List.getElem_cons_succ] using this

end InOrder

end

/-! ## Stages -/

/-- Whether the entries after a stage are made from single entries before it, in order and with
their sources. -/
def ItemFunction.keepsOrder : ItemFunction → Bool
  | distinct _ | metadata | directoryName | existing | combine | hasMetadata | metadataValue _
  | reserved _ | member => true
  | count | reverse | directoriesAbove | anyHaveMetadataValue | clearMetadata => false

/-- Whether a stage is made from single entries before it, in order and with their sources. -/
def Transform.keepsOrder : Transform → Bool
  | .pattern _ _ => true
  | .function _ name _ => (ItemFunction.ofName name.text).keepsOrder

/-- Whether a stage may make several entries from one. -/
def Transform.fansOut : Transform → Bool
  | .pattern _ _ => false
  | .function _ name _ => ItemFunction.ofName name.text == .metadata

/-- Entries that are made from entries in order and keep their sources. -/
abbrev SourcesInOrder (once : Prop) (made entries : List Entry) : Prop :=
  InOrder once (fun e e' : Entry => e.source = e'.source) made entries

namespace Entries

theorem inOrder_filled (once : Prop) (entries : List Entry) :
    SourcesInOrder once (filled entries) entries :=
  .of_sublist List.filter_sublist fun _ => rfl

theorem source_of_mem_filled {e made : Entry} (h : made ∈ filled [e]) : made.source = e.source := by
  rw [List.mem_singleton.1 (List.mem_of_mem_filter h)]

theorem length_filled_le (entries : List Entry) : (filled entries).length ≤ entries.length :=
  List.length_filter_le _ _

end Entries

namespace ItemCall

theorem inOrder_replaceEach {once : Prop} {f : Entry → Except Diagnostic (List Entry)}
    (hf : ∀ e made, f e = .ok made →
      (∀ e' ∈ made, e'.source = e.source) ∧ (once → made.length ≤ 1))
    {entries made : List Entry} (h : replaceEach f entries = .ok made) :
    SourcesInOrder once made entries := by
  induction entries generalizing made with
  | nil =>
    cases h
    exact .nil
  | cons e entries ih =>
    obtain ⟨first, hfirst, h⟩ := Except.bind_eq_ok.1 h
    obtain ⟨others, hothers, hreturn⟩ := Except.bind_eq_ok.1 h
    cases hreturn
    exact .append_cons (hf e first hfirst).1 (hf e first hfirst).2 (ih hothers)

theorem sublist_of_keep {test : Entry → Except Diagnostic Bool} {entries made : List Entry}
    (h : keep test entries = .ok made) : made.Sublist entries := by
  induction entries generalizing made with
  | nil =>
    cases h
    exact .refl _
  | cons e entries ih =>
    obtain ⟨kept, -, h⟩ := Except.bind_eq_ok.1 h
    obtain ⟨others, hothers, hreturn⟩ := Except.bind_eq_ok.1 h
    cases hreturn
    cases kept with
    | true => exact (ih hothers).cons_cons e
    | false => exact (ih hothers).cons e

theorem sublist_firstsFrom (key : Entry → String) (seen : List String) (entries : List Entry) :
    (firstsFrom key seen entries).Sublist entries := by
  induction entries generalizing seen with
  | nil => exact .refl _
  | cons e entries ih =>
    rw [firstsFrom]
    split
    · exact (ih seen).cons e
    · exact (ih _).cons_cons e

theorem sublist_firstOfKey (key : Entry → String) (entries : List Entry) :
    (firstOfKey key entries).Sublist entries := by
  rw [firstOfKey_eq_firstsFrom]
  exact sublist_firstsFrom key [] entries

variable {call : ItemCall} {s : Setting} {w : World}

theorem source_of_mem_spreadMetadata {name : String} {e : Entry} {made : List Entry}
    (h : call.spreadMetadata w name e = .ok made) : ∀ e' ∈ made, e'.source = e.source := by
  obtain ⟨value, -, h⟩ := Except.bind_eq_ok.1 h
  intro e' he'
  split at h
  · cases h
    obtain ⟨piece, -, rfl⟩ := List.mem_map.1 he'
    rfl
  · cases h
    exact Entries.source_of_mem_filled (e := { e with text := value }) he'

theorem source_withPlain (e : Entry) (text : List Char) : (e.withPlain text).source = e.source := rfl

theorem filled_option_withPlain (e : Entry) (text : Option (List Char)) :
    (∀ e' ∈ Entries.filled (text.toList.map e.withPlain), e'.source = e.source) ∧
      (Entries.filled (text.toList.map e.withPlain)).length ≤ 1 := by
  refine ⟨fun e' he' => ?_, (Entries.length_filled_le _).trans ?_⟩
  · obtain ⟨cs, -, rfl⟩ := List.mem_map.1 (List.mem_of_mem_filter he')
    rfl
  · cases text <;> simp

theorem filled_withText (e : Entry) (text : String) :
    (∀ e' ∈ Entries.filled [{ e with text := text }], e'.source = e.source) ∧
      (Entries.filled [{ e with text := text }]).length ≤ 1 :=
  ⟨fun _ he' => Entries.source_of_mem_filled (e := { e with text := text }) he',
    Entries.length_filled_le [{ e with text := text }]⟩

/-- A named stage keeps order and sources. -/
theorem inOrder_run {args : List Value} {entries made : List Entry}
    (hf : (ItemFunction.ofName call.name).keepsOrder = true)
    (h : call.run s w args entries = .ok made) :
    SourcesInOrder ((ItemFunction.ofName call.name == .metadata) = false) made entries := by
  have hrefl (e : Entry) : e.source = e.source := rfl
  rw [run] at h
  cases hname : ItemFunction.ofName call.name with
  | count | reverse | directoriesAbove | anyHaveMetadataValue | clearMetadata =>
    rw [hname] at hf
    cases hf
  | distinct caseMatters =>
    simp only [hname, ItemFunction.arity?] at h
    obtain ⟨_, -, h⟩ := Except.bind_eq_ok.1 h
    cases caseMatters <;>
    · cases h
      exact .of_sublist (sublist_firstOfKey _ entries) hrefl
  | metadata =>
    simp only [hname, ItemFunction.arity?] at h
    obtain ⟨_, -, h⟩ := Except.bind_eq_ok.1 h
    exact inOrder_replaceEach (fun e made he =>
      ⟨source_of_mem_spreadMetadata he, fun honce => by cases honce⟩) h
  | directoryName =>
    simp only [hname, ItemFunction.arity?] at h
    obtain ⟨_, -, h⟩ := Except.bind_eq_ok.1 h
    refine (inOrder_replaceEach (fun e made he => ?_) h).trans (Entries.inOrder_filled _ entries)
      fun _ _ _ => Eq.trans
    obtain ⟨p, -, hreturn⟩ := Except.bind_eq_ok.1 he
    cases hreturn
    exact ⟨(filled_option_withPlain e _).1, fun _ => (filled_option_withPlain e _).2⟩
  | existing =>
    simp only [hname, ItemFunction.arity?] at h
    obtain ⟨_, -, h⟩ := Except.bind_eq_ok.1 h
    exact .of_sublist ((sublist_of_keep h).trans List.filter_sublist) hrefl
  | combine =>
    simp only [hname, ItemFunction.arity?] at h
    obtain ⟨_, -, h⟩ := Except.bind_eq_ok.1 h
    obtain rfl := Except.ok.inj h
    exact .map fun e _ => source_withPlain e _
  | hasMetadata | metadataValue wanted =>
    simp only [hname, ItemFunction.arity?] at h
    obtain ⟨_, -, h⟩ := Except.bind_eq_ok.1 h
    exact .of_sublist (sublist_of_keep h) hrefl
  | reserved name =>
    simp only [hname, ItemFunction.arity?] at h
    obtain ⟨_, -, h⟩ := Except.bind_eq_ok.1 h
    refine (inOrder_replaceEach (fun e made he => ?_) h).trans (Entries.inOrder_filled _ entries)
      fun _ _ _ => Eq.trans
    obtain ⟨value, -, hreturn⟩ := Except.bind_eq_ok.1 he
    cases hreturn
    exact ⟨(filled_withText e value).1, fun _ => (filled_withText e value).2⟩
  | member =>
    simp only [hname, ItemFunction.arity?] at h
    obtain ⟨f, -, h⟩ := Except.bind_eq_ok.1 h
    refine inOrder_replaceEach (fun e made he => ?_) h
    rw [memberOf] at he
    split at he
    · rename_i v _
      cases he
      exact ⟨(filled_withText e v.escaped).1, fun _ => (filled_withText e v.escaped).2⟩
    · cases he

end ItemCall

/-! ## Chains -/

/-- The entries after a pattern. -/
theorem sources_of_pattern {s : Setting} {value : Expression} {entries made : List Entry}
    {w w' : World}
    (h : (entries.mapM fun e => (do
      return { e with text := ← evalExpression s (some e.metadataItem) value } : Eval Entry)).result
        w = (.ok made, w')) :
    List.Forall₂ (fun e e' : Entry => e.source = e'.source) made entries := by
  refine (Eval.forall₂_of_mapM h).flip.imp fun e' e hmade => ?_
  obtain ⟨w₁, w₂, hmade⟩ := hmade
  obtain ⟨text, _, -, hreturn⟩ := Eval.result_bind_eq_ok.1 hmade
  cases hreturn
  rfl

/-- A chain of stages keeps order and sources. -/
theorem inOrder_evalTransforms {s : Setting} {item : Option Item} {list itemType : String}
    {transforms : List Transform} (hkeeps : ∀ t ∈ transforms, t.keepsOrder = true)
    {entries made : List Entry} {w w' : World}
    (h : (evalTransforms s item list itemType entries transforms).result w = (.ok made, w')) :
    SourcesInOrder (∀ t ∈ transforms, t.fansOut = false) made entries := by
  induction transforms generalizing entries w with
  | nil =>
    cases h
    exact .of_sublist (.refl _) fun _ => rfl
  | cons t transforms ih =>
    obtain ⟨hfirst, hmore⟩ := List.forall_mem_cons.1 hkeeps
    have hrest (honce : ∀ u ∈ t :: transforms, u.fansOut = false) :
        ∀ u ∈ transforms, u.fansOut = false := (List.forall_mem_cons.1 honce).2
    cases t with
    | pattern span value =>
      rw [evalTransforms] at h
      obtain ⟨patterned, w₁, hpattern, h⟩ := Eval.result_bind_eq_ok.1 h
      have hstage (once : Prop) : SourcesInOrder once (Entries.filled patterned) entries :=
        (Entries.inOrder_filled once patterned).trans
          (.of_forall₂ (sources_of_pattern hpattern)) fun _ _ _ => Eq.trans
      exact ((ih hmore h).mono hrest fun _ _ => id).trans (hstage _) fun _ _ _ => Eq.trans
    | function span name arguments =>
      rw [evalTransforms] at h
      obtain ⟨args, w₁, -, h⟩ := Eval.result_bind_eq_ok.1 h
      obtain ⟨run, w₂, hrun, h⟩ := Eval.result_bind_eq_ok.1 h
      rw [Eval.result_look] at hrun
      have hstage := ItemCall.inOrder_run (by exact hfirst) (Prod.mk.inj hrun).1
      have honce : (∀ u ∈ Transform.function span name arguments :: transforms,
          u.fansOut = false) → (ItemFunction.ofName name.text == .metadata) = false :=
        fun honce => honce _ List.mem_cons_self
      exact ((ih hmore h).mono hrest fun _ _ => id).trans (hstage.mono honce fun _ _ => id)
        fun _ _ _ => Eq.trans

end BuildExpr
