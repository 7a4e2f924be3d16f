import BuildExpr.Item.Metadata
import BuildExpr.Proofs.Evaluation.Names
import BuildExpr.Proofs.History
import BuildExpr.Proofs.NameMap

/-!
# Metadata that were set

The metadata of an item after any edits is read off the edits. An entry has the spelling and the
value that its name was set to last, and the entries stand in the order in which their names were
first set since they were last removed (`Item.metadata_afterAll`). Reserved names are refused, with
the exception of `RecursiveDir`.
-/

namespace BuildExpr

theorem Reserved.isSettable_iff {name : String} :
    isSettable name = true ↔ ofName? name = none ∨ ofName? name = some .recursiveDir := by
  rw [isSettable]
  split <;> simp_all

namespace Item

open History Text

/-! ## Edits -/

/-- An edit of an item. -/
inductive Edit
  | set (name value : String)
  | remove (name : String)
  | clear
  | derive (itemType spec : String)

namespace Edit

/-- The item after an edit. -/
def after (item : Item) : Edit → Item
  | set name value => item.setMetadata name value
  | remove name => item.removeMetadata name
  | clear => item.clearMetadata
  | derive itemType spec => item.derive itemType spec

/-- Whether an edit gives a name a value: it sets the name, in any case of letters, and the name it
sets is none of the reserved ones that are refused. -/
def Sets (name : String) : Edit → Prop
  | set n _ => Reserved.isSettable n = true ∧ SameName n name
  | remove _ | clear | derive .. => False

/-- Whether an edit takes the value of a name away. -/
def Drops (name : String) : Edit → Prop
  | remove n => SameName n name
  | clear => True
  | set .. | derive .. => False

/-- Whether an edit decides the value of a name. -/
def Touches (name : String) (e : Edit) : Prop := e.Sets name ∨ e.Drops name

/-- The entry that an edit sets. -/
def given? : Edit → Option (String × String)
  | set name value => some (name, value)
  | remove _ | clear | derive .. => none

theorem sets_congr {name name' : String} (h : SameName name name') : Sets name = Sets name' := by
  funext e
  cases e with
  | set n => simp only [Sets, SameName, eqIgnoreCase, foldAscii_eq h]
  | remove | clear | derive => rfl

theorem drops_congr {name name' : String} (h : SameName name name') :
    Drops name = Drops name' := by
  funext e
  cases e with
  | remove n => simp only [Drops, SameName, eqIgnoreCase, foldAscii_eq h]
  | set | clear | derive => rfl

theorem touches_congr {name name' : String} (h : SameName name name') :
    Touches name = Touches name' := by
  funext e
  rw [Touches, Touches, sets_congr h, drops_congr h]

/-- What the metadata are after an edit. -/
inductive Effect (metadata : NameMap String) : Edit → NameMap String → Prop
  | set {name : String} (value : String) : Reserved.isSettable name = true →
    Effect metadata (.set name value) (metadata.insert name value)
  | refuse {name : String} (value : String) : Reserved.isSettable name = false →
    Effect metadata (.set name value) metadata
  | remove (name : String) : Effect metadata (.remove name) (metadata.erase name)
  | clear : Effect metadata .clear {}
  | derive (itemType spec : String) : Effect metadata (.derive itemType spec) metadata

theorem effect_after (item : Item) (e : Edit) :
    Effect item.metadata e (e.after item).metadata := by
  cases e with
  | set name value =>
    rw [after, setMetadata]
    cases h : Reserved.isSettable name with
    | true => exact .set value h
    | false => exact .refuse value h
  | remove name => exact .remove name
  | clear => exact .clear
  | derive itemType spec => exact .derive itemType spec

namespace Effect

variable {m m' : NameMap String} {e : Edit} {name : String}

theorem entry?_eq (h : Effect m e m') (he : e.Touches name) : m'.entry? name = e.given? := by
  cases h with
  | set value hset =>
    obtain ⟨-, hname⟩ := he.resolve_right id
    rw [NameMap.entry?_insert, if_pos hname, Edit.given?]
  | refuse value hrefuse =>
    obtain ⟨hset, -⟩ := he.resolve_right id
    rw [hset] at hrefuse
    cases hrefuse
  | remove n =>
    have hname : SameName n name := he.resolve_left id
    rw [NameMap.entry?_erase, if_pos hname, Edit.given?]
  | clear => rfl
  | derive => exact (he.elim id id).elim

theorem entry?_eq_of_not (h : Effect m e m') (he : ¬e.Touches name) :
    m'.entry? name = m.entry? name := by
  cases h with
  | set value hset =>
    have hname : ¬SameName _ name := fun hname => he (.inl ⟨hset, hname⟩)
    rw [NameMap.entry?_insert, if_neg hname]
  | remove n =>
    have hname : ¬SameName n name := fun hname => he (.inr hname)
    rw [NameMap.entry?_erase, if_neg hname]
  | clear => exact absurd (.inr trivial) he
  | refuse | derive => rfl

end Effect

theorem decides_entry? (name : String) :
    Decides after (Touches name) given? (fun item => item.metadata.entry? name) :=
  ⟨fun item e he => (effect_after item e).entry?_eq he,
    fun item e he => (effect_after item e).entry?_eq_of_not he⟩

end Edit

/-! ## Runs -/

/-- A new item, edited in turn. -/
def afterAll (itemType spec : String) (project : Option String) (edits : List Edit) : Item :=
  edits.foldl Edit.after { itemType, spec, definingProject := project }

/-- The last edit that decides the value of a name set it, in a certain spelling. -/
def LastSet (edits : List Edit) (name spelled value : String) : Prop :=
  Last (Edit.Touches name) (.set spelled value) edits

/-- A name has a value after edits. -/
def Live (edits : List Edit) (name : String) : Prop :=
  ∃ spelled value, LastSet edits name spelled value

/-- The edit at a place sets a name that has no value before it, and none takes the value away
after it. -/
def InsertedAt (edits : List Edit) (name : String) (place : Nat) : Prop :=
  ∃ before e after, edits = before ++ e :: after ∧ before.length = place ∧
    e.Sets name ∧ ¬Live before name ∧ ∀ f ∈ after, ¬f.Drops name

variable {itemType spec : String} {project : Option String} {edits : List Edit} {e : Edit}
  {name other : String}

theorem afterAll_concat :
    afterAll itemType spec project (edits ++ [e]) =
      e.after (afterAll itemType spec project edits) := by
  rw [afterAll, List.foldl_append]
  rfl

theorem entry?_afterAll {spelled value : String} :
    NameMap.entry? (afterAll itemType spec project edits).metadata name = some (spelled, value) ↔
      LastSet edits name spelled value := by
  have hfirst : NameMap.entry? ({} : NameMap String) name ≠ some (spelled, value) := by
    unfold NameMap.entry?
    simp
  rw [afterAll, (Edit.decides_entry? name).observe_run hfirst edits]
  constructor
  · rintro ⟨e, hlast, he⟩
    cases e with
    | set n v =>
      obtain ⟨rfl, rfl⟩ := Prod.mk.inj (Option.some.inj he)
      exact hlast
    | remove | clear | derive => cases he
  · exact fun hlast => ⟨_, hlast, rfl⟩

theorem live_congr (h : SameName name other) : Live edits name ↔ Live edits other := by
  simp only [Live, LastSet, Edit.touches_congr h]

/-- A name has a value exactly when it is a name of the metadata. -/
theorem live_iff : Live edits name ↔
    ∃ f ∈ (afterAll itemType spec project edits).metadata.entries, SameName f.1 name := by
  rw [← NameMap.isSome_entry?, Option.isSome_iff_exists, Prod.exists]
  simp only [entry?_afterAll, Live]

namespace InsertedAt

variable {place : Nat}

theorem lt_length (h : InsertedAt edits name place) : place < edits.length := by
  obtain ⟨before, e, after, rfl, rfl, -⟩ := h
  simp

/-- A name keeps its place until its value is taken away. -/
theorem concat (h : InsertedAt edits name place) (he : ¬e.Drops name) :
    InsertedAt (edits ++ [e]) name place := by
  obtain ⟨before, f, after, rfl, rfl, hf, hlive, hafter⟩ := h
  refine ⟨before, f, after ++ [e], by simp, rfl, hf, hlive, fun g hg => ?_⟩
  rcases List.mem_append.1 hg with hg | hg
  · exact hafter g hg
  · obtain rfl := List.mem_singleton.1 hg
    exact he

/-- A name without a value is inserted by the edit that sets it. -/
theorem of_sets (h : ¬Live edits name) (he : e.Sets name) :
    InsertedAt (edits ++ [e]) name edits.length :=
  ⟨edits, e, [], rfl, rfl, he, h, by simp⟩

theorem congr (h : InsertedAt edits name place) (hname : SameName name other) :
    InsertedAt edits other place := by
  obtain ⟨before, f, after, rfl, rfl, hf, hlive, hafter⟩ := h
  rw [Edit.sets_congr hname] at hf
  rw [live_congr hname] at hlive
  rw [Edit.drops_congr hname] at hafter
  exact ⟨before, f, after, rfl, rfl, hf, hlive, hafter⟩

end InsertedAt

/-- One name was inserted before another. -/
def Precedes (edits : List Edit) (name other : String) : Prop :=
  ¬SameName name other ∧
    ∃ i j, i < j ∧ InsertedAt edits name i ∧ InsertedAt edits other j

/-- The entries of metadata have names that may be set and that were inserted in their order. -/
structure Listed (edits : List Edit) (metadata : NameMap String) : Prop where
  settable : ∀ f ∈ metadata.entries, Reserved.isSettable f.1 = true
  inserted : ∀ f ∈ metadata.entries, ∃ place, InsertedAt edits f.1 place
  ordered : metadata.entries.Pairwise fun f g => Precedes edits f.1 g.1

theorem Precedes.concat (h : Precedes edits name other) (hname : ¬e.Drops name)
    (hother : ¬e.Drops other) : Precedes (edits ++ [e]) name other := by
  obtain ⟨hne, i, j, hij, hi, hj⟩ := h
  exact ⟨hne, i, j, hij, hi.concat hname, hj.concat hother⟩

theorem Precedes.congr {name' other' : String} (h : Precedes edits name other)
    (hname : SameName name name') (hother : SameName other other') :
    Precedes edits name' other' := by
  obtain ⟨hne, i, j, hij, hi, hj⟩ := h
  refine ⟨fun hsame => hne ?_, i, j, hij, hi.congr hname, hj.congr hother⟩
  simpa only [SameName, eqIgnoreCase, foldAscii_eq hname, foldAscii_eq hother] using hsame

namespace Listed

variable {m m' : NameMap String}

/-- Names of which an edit takes no value away stay listed. -/
theorem of_sublist (h : Listed edits m) (hm : m'.entries.Sublist m.entries)
    (hdrops : ∀ f ∈ m'.entries, ¬e.Drops f.1) : Listed (edits ++ [e]) m' where
  settable f hf := h.settable f (hm.subset hf)
  inserted f hf := by
    obtain ⟨place, hplace⟩ := h.inserted f (hm.subset hf)
    exact ⟨place, hplace.concat (hdrops f hf)⟩
  ordered := (h.ordered.sublist hm).imp_of_mem fun hf hg hfg =>
    hfg.concat (hdrops _ hf) (hdrops _ hg)

/-- Setting a name keeps its place or puts it behind all others. -/
theorem insert (h : Listed edits m) (value : String)
    (hlive : Live edits name → ∃ f ∈ m.entries, SameName f.1 name)
    (hset : Reserved.isSettable name = true) :
    Listed (edits ++ [.set name value]) (m.insert name value) := by
  have hsets : (Edit.set name value).Sets name := ⟨hset, eqIgnoreCase_self name⟩
  have hkept : ∀ f ∈ m.entries, ∃ place, InsertedAt (edits ++ [.set name value]) f.1 place :=
    (h.of_sublist (e := .set name value) (List.Sublist.refl _) fun _ _ => id).inserted
  refine ⟨fun f hf => ?_, fun f hf => ?_, ?_⟩
  · exact NameMap.forall_insert (P := fun n => Reserved.isSettable n = true) h.settable hset value
      f hf
  · refine NameMap.forall_insert (P := fun n => ∃ place, InsertedAt _ n place) hkept ?_ value f hf
    by_cases hname : Live edits name
    · obtain ⟨g, hg, hsame⟩ := hlive hname
      obtain ⟨place, hplace⟩ := hkept g hg
      exact ⟨place, hplace.congr hsame⟩
    · exact ⟨edits.length, .of_sets hname hsets⟩
  · refine NameMap.pairwise_insert (R := Precedes _) (h.ordered.imp fun hfg => hfg.concat id id)
      (fun hn hprec => hprec.congr hn (eqIgnoreCase_self _))
      (fun hn hprec => hprec.congr (eqIgnoreCase_self _) hn) (fun hfresh f hf => ?_) value
    have hname : ¬Live edits name := fun hname => by
      obtain ⟨g, hg, hsame⟩ := hlive hname
      exact hfresh g hg hsame
    obtain ⟨place, hplace⟩ := h.inserted f hf
    exact ⟨hfresh f hf, place, edits.length, hplace.lt_length, hplace.concat id,
      .of_sets hname hsets⟩

/-- Each edit keeps the names listed. -/
theorem after (h : Listed edits m)
    (hlive : ∀ {name}, Live edits name → ∃ f ∈ m.entries, SameName f.1 name)
    (he : Edit.Effect m e m') : Listed (edits ++ [e]) m' := by
  cases he with
  | set value hset => exact h.insert value hlive hset
  | refuse | derive => exact h.of_sublist (List.Sublist.refl _) fun _ _ => id
  | remove n =>
    refine h.of_sublist List.filter_sublist fun f hf hn => ?_
    have hkept : (!eqIgnoreCase f.1 n) = true := (List.mem_filter.1 hf).2
    have hsame : eqIgnoreCase n f.1 = true := hn
    rw [eqIgnoreCase_comm, hsame] at hkept
    cases hkept
  | clear => exact ⟨by simp, by simp, by simp⟩

end Listed

theorem listed_afterAll (itemType spec : String) (project : Option String) (edits : List Edit) :
    Listed edits (afterAll itemType spec project edits).metadata := by
  induction edits using List.reverseRecOn with
  | nil => exact ⟨by simp [afterAll], by simp [afterAll], by simp [afterAll]⟩
  | append_singleton edits e ih =>
    rw [afterAll_concat]
    exact ih.after live_iff.1 (Edit.effect_after _ e)

theorem Listed.distinct {m : NameMap String} (h : Listed edits m) : m.Distinct :=
  h.ordered.imp And.left

/-- What is set for a name is the value it was last set to, or the empty text. -/
theorem customMetadata_afterAll (name : String) :
    let value := (afterAll itemType spec project edits).customMetadata name
    (∃ spelled, LastSet edits name spelled value) ∨ ¬Live edits name ∧ value = "" := by
  intro value
  cases h : NameMap.entry? (afterAll itemType spec project edits).metadata name with
  | some f =>
    obtain ⟨spelled, v⟩ := f
    have hvalue : value = v := by simp [value, customMetadata, NameMap.get?, h]
    exact .inl ⟨spelled, hvalue ▸ entry?_afterAll.1 h⟩
  | none =>
    refine .inr ⟨?_, by simp [value, customMetadata, NameMap.get?, h]⟩
    rintro ⟨spelled, v, hlast⟩
    rw [entry?_afterAll.2 hlast] at h
    cases h

/-- A name that may be set has the value that is set for it. -/
theorem metadataValue_of_settable (item : Item) (w : World)
    (h : Reserved.ofName? name = none ∨ Reserved.ofName? name = some .recursiveDir) :
    item.metadataValue w name = .ok (item.customMetadata name) := by
  rcases h with h | h
  · rw [metadataValue, h]
  · have hname : SameName Reserved.recursiveDir.name name := by
      rw [Reserved.ofName?] at h
      exact List.find?_some (p := fun r => eqIgnoreCase (Reserved.name r) name) h
    rw [metadataValue, h]
    show Except.ok (item.customMetadata Reserved.recursiveDir.name) = _
    rw [customMetadata, customMetadata, NameMap.get?_congr _ hname]

/-- The custom metadata of an item are a map from names in any case, in order of insertion, that
has no reserved name but `RecursiveDir`. After any edits of a new item, each name precedes those
that were inserted later and are none of its spellings; an entry is what its name was last set to,
as it was spelled then; and asking for a name that may be set gives the value it was last set to,
or the empty text when it has none. -/
theorem metadata_afterAll (itemType spec : String) (project : Option String)
    (edits : List Edit) :
    let item := afterAll itemType spec project edits
    item.metadata.entries.Pairwise (fun f g => Precedes edits f.1 g.1) ∧
    (∀ f ∈ item.metadata.entries,
      Reserved.ofName? f.1 = none ∨ Reserved.ofName? f.1 = some .recursiveDir) ∧
    (∀ name value, (name, value) ∈ item.metadata.entries ↔ LastSet edits name name value) ∧
    ∀ (w : World) (name : String),
      Reserved.ofName? name = none ∨ Reserved.ofName? name = some .recursiveDir →
      ∃ value, item.metadataValue w name = .ok value ∧
        ((∃ spelled, LastSet edits name spelled value) ∨ ¬Live edits name ∧ value = "") := by
  intro item
  have hlisted := listed_afterAll itemType spec project edits
  refine ⟨hlisted.ordered, fun f hf => Reserved.isSettable_iff.1 (hlisted.settable f hf),
    fun name value => ?_, fun w name hname => ?_⟩
  · rw [NameMap.mem_entries_iff hlisted.distinct, entry?_afterAll]
  · exact ⟨_, metadataValue_of_settable item w hname, customMetadata_afterAll name⟩

end Item

end BuildExpr
