import BuildExpr.Proofs.Item.CustomMetadata
import BuildExpr.Proofs.Scope.Stack
import Mathlib.Data.List.Forall2

/-!
# Scope documents

A document lists properties and, below each type, the entries of its items. Its scope is made by an
edit for each property and one for each entry, so that what a lookup answers with that scope in
front is read off the document (`Lookup.document_shadows_iff`). A type without entries is in no
edit: it does not hide the items that the type has in the scopes further out.
-/

namespace BuildExpr

open History Text

namespace Scope

/-! ## Items of a document -/

namespace ItemSpec

/-- The edits that give an item the metadata of its entry. -/
def edits (s : ItemSpec) : List Item.Edit :=
  s.metadata.map fun (name, value) => Item.Edit.set name value

/-- An item is the one that an entry below a type stands for. Of each name that may be set it has
the value that is listed last, and its names are in the order in which they are listed first. -/
structure Describes (itemType : String) (s : ItemSpec) (item : Item) : Prop where
  itemType_eq : item.itemType = itemType
  spec_eq : item.spec = s.spec
  definingProject_eq : item.definingProject = s.definingProject
  mem_metadata_iff (name value : String) :
    (name, value) ∈ item.metadata.entries ↔ Item.LastSet s.edits name name value
  ordered : item.metadata.entries.Pairwise fun e f => Item.Precedes s.edits e.1 f.1

variable (itemType : String) (s : ItemSpec)

theorem toItem_eq_afterAll :
    s.toItem itemType = Item.afterAll itemType s.spec s.definingProject s.edits := by
  rw [Item.afterAll, edits, List.foldl_map]
  rfl

/-- Setting metadata changes nothing else of an item. -/
theorem exists_setAllMetadata (item : Item) (entries : List (String × String)) :
    ∃ metadata, item.setAllMetadata entries = { item with metadata } := by
  unfold Item.setAllMetadata
  induction entries generalizing item with
  | nil => exact ⟨item.metadata, rfl⟩
  | cons e entries ih =>
    obtain ⟨metadata, h⟩ := ih (item.setMetadata e.1 e.2)
    rw [List.foldl_cons, h]
    unfold Item.setMetadata
    split
    · exact ⟨metadata, rfl⟩
    · exact ⟨metadata, rfl⟩

theorem exists_toItem : ∃ metadata, s.toItem itemType =
    { itemType, spec := s.spec, metadata, definingProject := s.definingProject } :=
  exists_setAllMetadata _ s.metadata

@[simp] theorem toItem_itemType : (s.toItem itemType).itemType = itemType := by
  obtain ⟨metadata, h⟩ := s.exists_toItem itemType
  rw [h]

theorem describes_toItem : s.Describes itemType (s.toItem itemType) where
  itemType_eq := s.toItem_itemType itemType
  spec_eq := by
    obtain ⟨metadata, h⟩ := s.exists_toItem itemType
    rw [h]
  definingProject_eq := by
    obtain ⟨metadata, h⟩ := s.exists_toItem itemType
    rw [h]
  mem_metadata_iff name value := by
    rw [toItem_eq_afterAll, NameMap.mem_entries_iff (Item.listed_afterAll ..).distinct,
      Item.entry?_afterAll]
  ordered := by
    rw [toItem_eq_afterAll]
    exact (Item.listed_afterAll ..).ordered

end ItemSpec

/-! ## Edits of a document -/

/-- The edits that set the properties of a document and add the items of its entries. -/
def documentEdits (properties : List (String × String)) (items : List (String × List ItemSpec)) :
    List Edit :=
  properties.map (fun (name, value) => Edit.setProperty name value) ++
    items.flatMap fun (itemType, specs) =>
      specs.map fun spec => Edit.addItem (spec.toItem itemType)

variable {properties : List (String × String)} {items : List (String × List ItemSpec)}

theorem ofDocument_eq_ofEdits (properties : List (String × String))
    (items : List (String × List ItemSpec)) :
    ofDocument properties items = ofEdits (documentEdits properties items) := by
  unfold ofDocument ofEdits documentEdits
  rw [List.foldl_append, List.foldl_map, List.foldl_flatMap]
  simp only [List.foldl_map]
  rfl

/-- The items that a document adds to a type are those of the entries below it. -/
theorem added_documentEdits (itemType : String) :
    added (documentEdits properties items) itemType =
      items.flatMap fun (t, specs) =>
        if SameName t itemType then specs.map (ItemSpec.toItem t) else [] := by
  have hproperties : (properties.map fun (name, value) =>
      Edit.setProperty name value).filterMap Edit.item? = [] := by
    rw [List.filterMap_map, List.filterMap_eq_nil_iff]
    rintro ⟨name, value⟩ -
    rfl
  unfold added documentEdits
  rw [List.filterMap_append, hproperties, List.nil_append, List.filterMap_flatMap,
    List.filter_flatMap]
  congr 1
  funext ⟨t, specs⟩
  have hitems : (specs.map fun spec => Edit.addItem (spec.toItem t)).filterMap Edit.item? =
      specs.map (ItemSpec.toItem t) := by
    rw [List.filterMap_map, ← List.filterMap_eq_map]
    rfl
  show ((specs.map fun spec => Edit.addItem (spec.toItem t)).filterMap Edit.item?).filter _ =
    if SameName t itemType then specs.map (ItemSpec.toItem t) else []
  rw [hitems, List.filter_map]
  by_cases hsame : SameName t itemType
  · rw [if_pos hsame, List.filter_eq_self.2]
    intro spec _
    simpa using hsame
  · rw [if_neg hsame, List.filter_eq_nil_iff.2, List.map_nil]
    intro spec _
    simpa using hsame

/-- A document that lists a type once adds the items below it to that type. -/
theorem added_of_listed (hdistinct : items.Pairwise fun e f => ¬SameName e.1 f.1)
    {itemType name : String} {specs : List ItemSpec} (hlisted : (itemType, specs) ∈ items)
    (hname : SameName itemType name) :
    added (documentEdits properties items) name = specs.map (ItemSpec.toItem itemType) := by
  obtain ⟨before, after, rfl⟩ := List.append_of_mem hlisted
  rw [List.pairwise_append, List.pairwise_cons] at hdistinct
  obtain ⟨-, ⟨hafter, -⟩, hbefore⟩ := hdistinct
  have hothers : ∀ e ∈ before ++ after, ¬SameName e.1 name := by
    intro e he hsame
    rcases List.mem_append.1 he with he | he
    · refine hbefore e he _ (List.mem_cons_self ..) ?_
      rw [SameName, eqIgnoreCase_comm, NameMap.eqIgnoreCase_trans hname, eqIgnoreCase_comm]
      exact hsame
    · refine hafter e he ?_
      rw [SameName, NameMap.eqIgnoreCase_trans hname, eqIgnoreCase_comm]
      exact hsame
  have hnone : ∀ part : List (String × List ItemSpec), (∀ e ∈ part, ¬SameName e.1 name) →
      (part.flatMap fun (t, specs) =>
        if SameName t name then specs.map (ItemSpec.toItem t) else []) = [] := by
    intro part hpart
    rw [List.flatMap_eq_nil_iff]
    intro e he
    exact if_neg (hpart e he)
  rw [added_documentEdits, List.flatMap_append, List.flatMap_cons,
    hnone before fun e he => hothers e (List.mem_append_left _ he),
    hnone after fun e he => hothers e (List.mem_append_right _ he)]
  simp [hname]

theorem added_of_not_listed {name : String} (hother : ∀ e ∈ items, ¬SameName e.1 name) :
    added (documentEdits properties items) name = [] := by
  rw [added_documentEdits, List.flatMap_eq_nil_iff]
  intro e he
  exact if_neg (hother e he)

/-- The value that a document sets a property to last. -/
theorem setLast_documentEdits {name value : String} :
    SetLast (documentEdits properties items) name value ↔
      ∃ spelled, Last (fun p => SameName p.1 name) (spelled, value) properties := by
  have hadds : ∀ e ∈ items.flatMap (fun (itemType, specs) =>
      specs.map fun spec => Edit.addItem (spec.toItem itemType)), ¬e.Sets name := by
    intro e he
    obtain ⟨⟨itemType, specs⟩, -, he⟩ := List.mem_flatMap.1 he
    obtain ⟨spec, -, rfl⟩ := List.mem_map.1 he
    exact id
  unfold SetLast documentEdits
  simp only [last_append_of_forall_not hadds, last_map]
  constructor
  · rintro ⟨spelled, ⟨n, v⟩, heq, hlast⟩
    obtain ⟨rfl, rfl⟩ := Edit.setProperty.inj heq
    exact ⟨n, hlast⟩
  · rintro ⟨spelled, hlast⟩
    exact ⟨spelled, (spelled, value), rfl, hlast⟩

/-- A property that a document does not list is not set by it. -/
theorem property?_ofDocument_eq_none {name : String}
    (hother : ∀ p ∈ properties, ¬SameName p.1 name) :
    (ofDocument properties items).property? name = none := by
  rw [Option.eq_none_iff_forall_ne_some, ofDocument_eq_ofEdits]
  intro value hvalue
  rw [property?_ofEdits, setLast_documentEdits] at hvalue
  obtain ⟨spelled, before, after, rfl, hname, -⟩ := hvalue
  exact hother (spelled, value) (by simp) hname

end Scope

namespace Lookup

open Scope

variable {l : Lookup} {s : Scope} {name : String}

theorem property?_push_of_some {value : String} (h : s.property? name = some value) :
    (l.push s).property? name = some value := by
  rw [property?, push, List.findSome?_cons, h]

theorem property?_push_of_none (h : s.property? name = none) :
    (l.push s).property? name = l.property? name := by
  rw [property?, push, List.findSome?_cons, h, property?]

theorem items_push_of_some {found : List Item} (h : s.items? name = some found) :
    (l.push s).items name = found := by
  rw [items, push, List.findSome?_cons, h, Option.getD_some]

theorem items_push_of_none (h : s.items? name = none) : (l.push s).items name = l.items name := by
  rw [items, push, List.findSome?_cons, h, items]

/-- A scope made by edits answers for a type with the items that they add, if there are any. -/
theorem items_push_ofEdits (l : Lookup) (edits : List Scope.Edit) (name : String) :
    (l.push (ofEdits edits)).items name =
      if added edits name = [] then l.items name else added edits name := by
  have hitems := items?_ofEdits edits name
  split
  case isTrue hnone =>
    rw [if_pos hnone] at hitems
    exact items_push_of_none hitems
  case isFalse hsome =>
    rw [if_neg hsome] at hitems
    exact items_push_of_some hitems

/-- A document in front of a lookup answers for what it lists, but for types that it lists without
entries. A type that it lists once has the items of the entries below it, in their order, exactly
when there are entries or the type had no items before; without entries it has the items that it
had. A property has the value that is listed for it last. All else is as it was. -/
theorem document_shadows_iff (l : Lookup) (properties : List (String × String))
    (items : List (String × List ItemSpec))
    (hdistinct : items.Pairwise fun e f => ¬SameName e.1 f.1) :
    let inner := l.push (ofDocument properties items)
    (∀ itemType specs, (itemType, specs) ∈ items → ∀ name, SameName itemType name →
      (List.Forall₂ (ItemSpec.Describes itemType) specs (inner.items name) ↔
        specs ≠ [] ∨ l.items name = []) ∧
      (specs = [] → inner.items name = l.items name)) ∧
    (∀ name, (∀ e ∈ items, ¬SameName e.1 name) → inner.items name = l.items name) ∧
    (∀ name spelled value, Last (fun p => SameName p.1 name) (spelled, value) properties →
      inner.property? name = some value) ∧
    ∀ name, (∀ p ∈ properties, ¬SameName p.1 name) → inner.property? name = l.property? name := by
  intro inner
  have hinner (name : String) : inner.items name =
      if added (documentEdits properties items) name = [] then l.items name
      else added (documentEdits properties items) name := by
    rw [← items_push_ofEdits, ← ofDocument_eq_ofEdits]
  refine ⟨fun itemType specs hlisted name hname => ?_, fun name hother => ?_,
    fun name spelled value hlast => ?_, fun name hother => ?_⟩
  · simp only [hinner, added_of_listed hdistinct hlisted hname, List.map_eq_nil_iff]
    by_cases hspecs : specs = []
    · subst hspecs
      simp [List.forall₂_nil_left_iff]
    · rw [if_neg hspecs]
      refine ⟨⟨fun _ => .inl hspecs, fun _ => ?_⟩, fun hnil => absurd hnil hspecs⟩
      rw [List.forall₂_map_right_iff, List.forall₂_same]
      exact fun s _ => s.describes_toItem itemType
  · rw [hinner, added_of_not_listed hother, if_pos rfl]
  · apply property?_push_of_some
    rw [ofDocument_eq_ofEdits, property?_ofEdits, setLast_documentEdits]
    exact ⟨spelled, hlast⟩
  · exact property?_push_of_none (property?_ofDocument_eq_none hother)

/-- The items and the property that a document lists are found in the spellings of the lookup
outside, whose other property is still seen. -/
theorem document_shadows_iff_of_listed :
    let outer : Lookup :=
      { scopes := [.ofDocument [("P", "1"), ("Q", "2")] [("A", [{ spec := "x" }])]] }
    let specs : List ItemSpec :=
      [{ spec := "y", metadata := [("M", "1"), ("N", "2"), ("m", "3")] }, { spec := "z" }]
    let inner := outer.push (.ofDocument [("p", "3"), ("P", "4")] [("a", specs), ("B", [])])
    List.Forall₂ (ItemSpec.Describes "a") specs (inner.items "A") ∧
      inner.items "b" = outer.items "b" ∧ inner.items "C" = outer.items "C" ∧
      inner.property? "P" = some "4" ∧ inner.property? "Q" = outer.property? "Q" := by
  intro outer specs inner
  have hdistinct : [("a", specs), ("B", [])].Pairwise fun e f => ¬SameName e.1 f.1 := by
    simp only [List.pairwise_cons, List.mem_singleton, forall_eq, List.not_mem_nil,
      IsEmpty.forall_iff, implies_true, List.Pairwise.nil, and_true]
    decide
  obtain ⟨hlisted, hothers, hset, hunset⟩ :=
    document_shadows_iff outer [("p", "3"), ("P", "4")] [("a", specs), ("B", [])] hdistinct
  refine ⟨((hlisted "a" specs (by simp) "A" (by decide)).1).2 (.inl (by simp [specs])),
    (hlisted "B" [] (by simp) "b" (by decide)).2 rfl, hothers "C" ?_, hset "P" "P" "4" ?_,
    hunset "Q" ?_⟩
  · simp only [List.forall_mem_cons, List.not_mem_nil, IsEmpty.forall_iff, implies_true, and_true]
    decide
  · exact ⟨[("p", "3")], [], rfl, by decide, by simp⟩
  · simp only [List.forall_mem_cons, List.not_mem_nil, IsEmpty.forall_iff, implies_true, and_true]
    decide

/-- A type that is listed without entries has the items that it had outside. -/
theorem not_forall_document_shadows :
    let outer : Lookup := { scopes := [.ofDocument [] [("A", [{ spec := "x" }])]] }
    let inner := outer.push (.ofDocument [] [("A", [])])
    inner.items "A" = [{ itemType := "A", spec := "x" }] ∧
      ¬List.Forall₂ (ItemSpec.Describes "A") [] (inner.items "A") := by
  intro outer inner
  have hitems : inner.items "A" = [{ itemType := "A", spec := "x" }] := by decide
  refine ⟨hitems, ?_⟩
  rw [hitems]
  rintro ⟨⟩

end Lookup

end BuildExpr
