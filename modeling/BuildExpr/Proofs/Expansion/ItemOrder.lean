import BuildExpr.Proofs.Evaluation.Provenance
import BuildExpr.Proofs.Expansion.Escaped

/-!
# Where items come from

The items that a text expands to are those of its pieces, one piece behind the other. Those of a
lone item list are made from the entries of the list, so when its stages keep order they are
copies of items of the list in order, with the metadata of those items (`inOrder_expandPiece`).
-/

namespace BuildExpr

open Eval

theorem metadata_create (factory : ItemFactory) (spec : String) (source : Item)
    (project : Option String) :
    (factory.create spec (some source) project).metadata = source.metadata := rfl

/-- The entries of a list whose stages keep order come from its items in order. -/
theorem inOrder_entries {s : Setting} {item : Option Item} {list itemType : String}
    {transforms : List Transform} (hkeeps : ∀ t ∈ transforms, t.keepsOrder = true)
    {entries : List Entry} {w w' : World}
    (h : (evalTransforms s item list itemType (s.entries itemType) transforms).result w =
      (.ok entries, w')) :
    InOrder (∀ t ∈ transforms, t.fansOut = false) (fun e i => e.source = some i) entries
      (s.lookup.items itemType) := by
  have hstart : InOrder (∀ t ∈ transforms, t.fansOut = false) (fun e i => e.source = some i)
      (s.entries itemType) (s.lookup.items itemType) := .map fun _ _ => rfl
  exact (inOrder_evalTransforms hkeeps h).trans hstart fun _ _ _ => Eq.trans

namespace Expander

variable {x : Expander} {options : Options} {lookup : Lookup} {factory : ItemFactory}

/-- An item that is made from another: a copy of it with the same metadata. -/
def IsMadeFrom (x : Expander) (factory : ItemFactory) (made source : Item) : Prop :=
  made.metadata = source.metadata ∧
    ∃ spec, made = factory.create spec (some source) x.definingProject

/-- Whether the items of a piece that is a lone item list, of stages that keep order, are made from
the items of the list in order. -/
def PieceInOrder (x : Expander) (options : Options) (lookup : Lookup) (factory : ItemFactory)
    (piece : String) (made : List Item) : Prop :=
  ∀ e list, Expression.parse options piece = .ok e → e.singleItems? = some list →
    list.separator = none → (∀ t ∈ list.transforms, t.keepsOrder = true) →
    InOrder (∀ t ∈ list.transforms, t.fansOut = false) (x.IsMadeFrom factory) made
      (lookup.items list.itemType.text)

theorem inOrder_itemsOfEntries {once : Prop} {entries : List Entry} {items : List Item}
    (h : InOrder once (fun e i => e.source = some i) entries items) :
    InOrder once (x.IsMadeFrom factory) (x.itemsOfEntries factory entries) items := by
  have hmade : InOrder once
      (fun made (e : Entry) => ∃ spec, made = factory.create spec e.source x.definingProject)
      (x.itemsOfEntries factory entries) (Entries.filled entries) := .map fun e _ => ⟨e.text, rfl⟩
  refine hmade.trans ((Entries.inOrder_filled once entries).trans h fun _ _ _ => Eq.trans) ?_
  rintro _ e source ⟨spec, rfl⟩ hsource
  rw [hsource]
  exact ⟨metadata_create factory spec source x.definingProject, spec, rfl⟩

theorem inOrder_expandPiece {piece : String} {made : List Item} {w w' : World}
    (h : (x.expandPiece piece options lookup factory).result w = (.ok made, w')) :
    x.PieceInOrder options lookup factory piece made := by
  intro e list he hlist hseparator hkeeps
  obtain ⟨entries, hentries, rfl⟩ := exists_entries_of_expandPiece he hlist hseparator h
  cases list with
  | mk span itemType transforms separator =>
    exact inOrder_itemsOfEntries (inOrder_entries hkeeps hentries)

end Expander

/-- Item pipelines keep order and provenance. Entries after stages that keep order come from items
of the list at places that do not go back, and go on when no stage reads lists of metadata; so the
items that a text expands to are those of its pieces, and those of a lone item list are copies of
its items in order, with their metadata. -/
theorem pipeline_keeps_order :
    (∀ (s : Setting) (item : Option Item) (list itemType : String) (transforms : List Transform)
      (entries : List Entry) (w w' : World),
      (∀ t ∈ transforms, t.keepsOrder = true) →
      (evalTransforms s item list itemType (s.entries itemType) transforms).result w =
        (.ok entries, w') →
      InOrder (∀ t ∈ transforms, t.fansOut = false) (fun e i => e.source = some i) entries
        (s.lookup.items itemType)) ∧
    ∀ (x : Expander) (options : Options) (lookup : Lookup) (factory : ItemFactory) (text : String)
      (items : List Item) (w w' : World),
      (x.expandItems text options lookup factory).result w = (.ok items, w') →
      ∃ found, items = found.flatten ∧
        List.Forall₂ (x.PieceInOrder options lookup factory) (Expander.pieces text) found := by
  refine ⟨fun s item list itemType transforms entries w w' hkeeps h => inOrder_entries hkeeps h,
    fun x options lookup factory text items w w' h => ?_⟩
  obtain ⟨found, w₁, hfound, hreturn⟩ := result_bind_eq_ok.1 h
  cases hreturn
  refine ⟨found, rfl, (forall₂_of_mapM hfound).imp fun piece made hmade => ?_⟩
  obtain ⟨w₂, w₃, hmade⟩ := hmade
  exact Expander.inOrder_expandPiece hmade

theorem pipeline_keeps_order_of_lists :
    (∃ entries : List Entry, entries.map Entry.text = ["1", "2"] ∧
      InOrder (∀ t ∈ [Transform.function ⟨4, "Metadata('M')"⟩ ⟨4, "Metadata"⟩
          [.quoted (.mk ⟨14, "M"⟩ [.literal ⟨14, "M"⟩])]], t.fansOut = false)
        (fun e i => e.source = some i) entries
        (({ scopes := [.ofDocument [] [("I", [{ spec := "b", metadata := [("M", "1;2")] },
          { spec := "a" }])]] } : Lookup).items "I")) ∧
    ∃ found : List (List Item), found.flatten.map Item.spec = ["x", "b.o", "a.o"] ∧
      List.Forall₂ (({} : Expander).PieceInOrder .all
        { scopes := [.ofDocument [] [("I", [{ spec := "b", metadata := [("M", "1;2")] },
          { spec := "a" }])]] } {}) (Expander.pieces "x;@(I->'%(Identity).o')") found := by
  have hentries : (evalTransforms
      { lookup := { scopes := [.ofDocument [] [("I", [{ spec := "b", metadata := [("M", "1;2")] },
        { spec := "a" }])]] } } none "" "I"
      (({ scopes := [.ofDocument [] [("I", [{ spec := "b", metadata := [("M", "1;2")] },
        { spec := "a" }])]] } : Lookup).items "I" |>.map Entry.ofItem)
      [.function ⟨4, "Metadata('M')"⟩ ⟨4, "Metadata"⟩
        [.quoted (.mk ⟨14, "M"⟩ [.literal ⟨14, "M"⟩])]] |>.result .bare).1.toOption.map
          (List.map Entry.text) = some ["1", "2"] := by
    decide +kernel
  have hspecs : (({} : Expander).expandItems "x;@(I->'%(Identity).o')" .all
      { scopes := [.ofDocument [] [("I", [{ spec := "b", metadata := [("M", "1;2")] },
        { spec := "a" }])]] } {} |>.result .bare).1.toOption.map (List.map Item.spec) =
          some ["x", "b.o", "a.o"] := by
    decide +kernel
  obtain ⟨entries, hresult, htexts⟩ := Option.map_eq_some_iff.1 hentries
  obtain ⟨w, hresult⟩ := exists_of_toOption hresult
  obtain ⟨items, hitems, hspecs⟩ := Option.map_eq_some_iff.1 hspecs
  obtain ⟨w', hitems⟩ := exists_of_toOption hitems
  obtain ⟨found, rfl, hfound⟩ := pipeline_keeps_order.2 _ _ _ _ _ _ _ _ hitems
  exact ⟨⟨entries, htexts, pipeline_keeps_order.1 _ _ _ _ _ _ _ _ (by decide +kernel) hresult⟩,
    found, hspecs, hfound⟩

end BuildExpr
