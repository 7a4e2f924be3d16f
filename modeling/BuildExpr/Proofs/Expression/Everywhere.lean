import BuildExpr.Proofs.Expression.Requested

/-!
# What holds of all nodes that are read

A property that a reader gives to each node it makes holds everywhere in the trees it reads. Most
nodes are made in one place and the same for all texts; what depends on the text is that item lists
are made only where they are requested, and that the first member of a type has a name
(`Expression.Grants`). Such a property holds everywhere in the tree of a text
(`everywhere_parseUpTo`) and in the stages and the separator of an item list (`everywhere_stages`).

Item lists do not nest: the texts inside a reference are read with item lists as plain text, so
nothing below a property reference, a stage or a separator is one. A tree is `Flat` when no node of
it is an item list; what is read where item lists are not requested is flat (`flattens_parseUpTo`),
and so are the stages and the separator of every item list (`flat_parts`).
-/

namespace BuildExpr

namespace TreeNode

/-- A property of all nodes of the stages and of the separator of an item list. -/
def OfParts (good : TreeNode → Prop) (parts : List Transform × Option Expression) : Prop :=
  (∀ t ∈ parts.1, (transform t).Everywhere good) ∧
    ∀ e ∈ parts.2, (expression e).Everywhere good

end TreeNode

namespace Expression

open TreeNode

/-- A property of nodes that reading with options that pass a test gives to each node. -/
structure Grants (ok : Options → Prop) (good : TreeNode → Prop) : Prop where
  ok_argument (options : Options) : ok (argumentOptions options)
  ok_list (options : Options) : ok (listOptions options)
  ok_copied {options : Options} : ok options → ok { options with metadata := false }
  good_items {options : Options} (list : ItemList) : ok options → options.items = true →
    good (items list)
  good_static (span type : Span) {first : Access} (rest : List Access) : first.isNamed = true →
    good (property (.chain span (.type type) (first :: rest)))
  /-- All other nodes have the property whatever they hold. -/
  good_other {n : TreeNode} : n.isItems = false → n.isStatic = false → good n

/-- A reader that gives trees with a property everywhere. -/
def Gives (ok : Options → Prop) (good : TreeNode → Prop) (read : Reader) : Prop :=
  ∀ options r e, ok options → read options r = .ok e → (expression e).Everywhere good

namespace Grants

variable {ok : Options → Prop} {good : TreeNode → Prop} {options : Options}

/-- Options that pass the test do so on the way down. -/
theorem ok_inner (h : Grants ok good) (hok : ok options) (n : TreeNode) : ok (n.inner options) := by
  cases n with
  | items list => exact h.ok_list options
  | argument a => exact h.ok_argument options
  | _ => exact hok

/-- A node of a requested kind has the property. -/
theorem good_of_granted (h : Grants ok good) (hok : ok options) {n : TreeNode}
    (hgranted : n.Granted options) (hnamed : n.MemberNamed) : good n := by
  cases n with
  | items list => exact h.good_items list hok hgranted
  | property ref =>
    cases ref with
    | chain span receiver accesses =>
      cases receiver with
      | property name => exact h.good_other rfl rfl
      | type type =>
        cases accesses with
        | nil => cases hnamed
        | cons first rest => exact h.good_static span type rest hnamed
    | _ => exact h.good_other rfl rfl
  | _ => exact h.good_other rfl rfl

/-- The property holds everywhere in a tree whose references are requested. -/
theorem everywhere_of_requested (h : Grants ok good) {n : TreeNode} (hn : Requested options n)
    (hok : ok options) : n.Everywhere good := by
  induction hn with
  | @intro options n granted named children ih =>
    exact .intro (h.good_of_granted hok granted named) fun m hm => ih m hm (h.ok_inner hok n)

theorem everywhere_parseUpTo (h : Grants ok good) (depth : Nat) :
    Gives ok good (parseUpTo depth) :=
  fun options r e hok he => h.everywhere_of_requested (requested_parseUpTo depth options r e he) hok

/-- The stages and the separator of an item list have the property everywhere. -/
theorem everywhere_stages (h : Grants ok good) {depth : Nat} {ref : Span} {raws : List RawStage}
    {parts : List Transform × Option Expression}
    (hparts : raws.foldlM (parseStage (parseUpTo depth) options ref) ([], none) = .ok parts) :
    OfParts good parts := by
  have hrequested := (requested_parseUpTo depth).parseStages ⟨by simp, by simp⟩ hparts
  have hok := h.ok_list options
  exact ⟨fun t ht => h.everywhere_of_requested (hrequested.1 t ht) hok,
    fun e he => h.everywhere_of_requested (hrequested.2 e he) hok⟩

end Grants

end Expression

/-! ## Trees without item lists -/

namespace TreeNode

/-- A tree without item lists. -/
abbrev Flat (n : TreeNode) : Prop := n.Everywhere fun m => m.isItems = false

/-- The parts of an item list below its type, none of which has an item list in it. -/
abbrev FlatParts : List Transform × Option Expression → Prop := OfParts fun m => m.isItems = false

end TreeNode

namespace Expression

open TreeNode

/-- A reader that gives trees without item lists where they are not requested. -/
abbrev Flattens (read : Reader) : Prop :=
  Gives (fun options => options.items = false) (fun m => m.isItems = false) read

theorem grants_flat :
    Grants (fun options => options.items = false) (fun m => m.isItems = false) where
  ok_argument _ := rfl
  ok_list _ := rfl
  ok_copied h := h
  good_items _ h hitems := absurd hitems (by simp [h])
  good_static _ _ _ _ _ := rfl
  good_other h _ := h

theorem flattens_parseUpTo (depth : Nat) : Flattens (parseUpTo depth) :=
  grants_flat.everywhere_parseUpTo depth

/-- The stages and the separator of an item list have no item list in them. -/
theorem flat_parts {depth : Nat} {options : Options} {ref : Span} {raws : List RawStage}
    {parts : List Transform × Option Expression}
    (h : raws.foldlM (parseStage (parseUpTo depth) options ref) ([], none) = .ok parts) :
    FlatParts parts :=
  grants_flat.everywhere_stages h

end Expression

end BuildExpr
