import BuildExpr.Proofs.Expression.Occurrence
import BuildExpr.Proofs.Expression.ParseShift
import Mathlib.Data.List.Forall2
import Mathlib.Data.Set.Basic

/-!
# The names of a text

What a tree looks up are properties, by the name of a reference or of the receiver of a chain, and
items, by the type of an item list. `TreeNode.mentions` are these names at any depth: those of a
node are its own and those of its children (`mentions_eq`), and they do not depend on where the text
stands (`mentions_shift`).
-/

namespace BuildExpr

/-- What is looked up by name. -/
inductive Mention
  | property (name : String)
  | items (itemType : String)
  deriving DecidableEq

namespace TreeNode

/-- What a node looks up itself. -/
def mention? : TreeNode → Option Mention
  | property ref => ref.lookedUp?.map fun name => .property name.text
  | items list => some (.items list.itemType.text)
  | _ => none

/-- What is looked up anywhere in a tree. -/
def mentions (root : TreeNode) : Set Mention := {m | ∃ n, Below root n ∧ n.mention? = some m}

/-- What is looked up anywhere in some trees. -/
def allMentions (roots : List TreeNode) : Set Mention := {m | ∃ n ∈ roots, m ∈ n.mentions}

@[simp] theorem allMentions_nil : allMentions [] = ∅ := by
  ext m
  simp [allMentions]

@[simp] theorem allMentions_cons (n : TreeNode) (ns : List TreeNode) :
    allMentions (n :: ns) = n.mentions ∪ allMentions ns := by
  ext m
  simp [allMentions]

@[simp] theorem allMentions_append (ns ns' : List TreeNode) :
    allMentions (ns ++ ns') = allMentions ns ∪ allMentions ns' := by
  ext m
  simp only [allMentions, List.mem_append, Set.mem_ofPred_eq, Set.mem_union]
  constructor
  · rintro ⟨n, hn | hn, hm⟩
    · exact .inl ⟨n, hn, hm⟩
    · exact .inr ⟨n, hn, hm⟩
  · rintro (⟨n, hn, hm⟩ | ⟨n, hn, hm⟩)
    · exact ⟨n, .inl hn, hm⟩
    · exact ⟨n, .inr hn, hm⟩

theorem Below.of_child {root m n : TreeNode} (hm : m ∈ root.children) (h : Below m n) :
    Below root n := by
  induction h with
  | root => exact .child .root hm
  | child _ hn ih => exact .child ih hn

/-- A tree looks up what its root and the trees below its root look up. -/
theorem mentions_eq (n : TreeNode) :
    n.mentions = {m | n.mention? = some m} ∪ allMentions n.children := by
  ext m
  constructor
  · rintro ⟨below, hbelow, hm⟩
    rcases hbelow.eq_or_child with rfl | ⟨child, hchild, hbelow⟩
    · exact .inl hm
    · exact .inr ⟨child, hchild, below, hbelow, hm⟩
  · rintro (hm | ⟨child, hchild, below, hbelow, hm⟩)
    · exact ⟨n, .root, hm⟩
    · exact ⟨below, .of_child hchild hbelow, hm⟩

/-- A property of all nodes below a root holds everywhere. -/
theorem everywhere_of_below {p : TreeNode → Prop} (n : TreeNode) (h : ∀ m, Below n m → p m) :
    n.Everywhere p :=
  .intro (h n .root) fun m hm => everywhere_of_below m fun _ hbelow => h _ (.of_child hm hbelow)
  termination_by sizeOf n
  decreasing_by exact sizeOf_lt_of_mem_children ‹_›

/-- What holds of all that a tree looks up holds at each node that looks something up. -/
theorem everywhere_of_mentions {p : Mention → Prop} {n : TreeNode} (h : ∀ m ∈ n.mentions, p m) :
    n.Everywhere fun below => ∀ m, below.mention? = some m → p m :=
  everywhere_of_below n fun below hbelow m hm => h m ⟨below, hbelow, hm⟩

theorem mem_mentions_of_everywhere {p : Mention → Prop} {n : TreeNode}
    (h : n.Everywhere fun below => ∀ m, below.mention? = some m → p m) : ∀ m ∈ n.mentions, p m := by
  rintro m ⟨below, hbelow, hm⟩
  exact (h.of_below hbelow).here m hm

/-- Trees one by one with the same mentions have the same mentions together. -/
theorem allMentions_congr {ns ns' : List TreeNode}
    (h : List.Forall₂ (fun n n' => n.mentions = n'.mentions) ns ns') :
    allMentions ns = allMentions ns' := by
  induction h with
  | nil => rfl
  | cons hfirst _ ih => rw [allMentions_cons, allMentions_cons, hfirst, ih]

/-- Trees with the same name at the root and the same mentions below it. -/
theorem mentions_congr {n n' : TreeNode} (hroot : n.mention? = n'.mention?)
    (hchildren : List.Forall₂ (fun m m' => m.mentions = m'.mentions) n.children n'.children) :
    n.mentions = n'.mentions := by
  rw [mentions_eq, mentions_eq n', hroot, allMentions_congr hchildren]

@[simp] theorem mentions_leaf (s : Span) : (leaf s).mentions = ∅ := by
  rw [mentions_eq]
  ext m
  simp [mention?, children]

@[simp] theorem mentions_metadata (ref : MetadataRef) : (metadata ref).mentions = ∅ := by
  rw [mentions_eq]
  rcases ref with ⟨span, _ | itemType, name⟩ <;> ext m <;> simp [mention?, children]

/-! ## In another place -/

/-- The same node `k` bytes further. -/
def shift (k : Nat) : TreeNode → TreeNode
  | expression e => expression (e.shift k)
  | property ref => property (ref.shift k)
  | items list => items (list.shift k)
  | metadata ref => metadata (ref.shift k)
  | access a => access (a.shift k)
  | argument a => argument (a.shift k)
  | transform t => transform (t.shift k)
  | leaf s => leaf (s.shift k)

theorem node_shift (k : Nat) (s : Segment) : (s.shift k).node = s.node.shift k := by
  cases s <;> rfl

theorem children_shift (k : Nat) (n : TreeNode) :
    (n.shift k).children = n.children.map (shift k) := by
  cases n with
  | expression e =>
    simp only [shift, children, Expression.segments_shift, List.map_map]
    exact List.map_congr_left fun s _ => node_shift k s
  | property ref =>
    rcases ref with _ | _ | _ | ⟨span, receiver | receiver, accesses⟩
    case chain.property | chain.type =>
      simp [shift, children, Property.shift, Access.shiftAll_eq_map, Receiver.span]
    all_goals rfl
  | items list =>
    rcases list with ⟨span, itemType, transforms, _ | separator⟩ <;>
      simp [shift, children, ItemList.shift_mk]
  | metadata ref =>
    rcases ref with ⟨span, _ | itemType, name⟩ <;> rfl
  | access a => cases a <;> simp [shift, children, Access.shift, Argument.shiftAll_eq_map]
  | argument a => cases a <;> rfl
  | transform t => cases t <;> simp [shift, children, Transform.shift, Argument.shiftAll_eq_map]
  | leaf s => rfl

theorem mention?_shift (k : Nat) (n : TreeNode) : (n.shift k).mention? = n.mention? := by
  cases n with
  | property ref => rcases ref with _ | _ | _ | ⟨span, receiver | receiver, accesses⟩ <;> rfl
  | items list => rcases list with ⟨_, _, _, _ | _⟩ <;> rfl
  | _ => rfl

/-- What a tree looks up does not depend on where it stands. -/
theorem mentions_shift (k : Nat) (n : TreeNode) : (n.shift k).mentions = n.mentions := by
  have hchildren : List.Forall₂ (fun m m' => m.mentions = m'.mentions)
      (n.children.map (shift k)) n.children := by
    rw [List.forall₂_map_left_iff, List.forall₂_same]
    exact fun m hm => mentions_shift k m
  rw [← children_shift] at hchildren
  exact mentions_congr (mention?_shift k n) hchildren
  termination_by sizeOf n
  decreasing_by exact sizeOf_lt_of_mem_children ‹_›

end TreeNode

end BuildExpr
