import BuildExpr.Expression.Tree

/-!
# Nodes of a tree

All parts of the tree of an expression as one type, `TreeNode`, with the span and the children of
each. `TreeNode.Everywhere` says that a property holds of every node of a tree; it is what a reading
function is shown to establish level by level, and `TreeNode.Everywhere.of_below` reads it back at
any node below the root.
-/

namespace BuildExpr

/-- The span of the name of a receiver. -/
def Receiver.span : Receiver → Span
  | .property name | .type name => name

/-- The name of the property that a reference looks up. -/
def Property.lookedUp? : Property → Option Span
  | .named _ name | .chain _ (.property name) _ => some name
  | .registry _ _ | .bareRegistry _ _ | .chain _ (.type _) _ => none

/-- Whether an access is written with a name. -/
def Access.isNamed : Access → Bool
  | .method _ _ _ | .member _ _ => true
  | .index _ _ => false

/-- A part of the tree of an expression. -/
inductive TreeNode
  | expression (e : Expression)
  | property (ref : Property)
  | items (list : ItemList)
  | metadata (ref : MetadataRef)
  | access (access : Access)
  | argument (argument : Argument)
  | transform (transform : Transform)
  /-- A name, a key, a path or a run of plain text. -/
  | leaf (span : Span)

/-- The node of a segment. -/
def Segment.node : Segment → TreeNode
  | .literal span => .leaf span
  | .property ref => .property ref
  | .items list => .items list
  | .metadata ref => .metadata ref

namespace TreeNode

/-- The part of the text a node covers. -/
def span : TreeNode → Span
  | expression e => e.span
  | property ref => ref.span
  | items list => list.span
  | metadata ref => ref.span
  | access a => a.span
  | argument a => a.span
  | transform t => t.span
  | leaf s => s

/-- The parts directly below a node. -/
def children : TreeNode → List TreeNode
  | expression e => e.segments.map Segment.node
  | property (.named _ name) => [leaf name]
  | property (.registry _ key) => [leaf key]
  | property (.bareRegistry _ path) => [leaf path]
  | property (.chain _ receiver accesses) => leaf receiver.span :: accesses.map access
  | items (.mk _ itemType transforms separator) =>
    leaf itemType :: (transforms.map transform ++ separator.toList.map expression)
  | metadata ref => ref.itemType.toList.map leaf ++ [leaf ref.name]
  | access (.method _ name arguments) => leaf name :: arguments.map argument
  | access (.member _ name) => [leaf name]
  | access (.index _ index) => [argument index]
  | argument (.null _) => []
  | argument (.quoted value) | argument (.bare value) => [expression value]
  | transform (.pattern _ value) => [expression value]
  | transform (.function _ name arguments) => leaf name :: arguments.map argument
  | leaf _ => []

/-- Whether a node is a property reference, an item list or a metadata reference. -/
def isReference : TreeNode → Bool
  | property _ | items _ | metadata _ => true
  | _ => false

/-- Whether a node is an item list. -/
def isItems : TreeNode → Bool
  | items _ => true
  | _ => false

/-- Whether a node is a property reference. -/
def isProperty : TreeNode → Bool
  | property _ => true
  | _ => false

/-- Whether a node is a metadata reference. -/
def isMetadata : TreeNode → Bool
  | metadata _ => true
  | _ => false

/-- Whether a node is a member of a type. -/
def isStatic : TreeNode → Bool
  | property (.chain _ (.type _) _) => true
  | _ => false

/-- Whether a node is not a type without a named member after it. -/
def MemberNamed : TreeNode → Prop
  | property (.chain _ (.type _) accesses) => accesses.head?.any Access.isNamed = true
  | _ => True

/-- The nodes of a tree, given its root. -/
inductive Below (root : TreeNode) : TreeNode → Prop
  | root : Below root root
  | child {n m : TreeNode} (h : Below root n) (hm : m ∈ n.children) : Below root m

/-- A property that every node of a tree has. -/
inductive Everywhere (p : TreeNode → Prop) : TreeNode → Prop
  | intro {n : TreeNode} (h : p n) (children : ∀ m ∈ n.children, Everywhere p m) : Everywhere p n

theorem Everywhere.here {p : TreeNode → Prop} {n : TreeNode} (h : Everywhere p n) : p n := by
  cases h with
  | intro h _ => exact h

theorem Everywhere.child {p : TreeNode → Prop} {n m : TreeNode} (h : Everywhere p n)
    (hm : m ∈ n.children) : Everywhere p m := by
  cases h with
  | intro _ hc => exact hc m hm

theorem Everywhere.of_below {p : TreeNode → Prop} {root n : TreeNode} (h : Everywhere p root)
    (hn : Below root n) : Everywhere p n := by
  induction hn with
  | root => exact h
  | child _ hm ih => exact ih.child hm

theorem Everywhere.mono {p q : TreeNode → Prop} {n : TreeNode} (h : Everywhere p n)
    (hpq : ∀ m, p m → q m) : Everywhere q n := by
  induction h with
  | intro hn _ ih => exact .intro (hpq _ hn) ih

/-- A property of a leaf is all that has to be shown of it. -/
theorem Everywhere.leaf {p : TreeNode → Prop} {s : Span} (h : p (leaf s)) : Everywhere p (leaf s) :=
  .intro h (by simp [children])

@[simp] theorem span_node (s : Segment) : s.node.span = s.span := by
  cases s <;> rfl

/-! ## Induction on a tree -/

theorem sizeOf_le_of_mem_map {α : Type} [SizeOf α] {f : α → TreeNode}
    (hf : ∀ a, sizeOf (f a) ≤ 1 + sizeOf a) {as : List α} {m : TreeNode} (h : m ∈ as.map f) :
    sizeOf m ≤ sizeOf as := by
  obtain ⟨a, ha, rfl⟩ := List.mem_map.1 h
  have := List.sizeOf_lt_of_mem ha
  have := hf a
  omega

theorem sizeOf_lt_of_mem_children {n m : TreeNode} (h : m ∈ n.children) : sizeOf m < sizeOf n := by
  cases n with
  | expression e =>
    obtain ⟨span, segments⟩ := e
    have := sizeOf_le_of_mem_map (fun s => by cases s <;> simp [Segment.node]) h
    simp only [Expression.segments, expression.sizeOf_spec, Expression.mk.sizeOf_spec] at this ⊢
    omega
  | property ref =>
    cases ref with
    | chain span receiver accesses =>
      rcases List.mem_cons.1 h with rfl | h
      · cases receiver <;> simp [Receiver.span] <;> omega
      · have := sizeOf_le_of_mem_map (fun _ => Nat.le_refl _) h
        simp only [property.sizeOf_spec, Property.chain.sizeOf_spec]
        omega
    | named _ _ | registry _ _ | bareRegistry _ _ =>
      obtain rfl := List.mem_singleton.1 h
      simp only [leaf.sizeOf_spec, property.sizeOf_spec, Property.named.sizeOf_spec,
        Property.registry.sizeOf_spec, Property.bareRegistry.sizeOf_spec]
      omega
  | items list =>
    obtain ⟨span, itemType, transforms, separator⟩ := list
    simp only [children, List.mem_cons, List.mem_append] at h
    simp only [items.sizeOf_spec, ItemList.mk.sizeOf_spec]
    rcases h with rfl | h | h
    · simp only [leaf.sizeOf_spec]
      omega
    · have := sizeOf_le_of_mem_map (fun _ => Nat.le_refl _) h
      omega
    · obtain ⟨e, he, rfl⟩ := List.mem_map.1 h
      rw [Option.mem_toList.1 he]
      simp only [expression.sizeOf_spec, Option.some.sizeOf_spec]
      omega
  | metadata ref =>
    obtain ⟨span, itemType, name⟩ := ref
    simp only [metadata.sizeOf_spec, MetadataRef.mk.sizeOf_spec]
    rcases List.mem_append.1 h with h | h
    · obtain ⟨s, hs, rfl⟩ := List.mem_map.1 h
      rw [show itemType = some s from Option.mem_toList.1 hs]
      simp only [leaf.sizeOf_spec, Option.some.sizeOf_spec]
      omega
    · obtain rfl := List.mem_singleton.1 h
      simp only [leaf.sizeOf_spec]
      omega
  | access a =>
    cases a with
    | method span name arguments =>
      simp only [access.sizeOf_spec, Access.method.sizeOf_spec]
      rcases List.mem_cons.1 h with rfl | h
      · simp only [leaf.sizeOf_spec]
        omega
      · have := sizeOf_le_of_mem_map (fun _ => Nat.le_refl _) h
        omega
    | member _ _ | index _ _ =>
      obtain rfl := List.mem_singleton.1 h
      simp only [leaf.sizeOf_spec, argument.sizeOf_spec, access.sizeOf_spec,
        Access.member.sizeOf_spec, Access.index.sizeOf_spec]
      omega
  | argument a =>
    cases a with
    | null _ => cases h
    | quoted _ | bare _ =>
      obtain rfl := List.mem_singleton.1 h
      simp
  | transform t =>
    cases t with
    | function span name arguments =>
      simp only [transform.sizeOf_spec, Transform.function.sizeOf_spec]
      rcases List.mem_cons.1 h with rfl | h
      · simp only [leaf.sizeOf_spec]
        omega
      · have := sizeOf_le_of_mem_map (fun _ => Nat.le_refl _) h
        omega
    | pattern _ _ =>
      obtain rfl := List.mem_singleton.1 h
      simp only [expression.sizeOf_spec, transform.sizeOf_spec, Transform.pattern.sizeOf_spec]
      omega
  | leaf s => cases h

/-- A property of all nodes is one of every node of a tree. -/
theorem Everywhere.all {p : TreeNode → Prop} (h : ∀ n, p n) (n : TreeNode) : Everywhere p n :=
  .intro (h n) fun m _ => all h m
  termination_by sizeOf n
  decreasing_by exact sizeOf_lt_of_mem_children ‹_›

/-- Whether a tree has at most as many levels as given and passes a test at all its nodes. -/
def passes (test : TreeNode → Bool) : Nat → TreeNode → Bool
  | 0, _ => false
  | depth + 1, n => test n && n.children.all (passes test depth)

theorem everywhere_of_passes {test : TreeNode → Bool} {p : TreeNode → Prop}
    (htest : ∀ n, test n = true → p n) {depth : Nat} {n : TreeNode}
    (h : passes test depth n = true) : Everywhere p n := by
  induction depth generalizing n with
  | zero => cases h
  | succ depth ih =>
    simp only [passes, Bool.and_eq_true, List.all_eq_true] at h
    exact .intro (htest n h.1) fun m hm => ih (h.2 m hm)

/-- Whether a node passes a test, or one at most as many levels below it as given. -/
def finds (test : TreeNode → Bool) : Nat → TreeNode → Bool
  | 0, n => test n
  | depth + 1, n => test n || n.children.any (finds test depth)

theorem exists_below_of_finds {test : TreeNode → Bool} {depth : Nat} {root n : TreeNode}
    (hn : Below root n) (h : finds test depth n = true) : ∃ m, Below root m ∧ test m = true := by
  induction depth generalizing n with
  | zero => exact ⟨n, hn, h⟩
  | succ depth ih =>
    simp only [finds, Bool.or_eq_true, List.any_eq_true] at h
    obtain htest | ⟨m, hm, hfinds⟩ := h
    · exact ⟨n, hn, htest⟩
    · exact ih (hn.child hm) hfinds

end TreeNode

end BuildExpr
