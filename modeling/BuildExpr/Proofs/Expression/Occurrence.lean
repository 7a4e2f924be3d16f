import BuildExpr.Proofs.Expression.Everywhere

/-!
# Where references of each kind occur

A property reference is read only where the text as a whole asks for property references, since no
step on the way down changes that. Item lists are parts of the text itself: nothing below one of its
segments is one. Outside of item lists metadata references are read only where the text asks for
them; inside of them they are always read.
-/

namespace BuildExpr

namespace TreeNode

/-- The nodes of a tree that are not inside its item lists. -/
inductive Outside (root : TreeNode) : TreeNode → Prop
  | root : Outside root root
  | child {n m : TreeNode} (h : Outside root n) (hlist : n.isItems = false) (hm : m ∈ n.children) :
    Outside root m

/-- A node below another is the other or below one of its children. -/
theorem Below.eq_or_child {root n : TreeNode} (h : Below root n) :
    n = root ∨ ∃ m ∈ root.children, Below m n := by
  induction h with
  | root => exact .inl rfl
  | @child n m h hm ih =>
    obtain rfl | ⟨first, hfirst, hn⟩ := ih
    · exact .inr ⟨m, hm, .root⟩
    · exact .inr ⟨first, hfirst, .child hn hm⟩

namespace Requested

variable {options : Options} {root n : TreeNode}

/-- No step on the way down changes whether property references are requested. -/
theorem properties_of_below (h : Requested options root) (hn : Below root n) :
    ∃ options', options'.properties = options.properties ∧ Requested options' n := by
  induction hn with
  | root => exact ⟨options, rfl, h⟩
  | @child n m _ hm ih =>
    obtain ⟨options', heq, hn⟩ := ih
    refine ⟨n.inner options', ?_, hn.child hm⟩
    rw [← heq]
    cases n <;> rfl

/-- What is read where property references are not requested has none in it. -/
theorem everywhere_not_isProperty (h : Requested options n) (hoptions : options.properties = false) :
    n.Everywhere fun m => m.isProperty = false := by
  induction h with
  | @intro options n granted _ _ ih =>
    refine .intro ?_ fun m hm => ih m hm ?_
    · cases n with
      | property ref =>
        rw [show _ = true from granted] at hoptions
        cases hoptions
      | _ => rfl
    · cases n <;> exact hoptions

/-- Only a step into an item list changes whether metadata references are requested. -/
theorem metadata_of_outside (h : Requested options root) (hn : Outside root n) :
    ∃ options', options'.metadata = options.metadata ∧ Requested options' n := by
  induction hn with
  | root => exact ⟨options, rfl, h⟩
  | @child n m _ hlist hm ih =>
    obtain ⟨options', heq, hn⟩ := ih
    refine ⟨n.inner options', ?_, hn.child hm⟩
    rw [← heq]
    cases n with
    | items list => cases hlist
    | _ => rfl

/-- What is read where item lists are not requested is flat. -/
theorem flat (h : Requested options n) (hitems : options.items = false) : n.Flat :=
  Expression.grants_flat.everywhere_of_requested h hitems

theorem flat_argument {a : Argument} (h : Requested options (argument a)) : (argument a).Flat :=
  .intro rfl fun _ hm => (h.child hm).flat rfl

theorem flat_access {a : Access} (h : Requested options (access a)) : (access a).Flat := by
  refine .intro rfl fun m hm => ?_
  have hchild := h.child hm
  cases a with
  | method span name arguments =>
    rcases List.mem_cons.1 hm with rfl | hm
    · exact .leaf rfl
    · obtain ⟨a, -, rfl⟩ := List.mem_map.1 hm
      exact hchild.flat_argument
  | member span name =>
    obtain rfl := List.mem_singleton.1 hm
    exact .leaf rfl
  | index span index =>
    obtain rfl := List.mem_singleton.1 hm
    exact hchild.flat_argument

/-- Nothing below a segment of a text is an item list. -/
theorem flat_of_mem_children {s : Segment} (h : Requested options s.node) {m : TreeNode}
    (hm : m ∈ s.node.children) : m.Flat := by
  have hchild := h.child hm
  cases s with
  | literal span => cases hm
  | property ref =>
    cases ref with
    | chain span receiver accesses =>
      rcases List.mem_cons.1 hm with rfl | hm
      · exact .leaf rfl
      · obtain ⟨a, -, rfl⟩ := List.mem_map.1 hm
        exact hchild.flat_access
    | _ =>
      obtain rfl := List.mem_singleton.1 hm
      exact .leaf rfl
  | items list => exact hchild.flat rfl
  | metadata ref =>
    rcases List.mem_append.1 hm with hm | hm
    · obtain ⟨name, -, rfl⟩ := List.mem_map.1 hm
      exact .leaf rfl
    · obtain rfl := List.mem_singleton.1 hm
      exact .leaf rfl

/-- The item lists of a text are among its segments. -/
theorem mem_segments {e : Expression} (h : Requested options (expression e)) {list : ItemList}
    (hlist : Below (expression e) (items list)) : .items list ∈ e.segments := by
  obtain hroot | ⟨m, hm, hbelow⟩ := hlist.eq_or_child
  · cases hroot
  · obtain ⟨s, hs, rfl⟩ := List.mem_map.1 hm
    obtain heq | ⟨inside, hinside, hbelow⟩ := hbelow.eq_or_child
    · cases s with
      | items other =>
        cases heq
        exact hs
      | _ => cases heq
    · have hflat := ((h.child hm).flat_of_mem_children hinside).of_below hbelow
      exact absurd hflat.here (by simp [isItems])

end Requested

end TreeNode

namespace Expression

open TreeNode

/-- **Only references of the requested kinds are read, at every depth.** A property reference stands
anywhere in the tree of a text only on request; an item list stands among the segments of the text
itself only, never further down, and only on request; a metadata reference stands outside of item
lists only on request. -/
theorem references_requested {options : Options} {text : String} {e : Expression}
    (he : Expression.parse options text = .ok e) :
    (∀ ref, Below (expression e) (property ref) → options.properties = true) ∧
    (∀ list, Below (expression e) (items list) →
      .items list ∈ e.segments ∧ options.items = true) ∧
    (∀ s ∈ e.segments, ∀ m ∈ s.node.children, ∀ n, Below m n → n.isItems = false) ∧
    (∀ ref, Outside (expression e) (metadata ref) → options.metadata = true) := by
  have hrequested := requested_parse he
  have hnode {s : Segment} (hs : s ∈ e.segments) : Requested options s.node :=
    hrequested.child (List.mem_map_of_mem hs)
  refine ⟨fun ref hbelow => ?_, fun list hbelow => ?_, fun s hs m hm n hbelow => ?_,
    fun ref houtside => ?_⟩
  · obtain ⟨options', heq, hproperty⟩ := hrequested.properties_of_below hbelow
    exact heq ▸ hproperty.granted
  · have hmem := hrequested.mem_segments hbelow
    have hlist : Requested options (items list) := hnode hmem
    exact ⟨hmem, hlist.granted⟩
  · have hflat := (hnode hs).flat_of_mem_children hm
    exact (hflat.of_below hbelow).here
  · obtain ⟨options', heq, hmetadata⟩ := hrequested.metadata_of_outside houtside
    exact heq ▸ hmetadata.granted

/-- Where only item lists are requested, the metadata references of a pattern are read, but no other
metadata reference and no property reference. -/
theorem references_requested_of_pattern :
    ∃ e, Expression.parse { items := true } "@(I->'%(M)$(P)')%(N)$(P)" = .ok e ∧
      (∃ ref, Below (expression e) (metadata ref)) ∧
      (∀ ref, ¬Outside (expression e) (metadata ref)) ∧
      (∀ ref, ¬Below (expression e) (property ref)) ∧
      ∀ list, Below (expression e) (items list) → .items list ∈ e.segments := by
  have hfinds : (Expression.parse { items := true } "@(I->'%(M)$(P)')%(N)$(P)").toOption.any
      (fun e => (expression e).finds isMetadata 4) = true := by
    decide +kernel
  cases he : Expression.parse { items := true } "@(I->'%(M)$(P)')%(N)$(P)" with
  | error m =>
    rw [he] at hfinds
    cases hfinds
  | ok e =>
    rw [he] at hfinds
    obtain ⟨hproperties, hitems, -, hmetadata⟩ := references_requested he
    refine ⟨e, rfl, ?_, fun ref hbelow => ?_, fun ref hbelow => ?_, fun list hbelow => ?_⟩
    · obtain ⟨m, hbelow, hm⟩ := exists_below_of_finds .root hfinds
      cases m with
      | metadata ref => exact ⟨ref, hbelow⟩
      | expression _ | property _ | items _ | access _ | argument _ | transform _ | leaf _ =>
        cases hm
    · cases hmetadata ref hbelow
    · cases hproperties ref hbelow
    · exact (hitems list hbelow).1

end Expression

end BuildExpr
