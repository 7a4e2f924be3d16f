import BuildExpr.Proofs.Expression.Chunks
import BuildExpr.Proofs.Expression.Nodes
import BuildExpr.Proofs.Expression.Reads

/-!
# References of the requested kinds

Which kinds of references a text holds is settled by the options it is read with, and these change
on the way down: an argument asks for no item lists, an item list for none either but for metadata,
and a list that is copied through for no metadata. A tree is `Requested` under the options of its
root when every reference in it is of a kind that the options of its own place request. All trees
that are read are (`requested_parseUpTo`), so item lists stand among the segments of the text only
and metadata outside of them only on request (`requested_parse`).
-/

namespace BuildExpr

namespace TreeNode

/-- The options that the texts below a node are read with, given those of the node. -/
def inner (options : Options) : TreeNode → Options
  | items _ => Expression.listOptions options
  | argument _ => Expression.argumentOptions options
  | _ => options

/-- Whether a node is no reference of a kind that the options leave as plain text. -/
def Granted (options : Options) : TreeNode → Prop
  | property _ => options.properties = true
  | items _ => options.items = true
  | metadata _ => options.metadata = true
  | _ => True

/-- A tree, read with the given options, whose references are of the kinds that the options of
their places request. -/
inductive Requested : Options → TreeNode → Prop
  | intro {options : Options} {n : TreeNode} (granted : n.Granted options) (named : n.MemberNamed)
    (children : ∀ m ∈ n.children, Requested (n.inner options) m) : Requested options n

namespace Requested

variable {options : Options} {n m : TreeNode}

theorem granted (h : Requested options n) : n.Granted options := by
  cases h with
  | intro granted _ _ => exact granted

theorem named (h : Requested options n) : n.MemberNamed := by
  cases h with
  | intro _ named _ => exact named

theorem child (h : Requested options n) (hm : m ∈ n.children) :
    Requested (n.inner options) m := by
  cases h with
  | intro _ _ children => exact children m hm

theorem leaf (options : Options) (s : Span) : Requested options (leaf s) :=
  .intro trivial trivial (by simp [children])

/-- What is read without metadata of its own could have been read with it. -/
theorem of_withoutMetadata (h : Requested { options with metadata := false } n) :
    Requested options n := by
  generalize hwithout : { options with metadata := false } = without at h
  induction h generalizing options with
  | @intro without n granted named children ih =>
    subst hwithout
    refine .intro ?_ named fun m hm => ?_
    · cases n with
      | metadata ref => exact absurd granted (by simp [Granted])
      | _ => exact granted
    · cases n with
      | items list => exact children m hm
      | argument a => exact ih m hm rfl
      | _ => exact ih m hm rfl

end Requested

/-- The parts of an item list, all read with the given options. -/
def RequestedParts (options : Options) (parts : List Transform × Option Expression) : Prop :=
  (∀ t ∈ parts.1, Requested options (transform t)) ∧
    ∀ e ∈ parts.2, Requested options (expression e)

end TreeNode

namespace Expression

open TreeNode

/-- A reader of trees that hold references of the requested kinds only. -/
def Obeys (read : Reader) : Prop :=
  ∀ options r e, read options r = .ok e → Requested options (expression e)

namespace Obeys

variable {read : Reader} {options : Options} {ref : Span}

/-! ## Arguments and members -/

theorem parseArgument (hread : Obeys read) {piece : Rest} {a : Argument}
    (ha : Expression.parseArgument read options piece = .ok a) :
    Requested options (argument a) := by
  cases parseArgument_eq_ok.1 ha with
  | quoted _ value | bare _ _ value =>
    exact .intro trivial trivial (by simpa [children, TreeNode.inner] using hread _ _ _ value)
  | null _ _ => exact .intro trivial trivial (by simp [children])

theorem parseArguments (hread : Obeys read) {inside : Rest} {arguments : List Argument}
    (has : Expression.parseArguments read options ref inside = .ok arguments) :
    ∀ a ∈ arguments, Requested options (argument a) := by
  rw [Expression.parseArguments] at has
  split at has
  · obtain rfl := Except.ok.inj has
    simp
  · split at has
    · cases has
    · exact Except.forall_of_mapM_eq_ok has fun _ _ _ ha => hread.parseArgument ha

theorem parseAccess (hread : Obeys read) {raw : RawAccess} {a : Access}
    (ha : Expression.parseAccess read options ref raw = .ok a) : Requested options (access a) := by
  cases raw with
  | method span name arguments =>
    obtain ⟨as, has, ha⟩ := Except.bind_eq_ok.1 ha
    obtain rfl := Except.ok.inj ha
    have harguments := hread.parseArguments has
    exact .intro trivial trivial
      (by simpa [children, TreeNode.inner] using ⟨Requested.leaf options name, harguments⟩)
  | member span name =>
    obtain rfl := Except.ok.inj ha
    exact .intro trivial trivial
      (by simpa [children, TreeNode.inner] using Requested.leaf options name)
  | index span index =>
    obtain ⟨i, hi, ha⟩ := Except.bind_eq_ok.1 ha
    obtain rfl := Except.ok.inj ha
    exact .intro trivial trivial (by simpa [children, TreeNode.inner] using hread.parseArgument hi)
  | fault fault => cases ha

theorem parseAccesses (hread : Obeys read) {raws : List RawAccess} {accesses : List Access}
    (has : raws.mapM (Expression.parseAccess read options ref) = .ok accesses) :
    ∀ a ∈ accesses, Requested options (access a) :=
  Except.forall_of_mapM_eq_ok has fun _ _ _ ha => hread.parseAccess ha

end Obeys

/-- The member whose name was just read is named. -/
theorem isNamed_of_memberTail {read : Reader} {options : Options} {ref : Span} {start after : Rest}
    {name : Span} {a : Access}
    (ha : parseAccess read options ref (Rest.memberTail start name after).1 = .ok a) :
    a.isNamed = true := by
  rw [Rest.memberTail] at ha
  split at ha
  · split at ha
    · obtain ⟨as, -, ha⟩ := Except.bind_eq_ok.1 ha
      obtain rfl := Except.ok.inj ha
      rfl
    · cases ha
  · obtain rfl := Except.ok.inj ha
    rfl

namespace Obeys

variable {read : Reader} {options : Options} {ref : Span}

/-! ## Property references -/

theorem requested_chain {receiver : Receiver} {accesses : List Access}
    (hoptions : options.properties = true)
    (hnamed : (property (.chain ref receiver accesses)).MemberNamed)
    (has : ∀ a ∈ accesses, Requested options (access a)) :
    Requested options (property (.chain ref receiver accesses)) :=
  .intro hoptions hnamed
    (by simpa [children, TreeNode.inner] using ⟨Requested.leaf options receiver.span, has⟩)

theorem readsStatic (hread : Obeys read) (hoptions : options.properties = true) {text : Rest}
    {p : Property} (hp : ReadsStatic read options ref text p) :
    Requested options (property p) := by
  obtain ⟨_, _, _, _, first, others⟩ := hp
  have hnamed := isNamed_of_memberTail first
  exact requested_chain hoptions hnamed
    (List.forall_mem_cons.2 ⟨hread.parseAccess first, hread.parseAccesses others⟩)

theorem parseProperty (hread : Obeys read) (hoptions : options.properties = true) {body : Rest}
    {p : Property} (hp : Expression.parseProperty read options ref body = .ok p) :
    Requested options (property p) := by
  have hsingle {p : Property} {s : Span} (hnamed : (property p).MemberNamed)
      (hp : (property p).children = [leaf s]) : Requested options (property p) :=
    .intro hoptions hnamed (by simpa [hp, TreeNode.inner] using Requested.leaf options s)
  cases parseProperty_eq_ok.1 hp with
  | registry _ | bareRegistry _ _ _ _ | named _ _ _ _ => exact hsingle trivial rfl
  | static _ _ members => exact hread.readsStatic hoptions members
  | chain _ _ _ _ _ others =>
    exact requested_chain hoptions trivial (hread.parseAccesses others)

/-! ## Item lists -/

theorem parseStage (hread : Obeys read) {parts next : List Transform × Option Expression}
    {raw : RawStage} (hparts : RequestedParts (listOptions options) parts)
    (hnext : Expression.parseStage read options ref parts raw = .ok next) :
    RequestedParts (listOptions options) next := by
  have hadd {t : Transform} (ht : Requested (listOptions options) (transform t)) :
      RequestedParts (listOptions options) (parts.1 ++ [t], parts.2) := by
    refine ⟨fun u hu => ?_, hparts.2⟩
    rcases List.mem_append.1 hu with hu | hu
    · exact hparts.1 u hu
    · rw [List.mem_singleton.1 hu]
      exact ht
  cases raw with
  | pattern span value =>
    obtain ⟨e, he, hnext⟩ := Except.bind_eq_ok.1 hnext
    obtain rfl := Except.ok.inj hnext
    have hvalue := hread _ value e he
    exact hadd (.intro trivial trivial (by simpa [children, TreeNode.inner] using hvalue))
  | function span name arguments =>
    obtain ⟨as, has, hnext⟩ := Except.bind_eq_ok.1 hnext
    obtain rfl := Except.ok.inj hnext
    have harguments := hread.parseArguments has
    exact hadd (.intro trivial trivial
      (by simpa [children, TreeNode.inner] using ⟨Requested.leaf _ name, harguments⟩))
  | separator value =>
    obtain ⟨e, he, hnext⟩ := Except.bind_eq_ok.1 hnext
    obtain rfl := Except.ok.inj hnext
    exact ⟨hparts.1, by simpa using hread _ value e he⟩
  | fault fault => cases hnext

/-- The stages of an item list keep to the options inside it. -/
theorem parseStages (hread : Obeys read) {raws : List RawStage}
    {parts last : List Transform × Option Expression}
    (hparts : RequestedParts (listOptions options) parts)
    (hlast : raws.foldlM (Expression.parseStage read options ref) parts = .ok last) :
    RequestedParts (listOptions options) last := by
  induction raws generalizing parts with
  | nil =>
    obtain rfl := Except.ok.inj hlast
    exact hparts
  | cons raw raws ih =>
    rw [List.foldlM_cons] at hlast
    obtain ⟨next, hnext, hlast⟩ := Except.bind_eq_ok.1 hlast
    exact ih (hread.parseStage hparts hnext) hlast

theorem parseItems (hread : Obeys read) (hoptions : options.items = true) {body : Rest}
    {list : ItemList} (hlist : Expression.parseItems read options ref body = .ok list) :
    Requested options (items list) := by
  obtain ⟨itemType, after, parts, -, hparts, rfl⟩ := parseItems_eq_ok.1 hlist
  obtain ⟨htransforms, hseparator⟩ := hread.parseStages ⟨by simp, by simp⟩ hparts
  refine .intro hoptions trivial fun m hm => ?_
  simp only [children, List.mem_cons, List.mem_append, List.mem_map, Option.mem_toList] at hm
  rcases hm with rfl | ⟨t, ht, rfl⟩ | ⟨e, he, rfl⟩
  · exact Requested.leaf _ itemType
  · exact htransforms t ht
  · exact hseparator e he

end Obeys

/-! ## Texts -/

theorem requested_metadata {options : Options} (hoptions : options.metadata = true)
    (ref : MetadataRef) : Requested options (metadata ref) := by
  refine .intro hoptions trivial fun m hm => ?_
  simp only [children, List.mem_append, List.mem_map, Option.mem_toList, List.mem_singleton] at hm
  rcases hm with ⟨s, -, rfl⟩ | rfl <;> exact Requested.leaf _ _

end Expression

namespace Chunk

/-- Whether a chunk is no reference of a kind that the options leave as plain text. -/
def IsRequested (options : Options) : Chunk → Prop
  | property _ _ => options.properties = true
  | items _ _ => options.items = true
  | metadata _ => options.metadata = true
  | _ => True

theorem Reads.isRequested {options : Options} {pos : Nat} {ref : List Char} {chunk : Chunk}
    (h : Reads options pos ref chunk) : chunk.IsRequested options := by
  cases h with
  | property requested _ => exact requested
  | items requested _ => exact requested
  | metadata requested _ _ => exact requested

/-- The references that a text is cut at are of the requested kinds. -/
theorem isRequested_of_mem_chunks {options : Options} {r : Rest} :
    ∀ chunk ∈ r.chunks options, chunk.IsRequested options :=
  forall_mem_chunks (fun _ => trivial) (fun _ _ _ hreads => hreads.isRequested) (fun _ => trivial)
    (fun _ _ _ => trivial) r

end Chunk

namespace Expression

open TreeNode

namespace Obeys

variable {read : Reader} {options : Options}

theorem parseChunk (hread : Obeys read) {chunk : Chunk} (hchunk : chunk.IsRequested options)
    {segments : List Segment} (hs : Expression.parseChunk read options chunk = .ok segments) :
    ∀ s ∈ segments, Requested options s.node := by
  cases chunk with
  | literal span =>
    obtain rfl := Except.ok.inj hs
    simpa [Segment.node] using Requested.leaf options span
  | property span body =>
    obtain ⟨p, hp, hs⟩ := Except.bind_eq_ok.1 hs
    obtain rfl := Except.ok.inj hs
    simpa [Segment.node] using hread.parseProperty hchunk hp
  | items span body =>
    obtain ⟨list, hlist, hs⟩ := Except.bind_eq_ok.1 hs
    obtain rfl := Except.ok.inj hs
    simpa [Segment.node] using hread.parseItems hchunk hlist
  | metadata ref =>
    obtain rfl := Except.ok.inj hs
    simpa [Segment.node] using requested_metadata hchunk ref
  | copied body =>
    obtain ⟨e, he, hs⟩ := Except.bind_eq_ok.1 hs
    obtain rfl := Except.ok.inj hs
    intro s hs
    exact (hread _ _ e he).of_withoutMetadata.child (List.mem_map_of_mem hs)
  | unclosed rest => cases hs

theorem parseLevel (hread : Obeys read) : Obeys (Expression.parseLevel read) := by
  intro options r e he
  obtain ⟨segments, hsegments, he⟩ := Except.bind_eq_ok.1 he
  obtain rfl := Except.ok.inj he
  have hall := Except.forall_of_mapM_eq_ok
    (p := fun segments => ∀ s ∈ segments, Requested options s.node) hsegments
    fun chunk hchunk segments hs => hread.parseChunk (Chunk.isRequested_of_mem_chunks _ hchunk) hs
  refine .intro trivial trivial fun m hm => ?_
  obtain ⟨s, hs, rfl⟩ := List.mem_map.1 hm
  obtain ⟨first, hfirst, hs⟩ := List.mem_flatten.1 hs
  exact hall first hfirst s hs

end Obeys

/-- The references in a tree that is read are of the kinds that their places ask for. -/
theorem requested_parseUpTo (depth : Nat) : Obeys (parseUpTo depth) := by
  induction depth with
  | zero =>
    intro options r e he
    obtain rfl := Except.ok.inj he
    exact .intro trivial trivial (by simp [children, segments])
  | succ depth ih => exact ih.parseLevel

theorem requested_parse {options : Options} {text : String} {e : Expression}
    (he : Expression.parse options text = .ok e) : Requested options (expression e) :=
  requested_parseUpTo _ options _ e he

end Expression

end BuildExpr
