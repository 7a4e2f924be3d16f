import BuildExpr.Proofs.Expression.Chunks
import BuildExpr.Proofs.Expression.Nodes
import BuildExpr.Proofs.Expression.Reads
import BuildExpr.Proofs.Source.Within

/-!
# Where the nodes of a tree lie

Spans tile a text when they are non-empty and each begins where the one before it ends. `Tile`
states this on positions; `Rest.Tiles`, which also says what the spans hold, is the form in which
a text is read.

Reading puts every node within the node above it, every part of a reference strictly inside the
reference, and tiles the text of an expression with its segments (`TreeNode.Placed`). A reader is
`Sound` when it does so and tells references from plain text, in which there is no opening of a
requested one; here the inside of a reference is shown to be placed if its nested texts are read by
a sound reader.
-/

namespace BuildExpr

/-! ## Tilings -/

/-- Non-empty spans from `start` to `stop`, each beginning where the one before it ends. -/
def Tile (start stop : Nat) : List Span → Prop
  | [] => start = stop
  | s :: spans => s.start = start ∧ start < s.stop ∧ Tile s.stop stop spans

namespace Rest

/-- The spans of a text that is cut into non-empty parts. -/
def Tiles : Nat → List Char → List Span → Prop
  | _, cs, [] => cs = []
  | pos, cs, s :: spans =>
    s.start = pos ∧ s.text.toList ≠ [] ∧
      ∃ more, cs = s.text.toList ++ more ∧ Tiles s.stop more spans

variable {pos : Nat} {cs xs ys : List Char} {spans more : List Span}

theorem Tiles.append (hx : Tiles pos xs spans) (hy : Tiles (pos + Chars.byteLength xs) ys more) :
    Tiles pos (xs ++ ys) (spans ++ more) := by
  induction spans generalizing pos xs with
  | nil =>
    obtain rfl : xs = [] := hx
    simpa using hy
  | cons s spans ih =>
    obtain ⟨hstart, hne, rest, rfl, hrest⟩ := hx
    refine ⟨hstart, hne, rest ++ ys, by simp, ih hrest ?_⟩
    rw [Chars.byteLength_append, ← Nat.add_assoc, ← hstart] at hy
    exact hy

/-- One span over a whole text. -/
theorem tiles_singleton {s : Span} (hne : s.text.toList ≠ []) :
    Tiles s.start s.text.toList [s] :=
  ⟨rfl, hne, [], by simp, rfl⟩

theorem Tiles.tile (h : Tiles pos cs spans) : Tile pos (pos + Chars.byteLength cs) spans := by
  induction spans generalizing pos cs with
  | nil =>
    obtain rfl : cs = [] := h
    simp [Tile]
  | cons s spans ih =>
    obtain ⟨hstart, hne, rest, rfl, hrest⟩ := h
    have hpos := byteLength_pos hne
    refine ⟨hstart, by simp only [Span.stop]; omega, ?_⟩
    have := ih hrest
    rwa [Chars.byteLength_append, ← Nat.add_assoc, ← hstart]

/-- The texts of the spans make up the text. -/
theorem Tiles.flatMap (h : Tiles pos cs spans) : spans.flatMap (·.text.toList) = cs := by
  induction spans generalizing pos cs with
  | nil => exact h.symm
  | cons s spans ih =>
    obtain ⟨-, -, rest, rfl, hrest⟩ := h
    rw [List.flatMap_cons, ih hrest]

theorem Tiles.within (h : Tiles pos cs spans) : ∀ s ∈ spans, s.toRest.Within ⟨pos, cs⟩ := by
  induction spans generalizing pos cs with
  | nil => simp
  | cons s spans ih =>
    obtain ⟨hstart, -, rest, rfl, hrest⟩ := h
    intro t ht
    rcases List.mem_cons.1 ht with rfl | ht
    · exact ⟨[], rest, by simp, by simp [hstart]⟩
    · refine (ih hrest t ht).trans ⟨s.text.toList, [], by simp, ?_⟩
      simp [Span.stop, hstart]

end Rest

/-! ## Placed nodes -/

/-- Where a node lies: its children lie within it, and strictly inside it when it is a reference;
the segments of an expression tile its text. -/
structure TreeNode.Placed (n : TreeNode) : Prop where
  within : ∀ m ∈ n.children, m.span.toRest.Within n.span.toRest
  inside : n.isReference = true → ∀ m ∈ n.children, m.span.toRest.Inside n.span.toRest
  tiles : ∀ e, n = .expression e →
    Rest.Tiles e.span.start e.span.text.toList (e.segments.map Segment.span)

/-- A run of plain text without the opening of a requested property reference or item list. -/
def NoOpening (options : Options) (cs : List Char) : Prop :=
  (options.properties = true → ¬['$', '('] <:+: cs) ∧
    (options.items = true → ¬['@', '('] <:+: cs)

/-- Whether plain text has no opening in it and all else is the text of a reference. -/
def Segment.Told (options : Options) : Segment → Prop
  | .literal span => NoOpening options span.text.toList
  | segment => Chars.IsReference segment.span.text.toList

namespace Expression

/-- A reader that places what it reads from texts shorter than `n`, and tells references from plain
text. -/
def Sound (n : Nat) (read : Reader) : Prop :=
  ∀ options r e, r.chars.length < n → read options r = .ok e →
    e.span = r.span ∧ (TreeNode.expression e).Everywhere TreeNode.Placed ∧
      ∀ s ∈ e.segments, s.Told options

namespace Sound

open TreeNode

variable {n : Nat} {read : Reader} {options : Options} {ref : Span}

/-! ## Nodes without references of their own -/

theorem placed_leaf (s : Span) : (leaf s).Everywhere Placed :=
  .leaf ⟨by simp [children], by simp [children], by simp⟩

/-- A node that is neither a reference nor an expression is placed when its children are. -/
theorem everywhere_of_children {node : TreeNode} (href : node.isReference = false)
    (hexpr : ∀ e, node ≠ .expression e)
    (h : ∀ m ∈ node.children, m.span.toRest.Within node.span.toRest ∧ m.Everywhere Placed) :
    node.Everywhere Placed :=
  .intro ⟨fun m hm => (h m hm).1, by simp [href], fun e he => absurd he (hexpr e)⟩
    fun m hm => (h m hm).2

/-- A reference is placed when its children lie strictly inside it. -/
theorem everywhere_of_inside {node : TreeNode} (hexpr : ∀ e, node ≠ .expression e)
    (h : ∀ m ∈ node.children, m.span.toRest.Inside node.span.toRest ∧ m.Everywhere Placed) :
    node.Everywhere Placed :=
  .intro ⟨fun m hm => (h m hm).1.within, fun _ m hm => (h m hm).1,
    fun e he => absurd he (hexpr e)⟩ fun m hm => (h m hm).2

/-! ## Arguments -/

theorem parseArgument (hread : Sound n read) {piece : Rest} {a : Argument}
    (hn : piece.chars.length < n) (h : Expression.parseArgument read options piece = .ok a) :
    a.span.toRest.Within piece ∧ (argument a).Everywhere Placed := by
  have htrimmed := Rest.within_trimmed piece
  cases parseArgument_eq_ok.1 h with
  | quoted whole value =>
    have hwithin := (Rest.inside_of_quotedWhole? whole).within.trans htrimmed
    obtain ⟨hspan, hplaced, -⟩ := hread _ _ _ (Nat.lt_of_le_of_lt hwithin.length_le hn) value
    refine ⟨by simpa [Argument.span, hspan] using hwithin, everywhere_of_children rfl (by simp) ?_⟩
    simpa [children, TreeNode.span, Argument.span] using ⟨Rest.Within.refl _, hplaced⟩
  | null _ _ =>
    refine ⟨by simpa [Argument.span] using htrimmed, everywhere_of_children rfl (by simp) ?_⟩
    simp [children]
  | bare _ _ value =>
    obtain ⟨hspan, hplaced, -⟩ := hread _ _ _ (Nat.lt_of_le_of_lt htrimmed.length_le hn) value
    refine ⟨by simpa [Argument.span, hspan] using htrimmed,
      everywhere_of_children rfl (by simp) ?_⟩
    simpa [children, TreeNode.span, Argument.span] using ⟨Rest.Within.refl _, hplaced⟩

theorem parseArguments (hread : Sound n read) {inside : Rest} {arguments : List Argument}
    (hn : inside.chars.length < n)
    (h : Expression.parseArguments read options ref inside = .ok arguments) :
    ∀ a ∈ arguments, a.span.toRest.Within inside ∧ (argument a).Everywhere Placed := by
  rw [Expression.parseArguments] at h
  split at h
  · obtain rfl := Except.ok.inj h
    simp
  · split at h
    · cases h
    · rename_i pieces hpieces
      refine Except.forall_of_mapM_eq_ok h fun piece hpiece a ha => ?_
      have hwithin := Rest.within_of_mem_splitArguments hpieces hpiece
      obtain ⟨ha, hplaced⟩ := hread.parseArgument (Nat.lt_of_le_of_lt hwithin.length_le hn) ha
      exact ⟨ha.trans hwithin, hplaced⟩

/-! ## Property references -/

theorem parseAccess (hread : Sound n read) {body : Rest} (hn : body.chars.length < n)
    {raw : RawAccess} (hraw : raw.Placed body) {a : Access}
    (h : Expression.parseAccess read options ref raw = .ok a) :
    a.span.toRest.Within body ∧ (access a).Everywhere Placed := by
  cases raw with
  | method span name arguments =>
    obtain ⟨hspan, hname, harguments⟩ := hraw
    obtain ⟨as, has, h⟩ := Except.bind_eq_ok.1 h
    obtain rfl := Except.ok.inj h
    have hlen := Nat.lt_of_le_of_lt (harguments.trans hspan).length_le hn
    have hargs := hread.parseArguments hlen has
    refine ⟨hspan, everywhere_of_children rfl (by simp) ?_⟩
    simp only [children, List.mem_cons, List.mem_map, forall_eq_or_imp]
    refine ⟨⟨hname, placed_leaf name⟩, ?_⟩
    rintro _ ⟨a, ha, rfl⟩
    exact ⟨(hargs a ha).1.trans harguments, (hargs a ha).2⟩
  | member span name =>
    obtain rfl := Except.ok.inj h
    refine ⟨hraw.1, everywhere_of_children rfl (by simp) ?_⟩
    simpa [children] using ⟨hraw.2, placed_leaf name⟩
  | index span index =>
    obtain ⟨hspan, hindex⟩ := hraw
    obtain ⟨a, ha, h⟩ := Except.bind_eq_ok.1 h
    obtain rfl := Except.ok.inj h
    have hlen := Nat.lt_of_le_of_lt (hindex.trans hspan).length_le hn
    obtain ⟨hwithin, hplaced⟩ := hread.parseArgument hlen ha
    refine ⟨hspan, everywhere_of_children rfl (by simp) ?_⟩
    simpa [children] using ⟨hwithin.trans hindex, hplaced⟩
  | fault fault => cases h

theorem parseAccesses (hread : Sound n read) {body after : Rest} (hn : body.chars.length < n)
    (hafter : after.Within body) {accesses : List Access}
    (h : after.accesses.mapM (Expression.parseAccess read options ref) = .ok accesses) :
    ∀ a ∈ accesses, a.span.toRest.Within body ∧ (access a).Everywhere Placed :=
  Except.forall_of_mapM_eq_ok h fun _ hraw _ ha =>
    hread.parseAccess hn ((Rest.placed_of_mem_accesses hraw).trans hafter) ha

/-- A chain inside a reference is placed when its receiver and its members lie in the body. -/
theorem everywhere_chain {body : Rest} (hbody : body.Inside ref.toRest) {receiver : Receiver}
    (hreceiver : receiver.span.toRest.Within body) {accesses : List Access}
    (h : ∀ a ∈ accesses, a.span.toRest.Within body ∧ (access a).Everywhere Placed) :
    (property (.chain ref receiver accesses)).Everywhere Placed := by
  refine everywhere_of_inside (by simp) ?_
  simp only [children, List.mem_cons, List.mem_map, forall_eq_or_imp]
  refine ⟨⟨hreceiver.trans_inside hbody, placed_leaf _⟩, ?_⟩
  rintro _ ⟨a, ha, rfl⟩
  exact ⟨(h a ha).1.trans_inside hbody, (h a ha).2⟩

theorem readsStatic (hread : Sound n read) {body text : Rest} (hbody : body.Inside ref.toRest)
    (hn : body.chars.length < n) (htext : text.Within body) {p : Property}
    (h : ReadsStatic read options ref text p) :
    p.span = ref ∧ (property p).Everywhere Placed := by
  obtain @⟨type, _, _, _, _, _, group, _, _, named, first, others⟩ := h
  obtain ⟨hplaced, hrest⟩ := Rest.placed_of_static group named
  have hfirst := hread.parseAccess hn (hplaced.trans htext) first
  have hothers := hread.parseAccesses hn (hrest.trans htext) others
  refine ⟨rfl, everywhere_chain hbody ?_ (List.forall_mem_cons.2 ⟨hfirst, hothers⟩)⟩
  simpa [Receiver.span] using (Rest.within_trimmed type).trans
    ((Rest.inside_of_group? group).within.trans htext)

/-- A reference with one name, key or path in it. -/
theorem everywhere_single {body : Rest} (hbody : body.Inside ref.toRest) {p : Property}
    {s : Span} (hs : s.toRest.Within body) (hspan : p.span = ref)
    (hp : (property p).children = [leaf s]) : (property p).Everywhere Placed := by
  refine everywhere_of_inside (by simp) fun m hm => ?_
  rw [hp, List.mem_singleton] at hm
  subst hm
  exact ⟨by simpa [TreeNode.span, hspan] using hs.trans_inside hbody, placed_leaf s⟩

theorem parseProperty (hread : Sound n read) {body : Rest} (hbody : body.Inside ref.toRest)
    (hn : body.chars.length < n) {p : Property}
    (h : Expression.parseProperty read options ref body = .ok p) :
    p.span = ref ∧ (property p).Everywhere Placed := by
  have htrimmed := Rest.within_trimmed body
  cases parseProperty_eq_ok.1 h with
  | registry _ =>
    refine ⟨rfl, everywhere_single hbody ?_ rfl rfl⟩
    simpa using (Rest.tail_drop body _).within
  | static _ _ members => exact hread.readsStatic hbody hn htrimmed members
  | bareRegistry _ _ _ _ =>
    exact ⟨rfl, everywhere_single hbody (by simpa using htrimmed) rfl rfl⟩
  | named _ _ _ _ =>
    exact ⟨rfl, everywhere_single hbody (by simpa using Rest.Within.refl body) rfl rfl⟩
  | @chain name _ _ _ _ _ _ receiver others =>
    have hafter := (Rest.tail_of_name? receiver).within.trans htrimmed
    have hreceiver : (Receiver.property name).span.toRest.Within body :=
      (Rest.within_of_name? receiver).trans htrimmed
    exact ⟨rfl, everywhere_chain hbody hreceiver (hread.parseAccesses hn hafter others)⟩

/-! ## Item lists -/

/-- The parts of an item list that lie in its body. -/
def PartsPlaced (body : Rest) (parts : List Transform × Option Expression) : Prop :=
  (∀ t ∈ parts.1, t.span.toRest.Within body ∧ (transform t).Everywhere Placed) ∧
    ∀ e ∈ parts.2, e.span.toRest.Within body ∧ (expression e).Everywhere Placed

theorem parseStage (hread : Sound n read) {body : Rest} (hn : body.chars.length < n)
    {raw : RawStage} (hraw : raw.Placed body) {parts next : List Transform × Option Expression}
    (hparts : PartsPlaced body parts)
    (h : Expression.parseStage read options ref parts raw = .ok next) : PartsPlaced body next := by
  have hadd {t : Transform} (ht : t.span.toRest.Within body ∧ (transform t).Everywhere Placed) :
      PartsPlaced body (parts.1 ++ [t], parts.2) := by
    refine ⟨fun u hu => ?_, hparts.2⟩
    rcases List.mem_append.1 hu with hu | hu
    · exact hparts.1 u hu
    · rw [List.mem_singleton.1 hu]
      exact ht
  cases raw with
  | pattern span value =>
    obtain ⟨hspan, hvalue⟩ := hraw
    obtain ⟨e, he, h⟩ := Except.bind_eq_ok.1 h
    obtain rfl := Except.ok.inj h
    have hlen := Nat.lt_of_le_of_lt (hvalue.trans hspan).length_le hn
    obtain ⟨hespan, hplaced, -⟩ := hread _ _ _ hlen he
    refine hadd ⟨hspan, everywhere_of_children rfl (by simp) ?_⟩
    simpa [children, TreeNode.span, hespan] using ⟨hvalue, hplaced⟩
  | function span name arguments =>
    obtain ⟨hspan, hname, harguments⟩ := hraw
    obtain ⟨as, has, h⟩ := Except.bind_eq_ok.1 h
    obtain rfl := Except.ok.inj h
    have hlen := Nat.lt_of_le_of_lt (harguments.trans hspan).length_le hn
    have hargs := hread.parseArguments hlen has
    refine hadd ⟨hspan, everywhere_of_children rfl (by simp) ?_⟩
    simp only [children, List.mem_cons, List.mem_map, forall_eq_or_imp]
    refine ⟨⟨hname, placed_leaf name⟩, ?_⟩
    rintro _ ⟨a, ha, rfl⟩
    exact ⟨(hargs a ha).1.trans harguments, (hargs a ha).2⟩
  | separator value =>
    obtain ⟨e, he, h⟩ := Except.bind_eq_ok.1 h
    obtain rfl := Except.ok.inj h
    have hlen := Nat.lt_of_le_of_lt (Rest.Within.length_le hraw) hn
    obtain ⟨hespan, hplaced, -⟩ := hread _ _ _ hlen he
    refine ⟨hparts.1, fun e' he' => ?_⟩
    obtain rfl := Option.some.inj he'
    exact ⟨by rw [hespan, Rest.toRest_span]; exact hraw, hplaced⟩
  | fault fault => cases h

theorem parseStages (hread : Sound n read) {body : Rest} (hn : body.chars.length < n)
    {stages : List RawStage} (hstages : ∀ raw ∈ stages, raw.Placed body)
    {parts last : List Transform × Option Expression} (hparts : PartsPlaced body parts)
    (h : stages.foldlM (Expression.parseStage read options ref) parts = .ok last) :
    PartsPlaced body last := by
  induction stages generalizing parts with
  | nil =>
    obtain rfl := Except.ok.inj h
    exact hparts
  | cons raw stages ih =>
    rw [List.foldlM_cons] at h
    obtain ⟨next, hnext, h⟩ := Except.bind_eq_ok.1 h
    have hplaced := hread.parseStage hn (hstages raw (by simp)) hparts hnext
    exact ih (fun raw hraw => hstages raw (by simp [hraw])) hplaced h

theorem parseItems (hread : Sound n read) {body : Rest} (hbody : body.Inside ref.toRest)
    (hn : body.chars.length < n) {list : ItemList}
    (h : Expression.parseItems read options ref body = .ok list) :
    list.span = ref ∧ (items list).Everywhere Placed := by
  obtain ⟨itemType, after, parts, hname, hparts, rfl⟩ := parseItems_eq_ok.1 h
  have hblanks := (Rest.tail_skipBlanks body).within
  have hafter := (Rest.tail_of_name? hname).within.trans hblanks
  have hnone : PartsPlaced body ([], none) := ⟨by simp, by simp⟩
  obtain ⟨htransforms, hseparator⟩ := hread.parseStages hn
    (fun raw hraw => (Rest.placed_of_mem_stages hraw).trans hafter) hnone hparts
  refine ⟨rfl, everywhere_of_inside (by simp) ?_⟩
  simp only [children, List.mem_cons, List.mem_append, List.mem_map, Option.mem_toList,
    forall_eq_or_imp]
  refine ⟨⟨((Rest.within_of_name? hname).trans hblanks).trans_inside hbody,
    placed_leaf itemType⟩, ?_⟩
  rintro _ (⟨t, ht, rfl⟩ | ⟨e, he, rfl⟩)
  · exact ⟨(htransforms t ht).1.trans_inside hbody, (htransforms t ht).2⟩
  · exact ⟨(hseparator e he).1.trans_inside hbody, (hseparator e he).2⟩

/-! ## Metadata references -/

theorem inside_parentheses (pos : Nat) (c : Char) (hc : c.utf8Size = 1) (body : List Char) :
    (⟨pos + 2, body⟩ : Rest).Inside
      (Span.toRest ⟨pos, String.ofList (c :: '(' :: body ++ [')'])⟩) := by
  refine ⟨[c, '('], [')'], by simp, by simp, by simp, ?_⟩
  have hopen : ('(' : Char).utf8Size = 1 := rfl
  simp [hc, hopen]

theorem everywhere_metadata {pos : Nat} {inside : List Char} {parts : Option Span × Span}
    (h : MetadataRef.inner? ⟨pos + 2, inside⟩ = some parts) :
    (metadata (MetadataRef.ofInner pos inside parts)).Everywhere Placed := by
  obtain ⟨hname, htype⟩ := MetadataRef.within_of_inner? h
  have hinside := inside_parentheses pos '%' rfl inside
  refine everywhere_of_inside (by simp) ?_
  simp only [children, MetadataRef.ofInner, List.mem_append, List.mem_map, Option.mem_toList,
    List.mem_singleton]
  rintro _ (⟨s, hs, rfl⟩ | rfl)
  · exact ⟨(htype s hs).trans_inside hinside, placed_leaf s⟩
  · exact ⟨hname.trans_inside hinside, placed_leaf _⟩

end Sound

end Expression

end BuildExpr
