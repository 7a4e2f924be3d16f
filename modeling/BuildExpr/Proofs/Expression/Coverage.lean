import BuildExpr.Proofs.Expression.Placement

/-!
# A tree covers its text

The segments that are read of a text tile it, and no opening of a requested property reference
or item list is left in plain text (`Sound.parseLevel`). By induction on the nesting every reader
is sound (`sound_parseUpTo`), and `parse_keeps_text` says what that means for the tree of a whole
text, with positions in bytes.
-/

namespace BuildExpr

/-! ## Openings in plain text -/

namespace NoOpening

variable {options : Options} {cs : List Char}

theorem of_prefix {ds : List Char} (h : NoOpening options cs) (hd : ds <+: cs) :
    NoOpening options ds :=
  ⟨fun hp hi => h.1 hp (hi.trans hd.isInfix), fun hp hi => h.2 hp (hi.trans hd.isInfix)⟩

theorem of_length_le_one (h : cs.length ≤ 1) : NoOpening options cs := by
  have hno (c d : Char) : ¬[c, d] <:+: cs := fun hi => by
    have := hi.length_le
    simp only [List.length_cons, List.length_nil] at this
    omega
  exact ⟨fun _ => hno _ _, fun _ => hno _ _⟩

theorem eq_of_pair_infix {c d x y : Char} (h : [x, y] <:+: cs ++ [c] ++ [d]) :
    [x, y] <:+: cs ++ [c] ∨ (x = c ∧ y = d) := by
  rcases List.infix_concat_iff.1 h with h | h
  · obtain ⟨ws, hws⟩ := h
    have hws' : ws ++ [x] ++ [y] = cs ++ [c] ++ [d] := by simpa using hws
    obtain ⟨hws', hy⟩ := List.append_inj' hws' rfl
    obtain ⟨-, hx⟩ := List.append_inj' hws' rfl
    exact .inr ⟨List.singleton_inj.1 hx, List.singleton_inj.1 hy⟩
  · exact .inl h

/-- One more character makes no opening unless it is the parenthesis of one. -/
theorem snoc {c d : Char} (h : NoOpening options (cs ++ [c]))
    (hc : d = '(' → ¬(c = '$' ∧ options.properties = true) ∧ ¬(c = '@' ∧ options.items = true)) :
    NoOpening options (cs ++ [c] ++ [d]) := by
  constructor
  · intro hp hi
    rcases eq_of_pair_infix hi with hi | ⟨rfl, rfl⟩
    · exact h.1 hp hi
    · exact (hc rfl).1 ⟨rfl, hp⟩
  · intro hp hi
    rcases eq_of_pair_infix hi with hi | ⟨rfl, rfl⟩
    · exact h.2 hp hi
    · exact (hc rfl).2 ⟨rfl, hp⟩

/-- A character that begins nothing leaves no opening behind. -/
theorem next {c : Char} {ds : List Char} {pos : Nat} (h : NoOpening options (cs ++ [c]))
    (hfront : Chunk.front options ⟨pos, c :: ds⟩ = .plain) :
    NoOpening options (cs ++ [c] ++ ds.take 1) := by
  cases ds with
  | nil => simpa using h
  | cons d ds =>
    refine h.snoc ?_
    rintro rfl
    exact Chunk.not_requested_of_front_plain hfront

end NoOpening

namespace Expression

namespace Sound

open TreeNode

variable {n : Nat} {read : Reader} {options : Options}

/-! ## The segments of a text -/

/-- What is shown of the segments that are read of a text at a position. -/
def Covered (options : Options) (pos : Nat) (cs : List Char) (segments : List Segment) : Prop :=
  Rest.Tiles pos cs (segments.map Segment.span) ∧
    (∀ s ∈ segments, s.node.Everywhere Placed) ∧ ∀ s ∈ segments, s.Told options

theorem Covered.append {pos : Nat} {xs ys : List Char} {segments more : List Segment}
    (hx : Covered options pos xs segments)
    (hy : Covered options (pos + Chars.byteLength xs) ys more) :
    Covered options pos (xs ++ ys) (segments ++ more) := by
  obtain ⟨htiles, hplaced, htold⟩ := hx
  obtain ⟨htiles', hplaced', htold'⟩ := hy
  refine ⟨?_, fun s hs => ?_, fun s hs => ?_⟩
  · rw [List.map_append]
    exact htiles.append htiles'
  · exact (List.mem_append.1 hs).elim (hplaced s) (hplaced' s)
  · exact (List.mem_append.1 hs).elim (htold s) (htold' s)

theorem covered_flush {start : Nat} {run : List Char} (hrun : NoOpening options run.reverse)
    {segments : List (List Segment)}
    (h : (Chunk.flush start run).mapM (Expression.parseChunk read options) = .ok segments) :
    Covered options start run.reverse segments.flatten := by
  cases run with
  | nil =>
    obtain rfl := Except.mapM_nil_eq_ok.1 h
    exact ⟨rfl, by simp, by simp⟩
  | cons c run =>
    obtain ⟨first, more, hfirst, hmore, rfl⟩ := Except.mapM_cons_eq_ok.1 h
    obtain rfl := Except.ok.inj hfirst
    obtain rfl := Except.mapM_nil_eq_ok.1 hmore
    have htiles := Rest.tiles_singleton (s := ⟨start, String.ofList (c :: run).reverse⟩)
      (by simp)
    refine ⟨by simpa [Segment.span] using htiles, ?_, ?_⟩
    · simpa [Segment.node] using placed_leaf _
    · simpa [Segment.Told] using hrun

/-- A reference gives one segment, which covers it. -/
theorem covered_reference (hread : Sound n read) {pos : Nat} {cs : List Char} {chunk : Chunk}
    (hchunk : chunk.Reads options pos cs) (hn : cs.length ≤ n) {segments : List Segment}
    (h : Expression.parseChunk read options chunk = .ok segments) :
    Covered options pos cs segments := by
  have hone {s : Segment} (hspan : s.span = ⟨pos, String.ofList cs⟩)
      (hplaced : s.node.Everywhere Placed)
      (htold : Chars.IsReference s.span.text.toList → s.Told options) :
      Covered options pos cs [s] := by
    refine ⟨⟨by rw [hspan], by simpa [hspan] using hchunk.ne_nil, [], by simp [hspan], rfl⟩,
      by simpa using hplaced, fun t ht => ?_⟩
    rw [List.mem_singleton.1 ht]
    exact htold (by simpa [hspan] using hchunk.isReference)
  cases hchunk with
  | @property body requested closes =>
    obtain ⟨p, hp, h⟩ := Except.bind_eq_ok.1 h
    obtain rfl := Except.ok.inj h
    have hlen : body.length < n := by
      simp only [List.length_append, List.length_cons] at hn
      omega
    obtain ⟨hspan, hplaced⟩ := hread.parseProperty (inside_parentheses pos '$' rfl body) hlen hp
    exact hone hspan hplaced id
  | @items body requested closes =>
    obtain ⟨list, hlist, h⟩ := Except.bind_eq_ok.1 h
    obtain rfl := Except.ok.inj h
    have hlen : body.length < n := by
      simp only [List.length_append, List.length_cons] at hn
      omega
    obtain ⟨hspan, hplaced⟩ := hread.parseItems (inside_parentheses pos '@' rfl body) hlen hlist
    exact hone hspan hplaced id
  | metadata requested plain hinner =>
    obtain rfl := Except.ok.inj h
    exact hone rfl (everywhere_metadata hinner) id

/-- The segments that a sound reader reads cover the text. -/
theorem covered (hread : Sound n read) {r : Rest} {e : Expression} (hn : r.chars.length < n)
    (he : read options r = .ok e) : Covered options r.pos r.chars e.segments := by
  obtain ⟨hspan, hplaced, htold⟩ := hread options r e hn he
  refine ⟨?_, fun s hs => hplaced.child (List.mem_map_of_mem hs), htold⟩
  have htiles := hplaced.here.tiles e rfl
  rw [hspan] at htiles
  simpa [Rest.span] using htiles

/-- The segments of a text whose plain front `run`, in reverse, begins at `start`. No opening of a
requested reference ends at the first character after the front. -/
theorem covered_chunksFrom (hread : Sound n read) (start : Nat) (run : List Char) (pos : Nat)
    (cs : List Char) :
    ∀ segments, cs.length ≤ n → start + Chars.byteLength run.reverse = pos →
      NoOpening options (run.reverse ++ cs.take 1) →
      (Chunk.chunksFrom options start run 0 pos cs).mapM (Expression.parseChunk read options) =
        .ok segments →
      Covered options start (run.reverse ++ cs) segments.flatten := by
  refine Chunk.chunksFrom_induction options (motive := fun start run pos cs chunks =>
    ∀ segments, cs.length ≤ n → start + Chars.byteLength run.reverse = pos →
      NoOpening options (run.reverse ++ cs.take 1) →
      chunks.mapM (Expression.parseChunk read options) = .ok segments →
      Covered options start (run.reverse ++ cs) segments.flatten)
    ?nil ?plain ?reference ?copied ?unclosed start run pos cs
  case nil =>
    intro start run pos segments _ _ hrun h
    rw [List.append_nil]
    exact covered_flush (by simpa using hrun) h
  case plain =>
    intro start run pos c cs chunks hfront ih segments hn hpos hrun h
    have hnext : NoOpening options ((c :: run).reverse ++ cs.take 1) := by
      rw [List.reverse_cons]
      exact hrun.next hfront
    have hpos' : start + Chars.byteLength (c :: run).reverse = pos + c.utf8Size := by
      simp only [List.reverse_cons, Chars.byteLength_append, Chars.byteLength_cons,
        Chars.byteLength_nil]
      omega
    have := ih segments (Nat.le_of_succ_le hn) hpos' hnext h
    simpa using this
  case reference =>
    intro start run pos ref rest chunk chunks hchunk ih segments hn hpos hrun h
    obtain ⟨first, more, hfirst, hmore, rfl⟩ := Except.mapM_append_eq_ok.1 h
    obtain ⟨middle, last, hmiddle, hlast, rfl⟩ := Except.mapM_cons_eq_ok.1 hmore
    rw [List.length_append] at hn
    have hplain := covered_flush (hrun.of_prefix (List.prefix_append _ _)) hfirst
    have href := covered_reference hread hchunk (by omega) hmiddle
    have hrest := ih last (by omega) (by simp) (.of_length_le_one (List.length_take_le 1 _)) hlast
    rw [List.flatten_append, List.flatten_cons]
    refine hplain.append ?_
    rw [hpos]
    exact href.append (by simpa using hrest)
  case copied =>
    intro start run pos body rest chunks hmetadata hitems hcloses ih segments hn hpos hrun h
    obtain ⟨first, more, hfirst, hmore, rfl⟩ := Except.mapM_append_eq_ok.1 h
    obtain ⟨middle, last, hmiddle, hlast, rfl⟩ := Except.mapM_cons_eq_ok.1 hmore
    simp only [List.length_append, List.length_cons] at hn
    -- the opening of the list is plain text, since item lists are not requested
    have hopen : NoOpening options ('(' :: '@' :: run).reverse := by
      have : NoOpening options (run.reverse ++ ['@'] ++ ['(']) :=
        .snoc (by simpa using hrun) (fun _ => by simp [hitems])
      simpa using this
    have hplain := covered_flush hopen hfirst
    obtain ⟨e, he, hmiddle⟩ := Except.bind_eq_ok.1 hmiddle
    obtain rfl := Except.ok.inj hmiddle
    have hbody : Covered options (pos + 2) body e.segments := hread.covered (by simp only; omega) he
    have hrest := ih last (by simp only [List.length_cons]; omega) (by simp)
      (.of_length_le_one (by simp)) hlast
    have hstart : start + Chars.byteLength ('(' :: '@' :: run).reverse = pos + 2 := by
      simp only [List.reverse_cons, Chars.byteLength_append, Chars.byteLength_cons,
        Chars.byteLength_nil]
      have hat : ('@' : Char).utf8Size = 1 := rfl
      have hparen : ('(' : Char).utf8Size = 1 := rfl
      omega
    have hmore : Covered options (start + Chars.byteLength ('(' :: '@' :: run).reverse)
        (body ++ ')' :: rest) (e.segments ++ last.flatten) := by
      rw [hstart]
      exact hbody.append (by simpa using hrest)
    rw [List.flatten_append, List.flatten_cons]
    simpa using hplain.append hmore
  case unclosed =>
    intro start run pos c cs _ segments _ _ _ h
    obtain ⟨first, more, -, hmore, -⟩ := Except.mapM_append_eq_ok.1 h
    obtain ⟨_, _, hfail, -⟩ := Except.mapM_cons_eq_ok.1 hmore
    cases hfail

/-- A level of reading is sound on texts that are one character longer than those the level below
is sound on. -/
theorem parseLevel (hread : Sound n read) : Sound (n + 1) (Expression.parseLevel read) := by
  intro options r e hn h
  obtain ⟨segments, hsegments, h⟩ := Except.bind_eq_ok.1 h
  obtain rfl := Except.ok.inj h
  obtain ⟨htiles, hplaced, htold⟩ := hread.covered_chunksFrom r.pos [] r.pos r.chars segments
    (Nat.le_of_lt_succ hn) (by simp) (.of_length_le_one (List.length_take_le 1 _)) hsegments
  rw [List.reverse_nil, List.nil_append] at htiles
  refine ⟨rfl, .intro ⟨?_, by simp [isReference], ?_⟩ ?_, htold⟩
  · intro m hm
    obtain ⟨s, hs, rfl⟩ := List.mem_map.1 hm
    rw [span_node]
    have := htiles.within s.span (List.mem_map_of_mem hs)
    simpa [TreeNode.span, Expression.span] using this
  · intro e he
    obtain rfl := TreeNode.expression.inj he
    simpa [Expression.span, Expression.segments, Rest.span] using htiles
  · intro m hm
    obtain ⟨s, hs, rfl⟩ := List.mem_map.1 hm
    exact hplaced s hs

end Sound

/-- Every reader is sound on the texts that its depth allows for. -/
theorem sound_parseUpTo (depth : Nat) : Sound depth (parseUpTo depth) := by
  induction depth with
  | zero => exact fun _ _ _ hn => absurd hn (Nat.not_lt_zero _)
  | succ depth ih => exact ih.parseLevel

/-- What is shown of the tree of a whole text. -/
theorem sound_parse {options : Options} {text : String} {e : Expression}
    (h : parse options text = .ok e) :
    e.span = Span.ofText text ∧ (TreeNode.expression e).Everywhere TreeNode.Placed ∧
      ∀ s ∈ e.segments, s.Told options := by
  have hlength : text.toList.length < text.length + 1 := by
    rw [String.length_toList]
    exact Nat.lt_succ_self _
  obtain ⟨hspan, hplaced, htold⟩ := sound_parseUpTo (text.length + 1) options (Rest.ofText text) e
    hlength h
  refine ⟨?_, hplaced, htold⟩
  rw [hspan]
  simp [Rest.ofText, Rest.span, Span.ofText]

end Expression

/-! ## Trees of whole texts -/

namespace TreeNode

/-- What the tree of a text keeps of it at one of its nodes. -/
structure Keeps (text : String) (n : TreeNode) : Prop where
  /-- The span is what stands between its ends, and both lie between characters. -/
  slice : Span.slice? text n.span.start n.span.stop = some n.span
  /-- The parts lie within the node. -/
  within : ∀ m ∈ n.children, n.span.start ≤ m.span.start ∧ m.span.stop ≤ n.span.stop
  /-- Whatever lies below a reference lies strictly inside it. -/
  inside : n.isReference = true → ∀ child ∈ n.children, ∀ m, Below child m →
    n.span.start < m.span.start ∧ m.span.stop < n.span.stop
  /-- The segments of an expression follow each other from its start to its end. -/
  tile : ∀ e, n = expression e → Tile e.span.start e.span.stop (e.segments.map Segment.span)
  /-- The texts of the segments make up the text of the expression. -/
  joined : ∀ e, n = expression e →
    String.join (e.segments.map fun s => s.span.text) = e.span.text

variable {text : String} {root n m : TreeNode}

/-- All nodes of a tree lie within what its root lies in. -/
theorem everywhere_within {outer : Rest} (hplaced : root.Everywhere Placed)
    (h : root.span.toRest.Within outer) : root.Everywhere fun n => n.span.toRest.Within outer := by
  induction hplaced with
  | intro hn _ ih => exact .intro h fun m hm => ih m hm ((hn.within m hm).trans h)

theorem within_of_below (hplaced : root.Everywhere Placed) (h : Below root n) :
    n.span.toRest.Within root.span.toRest :=
  ((everywhere_within hplaced (.refl _)).of_below h).here

theorem keeps_of_below (hplaced : root.Everywhere Placed) (hroot : root.span = Span.ofText text)
    (h : Below root n) : n.Keeps text := by
  have hn := hplaced.of_below h
  have hwithin := within_of_below hplaced h
  rw [hroot] at hwithin
  refine ⟨hwithin.slice?, fun m hm => ?_, fun href child hchild m hm => ?_, fun e he => ?_,
    fun e he => ?_⟩
  · have hchild := hn.here.within m hm
    exact ⟨hchild.pos_le, hchild.stop_le⟩
  · have hinside := (within_of_below (hn.child hchild) hm).trans_inside
      (hn.here.inside href child hchild)
    exact ⟨hinside.lt_pos, hinside.stop_lt⟩
  · exact (hn.here.tiles e he).tile
  · refine String.toList_injective ?_
    rw [String.toList_join, List.flatMap_map, ← (hn.here.tiles e he).flatMap, List.flatMap_map]

end TreeNode

/-- Reading a text loses nothing of it: every node of the tree keeps its part of the text, and no
plain text of the root holds the opening of a requested property reference or item list. -/
theorem parse_keeps_text {options : Options} {text : String} {e : Expression}
    (h : Expression.parse options text = .ok e) :
    e.span = Span.ofText text ∧
      (∀ n, TreeNode.Below (.expression e) n → n.Keeps text) ∧
      ∀ s, Segment.literal s ∈ e.segments →
        (options.properties = true → ¬['$', '('] <:+: s.text.toList) ∧
          (options.items = true → ¬['@', '('] <:+: s.text.toList) := by
  obtain ⟨hroot, hplaced, htold⟩ := Expression.sound_parse h
  exact ⟨hroot, fun n hn => TreeNode.keeps_of_below hplaced hroot hn, fun s hs => htold _ hs⟩

theorem parse_keeps_text_of_nested :
    ∃ e, Expression.parse .all "é$(A.B('x'))@(I->'%(F)', ';')b" = .ok e ∧
      e.segments.map Segment.span =
        [⟨0, "é"⟩, ⟨2, "$(A.B('x'))"⟩, ⟨13, "@(I->'%(F)', ';')"⟩, ⟨30, "b"⟩] ∧
      ∀ n, TreeNode.Below (.expression e) n → n.Keeps "é$(A.B('x'))@(I->'%(F)', ';')b" := by
  have hsegments : (Expression.parse .all "é$(A.B('x'))@(I->'%(F)', ';')b").toOption.map
      (fun e => e.segments.map Segment.span) =
        some [⟨0, "é"⟩, ⟨2, "$(A.B('x'))"⟩, ⟨13, "@(I->'%(F)', ';')"⟩, ⟨30, "b"⟩] := by
    decide +kernel
  cases h : Expression.parse .all "é$(A.B('x'))@(I->'%(F)', ';')b" with
  | error m =>
    rw [h] at hsegments
    cases hsegments
  | ok e =>
    rw [h] at hsegments
    exact ⟨e, rfl, Option.some.inj hsegments, (parse_keeps_text h).2.1⟩

end BuildExpr
