import BuildExpr.Proofs.Expression.Everywhere
import BuildExpr.Proofs.Expression.ListText
import BuildExpr.Proofs.Expression.Reads
import BuildExpr.Proofs.Expression.Recase

/-!
# Reading a text in letters of other case

The parts of a tree that are no names are its plain text, its registry keys and paths and the word
`null` (`TreeNode.plain`). A text that gets another case in its names only is read as the same tree
in its new case (`recases_parseUpTo`): nothing else is recognised by its letters but for the word
`null`, and that stays what it is.
-/

namespace BuildExpr

/-- The text of a segment that is plain. -/
def Segment.plain? : Segment → Option Span
  | .literal s => some s
  | .property _ | .items _ | .metadata _ => none

/-- What belongs to a node alone and is no name: plain text, keys, paths and the word `null`. -/
def TreeNode.plain : TreeNode → List Span
  | .expression e => e.segments.filterMap Segment.plain?
  | .property (.registry _ key) => [key]
  | .property (.bareRegistry _ path) => [path]
  | .argument (.null span) => [span]
  | _ => []

theorem TreeNode.mem_plain_expression {e : Expression} {s : Span} :
    s ∈ (expression e).plain ↔ .literal s ∈ e.segments := by
  simp only [plain, List.mem_filterMap]
  constructor
  · rintro ⟨segment, hsegment, hs⟩
    cases segment with
    | literal span =>
      obtain rfl := Option.some.inj hs
      exact hsegment
    | property _ | items _ | metadata _ => cases hs
  · exact fun hs => ⟨_, hs, rfl⟩

/-- Whether a recasing leaves alone what is no name. -/
def TreeNode.Spared (g : Recasing) (n : TreeNode) : Prop := ∀ s ∈ n.plain, s.recase g = s

/-- Whether a recasing leaves alone what is no name in a segment. -/
def Segment.Spared (g : Recasing) (s : Segment) : Prop :=
  (∀ span, s = .literal span → span.recase g = span) ∧ s.node.Everywhere (TreeNode.Spared g)

open TreeNode in
theorem everywhere_spared_iff {g : Recasing} {e : Expression} :
    (expression e).Everywhere (Spared g) ↔ ∀ s ∈ e.segments, s.Spared g := by
  constructor
  · intro h s hs
    refine ⟨?_, h.child (List.mem_map_of_mem hs)⟩
    rintro span rfl
    exact h.here span (mem_plain_expression.2 hs)
  · intro h
    refine .intro ?_ ?_
    · intro s hs
      exact (h _ (mem_plain_expression.1 hs)).1 s rfl
    · intro m hm
      obtain ⟨s, hs, rfl⟩ := List.mem_map.1 hm
      exact (h s hs).2

theorem Rest.quotedWhole?_recase (g : Recasing) (r : Rest) :
    (r.recase g).quotedWhole? = r.quotedWhole?.map (recase g) := by
  rw [quotedWhole?, quotedWhole?, recase_peek?_any]
  by_cases hquote : r.peek?.any isQuote = true
  · simp only [hquote, if_true, r.quoted?_recase g hquote]
    rcases r.quoted? with _ | ⟨inside, after⟩
    · rfl
    · simp only [Option.map_some, Prod.map_apply, recase_isEmpty]
      split <;> rfl
  · simp only [hquote, Bool.false_eq_true, if_false, Option.map_none]

namespace Expression

open TreeNode

/-! ## Separators -/

/-- Behind a separator there are stages only. -/
theorem isTransform_of_readsStages {separated : Bool} {r : Rest} {raws : List RawStage}
    (h : Rest.ReadsStages separated r raws) (hseparated : separated = true) :
    ∀ raw ∈ raws, raw.isTransform = true := by
  induction h with
  | nil => simp
  | cons first more ih =>
    refine List.forall_mem_cons.2 ⟨?_, ih (by simp [hseparated])⟩
    cases first with
    | pattern _ _ _ => rfl
    | function _ _ _ _ _ => rfl
    | separator _ single _ _ => simp [hseparated] at single

theorem isFault_of_parseStages {read : Reader} {options : Options} {ref : Span}
    {raws : List RawStage} {parts last : List Transform × Option Expression}
    (h : raws.foldlM (parseStage read options ref) parts = .ok last) :
    ∀ raw ∈ raws, raw.isFault = false := by
  induction raws generalizing parts with
  | nil => simp
  | cons raw raws ih =>
    rw [List.foldlM_cons] at h
    obtain ⟨next, hnext, h⟩ := Except.bind_eq_ok.1 h
    refine List.forall_mem_cons.2 ⟨?_, ih h⟩
    cases raw with
    | fault cause => cases hnext
    | pattern _ _ | function _ _ _ | separator _ => rfl

/-- Stages that were read stay when others follow. -/
theorem mem_of_parseStages {read : Reader} {options : Options} {ref : Span} {raws : List RawStage}
    {parts last : List Transform × Option Expression}
    (h : raws.foldlM (parseStage read options ref) parts = .ok last) :
    ∀ t ∈ parts.1, t ∈ last.1 := by
  have hbehind : raws.foldlM (parseStage read options ref) (parts.1 ++ [], parts.2) =
      (raws.foldlM (parseStage read options ref) ([], parts.2)).map fun p =>
        (parts.1 ++ p.1, p.2) :=
    parseStages_behind ref parts.1 raws ([], parts.2)
  rw [List.append_nil, h] at hbehind
  cases hadded : raws.foldlM (parseStage read options ref) ([], parts.2) with
  | error m =>
    rw [hadded] at hbehind
    cases hbehind
  | ok added =>
    rw [hadded] at hbehind
    obtain rfl := Except.ok.inj hbehind
    exact fun t ht => List.mem_append_left _ ht

/-! ## Readers -/

/-- A reader that reads texts shorter than `n` in their new case as it reads them in the old one.
A text without parentheses is plain text to it. -/
structure Recases (g : Recasing) (n : Nat) (read : Reader) : Prop where
  recase {options : Options} {r : Rest} {e : Expression} : r.chars.length < n →
    read options r = .ok e → (expression e).Everywhere (Spared g) →
    read options (r.recase g) = .ok (e.mapSpans (Span.recase g))
  plain {options : Options} {r : Rest} {e : Expression} : r.chars.length < n → r.chars ≠ [] →
    '(' ∉ r.chars → read options r = .ok e → e.segments = [.literal r.span]

namespace Recases

variable {g : Recasing} {n : Nat} {read : Reader} {options : Options} {ref : Span}

/-! ## Arguments -/

/-- A text is the word `null` in every case or in none, as long as plain text stays what it is. -/
theorem span_ne_null (h : Recases g n read) {text : Rest} (hn : text.chars.length < n)
    (hnull : text.span.text ≠ "null") {e : Expression} (he : read options text = .ok e)
    (hspared : (expression e).Everywhere (Spared g)) : (text.recase g).span.text ≠ "null" := by
  intro hrecased
  have hletters : (g.chars text.pos text.chars) = "null".toList := by
    rw [← hrecased]
    simp [Rest.span]
  have hlower : text.chars.map Char.toLower = "null".toList := by
    rw [← g.map_toLower_chars text.pos, hletters]
    decide
  have hne : text.chars ≠ [] := by
    rintro hnil
    rw [hnil] at hlower
    cases hlower
  have hparen : '(' ∉ text.chars := by
    intro hmem
    have : '(' ∈ "null".toList := by
      rw [← hlower]
      exact List.mem_map.2 ⟨'(', hmem, rfl⟩
    revert this
    decide
  -- the text is a leaf of plain text, which the recasing leaves alone
  have hsegments := h.plain hn hne hparen he
  have hleaf : text.span ∈ (expression e).plain := mem_plain_expression.2 (by simp [hsegments])
  have hkept := hspared.here text.span hleaf
  rw [Rest.span_recase, hkept] at hrecased
  exact hnull hrecased

theorem parseArgument (h : Recases g n read) {piece : Rest} (hn : piece.chars.length < n)
    {a : Argument} (ha : Expression.parseArgument read options piece = .ok a)
    (hspared : (argument a).Everywhere (Spared g)) :
    Expression.parseArgument read options (piece.recase g) =
      .ok (a.mapSpans (Span.recase g)) := by
  have htrimmed := (Rest.within_trimmed piece).length_le
  have hwhole : (piece.recase g).trimmed.quotedWhole? =
      piece.trimmed.quotedWhole?.map (Rest.recase g) := by
    rw [Rest.trimmed_recase, Rest.quotedWhole?_recase]
  refine parseArgument_eq_ok.2 ?_
  cases parseArgument_eq_ok.1 ha with
  | @quoted inside e whole value =>
    have hlength := (Rest.inside_of_quotedWhole? whole).within.length_le
    have hvalue : (expression e).Everywhere (Spared g) := hspared.child (by simp [children])
    rw [whole] at hwhole
    exact .quoted hwhole (h.recase (by omega) value hvalue)
  | null whole word =>
    have hkept : piece.trimmed.span.recase g = piece.trimmed.span :=
      hspared.here _ (by simp [TreeNode.plain])
    have hspan : (piece.recase g).trimmed.span = piece.trimmed.span.recase g := by simp
    rw [whole] at hwhole
    rw [Argument.mapSpans, ← hspan]
    exact .null hwhole (by rw [hspan, hkept, word])
  | @bare e whole word value =>
    have hn : piece.trimmed.chars.length < n := by omega
    have hvalue : (expression e).Everywhere (Spared g) := hspared.child (by simp [children])
    rw [whole] at hwhole
    refine .bare hwhole ?_ ?_
    · rw [Rest.trimmed_recase]
      exact h.span_ne_null hn word value hvalue
    · rw [Rest.trimmed_recase]
      exact h.recase hn value hvalue

theorem parseArguments (h : Recases g n read) {inside : Rest} (hn : inside.chars.length < n)
    {arguments : List Argument}
    (has : Expression.parseArguments read options ref inside = .ok arguments)
    (hspared : ∀ a ∈ arguments, (argument a).Everywhere (Spared g)) :
    Expression.parseArguments read options (ref.recase g) (inside.recase g) =
      .ok (Argument.mapSpansAll (Span.recase g) arguments) := by
  rw [Expression.parseArguments, Rest.trimmed_recase, Rest.recase_isEmpty,
    Rest.splitArguments_recase, Argument.mapSpansAll_eq_map]
  rw [Expression.parseArguments] at has
  split at has
  · rename_i hblank
    rw [if_pos hblank, ← Except.ok.inj has]
    rfl
  · rename_i hblank
    rw [if_neg hblank]
    cases hpieces : inside.splitArguments with
    | none =>
      rw [hpieces] at has
      cases has
    | some pieces =>
      rw [hpieces] at has
      refine Except.mapM_map_eq_ok has fun piece hpiece a ha hread => ?_
      have := (Rest.within_of_mem_splitArguments hpieces hpiece).length_le
      exact h.parseArgument (by omega) hread (hspared a ha)

/-! ## Members -/

theorem parseAccess (h : Recases g n read) {raw : RawAccess} {body : Rest}
    (hraw : raw.Placed body) (hn : body.chars.length < n) {a : Access}
    (ha : Expression.parseAccess read options ref raw = .ok a)
    (hspared : (access a).Everywhere (Spared g)) :
    Expression.parseAccess read options (ref.recase g) (raw.recase g) =
      .ok (a.mapSpans (Span.recase g)) := by
  cases raw with
  | method span name arguments =>
    have hlength := (hraw.2.2.trans hraw.1).length_le
    obtain ⟨as, has, ha⟩ := Except.bind_eq_ok.1 ha
    obtain rfl := Except.ok.inj ha
    have harguments : ∀ a ∈ as, (argument a).Everywhere (Spared g) := fun a ha =>
      hspared.child (by simp [children, ha])
    exact Except.bind_eq_ok.2 ⟨_, h.parseArguments (by omega) has harguments, rfl⟩
  | member span name =>
    obtain rfl := Except.ok.inj ha
    rfl
  | index span index =>
    have hlength := (hraw.2.trans hraw.1).length_le
    obtain ⟨i, hi, ha⟩ := Except.bind_eq_ok.1 ha
    obtain rfl := Except.ok.inj ha
    have hindex : (argument i).Everywhere (Spared g) := hspared.child (by simp [children])
    exact Except.bind_eq_ok.2 ⟨_, h.parseArgument (by omega) hi hindex, rfl⟩
  | fault cause => cases ha

theorem parseAccesses (h : Recases g n read) {body after : Rest} (hafter : after.Within body)
    (hn : body.chars.length < n) {accesses : List Access}
    (has : after.accesses.mapM (Expression.parseAccess read options ref) = .ok accesses)
    (hspared : ∀ a ∈ accesses, (access a).Everywhere (Spared g)) :
    (after.recase g).accesses.mapM (Expression.parseAccess read options (ref.recase g)) =
      .ok (Access.mapSpansAll (Span.recase g) accesses) := by
  have hplain : ∀ raw ∈ after.accesses, raw.isFault = false := by
    intro raw hraw
    obtain ⟨a, ha⟩ := Except.exists_of_mapM_eq_ok has raw hraw
    cases raw with
    | fault cause => cases ha
    | method _ _ _ | member _ _ | index _ _ => rfl
  rw [Rest.accesses_recase hplain, Access.mapSpansAll_eq_map]
  exact Except.mapM_map_eq_ok has fun raw hraw a ha hread =>
    h.parseAccess ((Rest.placed_of_mem_accesses hraw).trans hafter) hn hread (hspared a ha)

/-! ## Property references -/

theorem readsStatic (h : Recases g n read) {body : Rest} (hn : body.chars.length < n)
    {p : Property} (hp : ReadsStatic read options ref body p)
    (hspared : (property p).Everywhere (Spared g)) :
    ReadsStatic read options (ref.recase g) (body.recase g) (p.mapSpans (Span.recase g)) := by
  obtain @⟨type, after, last, name, a, accesses, group, filled, colons, named, first, others⟩ := hp
  obtain ⟨hplaced, hrest⟩ := Rest.placed_of_static group named
  have hfirst : (access a).Everywhere (Spared g) := hspared.child (by simp [children])
  have hothers : ∀ a ∈ accesses, (access a).Everywhere (Spared g) := fun a ha =>
    hspared.child (by simp [children, ha])
  have hgroup : (body.recase g).group? '[' ']' = some (type.recase g, after.recase g) := by
    rw [Rest.bracketed_recase, group]
    rfl
  have hfilled : (type.recase g).trimmed.isEmpty = false := by
    rwa [Rest.trimmed_recase, Rest.recase_isEmpty]
  have hcolons : (after.recase g).skipBlanks.chars.take 2 = [':', ':'] := by
    rw [Rest.skipBlanks_recase, Rest.recase_chars, g.take_chars, colons]
    simp [g.char_of_not_isAlpha (d := ':') rfl]
  have hnamed : ((after.recase g).skipBlanks.drop 2).skipBlanks.name? false =
      some (name.recase g, last.recase g) := by
    simp [named]
  have htail : Rest.memberTail (after.recase g).skipBlanks (name.recase g) (last.recase g) =
      Prod.map (RawAccess.recase g) (Rest.recase g)
        (Rest.memberTail after.skipBlanks name last) := by
    rw [Rest.skipBlanks_recase, Rest.memberTail_recase]
  have hspan : (type.recase g).trimmed.span = type.trimmed.span.recase g := by simp
  rw [Property.mapSpans, Receiver.mapSpans, Access.mapSpansAll, ← hspan]
  refine .intro hgroup hfilled hcolons hnamed ?first ?others
  case first =>
    rw [htail]
    exact h.parseAccess hplaced hn first hfirst
  case others =>
    rw [htail]
    exact h.parseAccesses hrest hn others hothers

theorem startsWithIgnoreCase_chars (pos : Nat) (cs : List Char) (start : String) :
    startsWithIgnoreCase (g.chars pos cs) start = startsWithIgnoreCase cs start := by
  simp only [startsWithIgnoreCase, Text.eqIgnoreCase, Text.foldAscii, String.toList_ofList,
    g.take_chars, g.map_toLower_chars]

theorem isBareRegistry_chars (pos : Nat) (cs : List Char) :
    isBareRegistry (g.chars pos cs) = isBareRegistry cs := by
  simp only [isBareRegistry, startsWithIgnoreCase_chars, g.length_chars]

theorem parseProperty (h : Recases g n read) {body : Rest} (hn : body.chars.length < n)
    {p : Property} (hp : Expression.parseProperty read options ref body = .ok p)
    (hspared : (property p).Everywhere (Spared g)) :
    Expression.parseProperty read options (ref.recase g) (body.recase g) =
      .ok (p.mapSpans (Span.recase g)) := by
  have htrimmed := Rest.within_trimmed body
  have hmark : startsWithIgnoreCase (body.recase g).chars registryMark =
      startsWithIgnoreCase body.chars registryMark := startsWithIgnoreCase_chars _ _ _
  have htype : (body.recase g).trimmed.peek? = some '[' ↔ body.trimmed.peek? = some '[' := by
    rw [Rest.trimmed_recase]
    exact Rest.recase_peek?_eq_iff g _ rfl
  have hslash : (body.recase g).chars.contains '\\' = body.chars.contains '\\' :=
    g.contains_chars rfl _ _
  have hpath : isBareRegistry (body.recase g).trimmed.chars =
      isBareRegistry body.trimmed.chars := by
    rw [Rest.trimmed_recase]
    exact isBareRegistry_chars _ _
  have hmembers : (body.recase g).chars.any beginsMember = body.chars.any beginsMember :=
    g.any_chars (.of_capitals (by decide)) _ _
  refine parseProperty_eq_ok.2 ?_
  cases parseProperty_eq_ok.1 hp with
  | registry mark =>
    rw [Property.mapSpans, ← Rest.span_recase, ← Rest.drop_recase]
    exact .registry (hmark.trans mark)
  | static mark type members =>
    refine .static (hmark.trans mark) (htype.2 type) ?_
    rw [Rest.trimmed_recase]
    exact h.readsStatic (Nat.lt_of_le_of_lt htrimmed.length_le hn) members hspared
  | bareRegistry mark type slash path =>
    rw [Property.mapSpans, ← Rest.span_recase, ← Rest.trimmed_recase]
    exact .bareRegistry (hmark.trans mark) (mt htype.1 type) (hslash.trans slash) (hpath.trans path)
  | named mark type slash members =>
    rw [Property.mapSpans, ← Rest.span_recase]
    exact .named (hmark.trans mark) (mt htype.1 type) (hslash.trans slash) (hmembers.trans members)
  | @chain name after accesses mark type path members receiver others =>
    have hafter := (Rest.tail_of_name? receiver).within.trans htrimmed
    have haccesses : ∀ a ∈ accesses, (access a).Everywhere (Spared g) := fun a ha =>
      hspared.child (by simp [children, ha])
    have hreceiver : (body.recase g).trimmed.name? true =
        some (name.recase g, after.recase g) := by
      rw [Rest.trimmed_recase, Rest.name?_recase, receiver]
      rfl
    exact .chain (hmark.trans mark) (mt htype.1 type) (by rw [hslash, hpath, path]) (hmembers.trans members)
      hreceiver (h.parseAccesses hafter hn others haccesses)

/-! ## Item lists -/

theorem mapParts_concat (f : Span → Span) (parts : List Transform × Option Expression)
    (t : Transform) :
    ((mapParts f parts).1 ++ [t.mapSpans f], (mapParts f parts).2) =
      mapParts f (parts.1 ++ [t], parts.2) := by
  simp [mapParts]

theorem parseStage (h : Recases g n read) {raw : RawStage} {body : Rest} (hraw : raw.Placed body)
    (hn : body.chars.length < n) {parts next : List Transform × Option Expression}
    (hnext : Expression.parseStage read options ref parts raw = .ok next)
    (htransforms : ∀ t ∈ next.1, (transform t).Everywhere (Spared g))
    (hseparator : Rest.isSeparator raw = true →
      ∀ e ∈ next.2, (expression e).Everywhere (Spared g)) :
    Expression.parseStage read options (ref.recase g) (mapParts (Span.recase g) parts)
      (raw.recase g) = .ok (mapParts (Span.recase g) next) := by
  cases raw with
  | pattern span value =>
    have hlength := (hraw.2.trans hraw.1).length_le
    obtain ⟨e, he, hnext⟩ := Except.bind_eq_ok.1 hnext
    obtain rfl := Except.ok.inj hnext
    have ht := htransforms (.pattern span e) (by simp)
    have hvalue : (expression e).Everywhere (Spared g) := ht.child (by simp [children])
    refine Except.bind_eq_ok.2 ⟨_, h.recase (by omega) he hvalue, ?_⟩
    exact congrArg Except.ok (mapParts_concat _ parts (.pattern span e))
  | function span name arguments =>
    have hlength := (hraw.2.2.trans hraw.1).length_le
    obtain ⟨as, has, hnext⟩ := Except.bind_eq_ok.1 hnext
    obtain rfl := Except.ok.inj hnext
    have ht := htransforms (.function span name as) (by simp)
    have harguments : ∀ a ∈ as, (argument a).Everywhere (Spared g) := fun a ha =>
      ht.child (by simp [children, ha])
    refine Except.bind_eq_ok.2 ⟨_, h.parseArguments (by omega) has harguments, ?_⟩
    exact congrArg Except.ok (mapParts_concat _ parts (.function span name as))
  | separator value =>
    have hlength := Rest.Within.length_le hraw
    obtain ⟨e, he, hnext⟩ := Except.bind_eq_ok.1 hnext
    obtain rfl := Except.ok.inj hnext
    have hvalue := hseparator rfl e rfl
    exact Except.bind_eq_ok.2 ⟨_, h.recase (by omega) he hvalue, rfl⟩
  | fault cause => cases hnext

theorem parseStages (h : Recases g n read) {body : Rest} (hn : body.chars.length < n)
    {separated : Bool} {r : Rest} {raws : List RawStage}
    (hreads : Rest.ReadsStages separated r raws) (hraws : ∀ raw ∈ raws, raw.Placed body)
    {parts last : List Transform × Option Expression}
    (hlast : raws.foldlM (Expression.parseStage read options ref) parts = .ok last)
    (hspared : OfParts (Spared g) last) :
    (raws.map (RawStage.recase g)).foldlM
        (Expression.parseStage read options (ref.recase g)) (mapParts (Span.recase g) parts) =
      .ok (mapParts (Span.recase g) last) := by
  induction hreads generalizing parts with
  | nil =>
    obtain rfl := Except.ok.inj hlast
    rfl
  | @cons separated r after raw raws first more ih =>
    obtain ⟨hraw, hraws⟩ := List.forall_mem_cons.1 hraws
    rw [List.foldlM_cons] at hlast
    obtain ⟨next, hnext, hlast⟩ := Except.bind_eq_ok.1 hlast
    have htransforms : ∀ t ∈ next.1, (transform t).Everywhere (Spared g) := fun t ht =>
      hspared.1 t (mem_of_parseStages hlast t ht)
    -- no other separator takes the place of one that was read
    have hseparator : Rest.isSeparator raw = true →
        ∀ e ∈ next.2, (expression e).Everywhere (Spared g) := by
      intro hraw
      have hmore := isTransform_of_readsStages more (by simp [hraw])
      rw [← separator_of_transforms hmore hlast]
      exact hspared.2
    rw [List.map_cons, List.foldlM_cons]
    exact Except.bind_eq_ok.2
      ⟨_, h.parseStage hraw hn hnext htransforms hseparator, ih hraws hlast⟩

theorem parseItems (h : Recases g n read) {body : Rest} (hn : body.chars.length < n)
    {list : ItemList} (hlist : Expression.parseItems read options ref body = .ok list)
    (hspared : (items list).Everywhere (Spared g)) :
    Expression.parseItems read options (ref.recase g) (body.recase g) =
      .ok (list.mapSpans (Span.recase g)) := by
  obtain ⟨itemType, after, parts, hname, hparts, rfl⟩ := parseItems_eq_ok.1 hlist
  have hafter := (Rest.tail_of_name? hname).within.trans (Rest.tail_skipBlanks body).within
  have hplain := isFault_of_parseStages hparts
  have hkept : OfParts (Spared g) parts :=
    ⟨fun t ht => hspared.child (by simp [children, ht]),
      fun e he => hspared.child (by simp [children, Option.mem_def.1 he])⟩
  have hrecased := h.parseStages hn (Rest.readsStages_of_stages hplain)
    (fun raw hraw => (Rest.placed_of_mem_stages hraw).trans hafter) hparts hkept
  refine parseItems_eq_ok.2 ⟨itemType.recase g, after.recase g, mapParts (Span.recase g) parts,
    ?_, ?_, ItemList.mapSpans_mk _ _ _ _ _⟩
  · rw [Rest.skipBlanks_recase, Rest.name?_recase, hname]
    rfl
  · rw [Rest.stages_recase hplain]
    exact hrecased

/-! ## Chunks -/

theorem parseChunk (h : Recases g n read) {chunk : Chunk} (hn : chunk.inside.length < n)
    {segments : List Segment} (hsegments : Expression.parseChunk read options chunk = .ok segments)
    (hspared : ∀ s ∈ segments, s.Spared g) :
    Expression.parseChunk read options (chunk.recase g) =
      .ok (segments.map (Segment.mapSpans (Span.recase g))) := by
  cases chunk with
  | literal span =>
    obtain rfl := Except.ok.inj hsegments
    rfl
  | property span body =>
    obtain ⟨p, hp, hsegments⟩ := Except.bind_eq_ok.1 hsegments
    obtain rfl := Except.ok.inj hsegments
    have hproperty : (property p).Everywhere (Spared g) := (hspared (.property p) (by simp)).2
    exact Except.bind_eq_ok.2 ⟨_, h.parseProperty hn hp hproperty, rfl⟩
  | items span body =>
    obtain ⟨list, hlist, hsegments⟩ := Except.bind_eq_ok.1 hsegments
    obtain rfl := Except.ok.inj hsegments
    have hitems : (items list).Everywhere (Spared g) := (hspared (.items list) (by simp)).2
    exact Except.bind_eq_ok.2 ⟨_, h.parseItems hn hlist hitems, rfl⟩
  | metadata ref =>
    obtain rfl := Except.ok.inj hsegments
    rfl
  | copied body =>
    obtain ⟨e, he, hsegments⟩ := Except.bind_eq_ok.1 hsegments
    obtain rfl := Except.ok.inj hsegments
    refine Except.bind_eq_ok.2 ⟨_, h.recase hn he (everywhere_spared_iff.2 hspared), ?_⟩
    exact congrArg Except.ok (segments_mapSpans _ e)
  | unclosed rest => cases hsegments

/-- A text without parentheses is one run of plain text. -/
theorem chunksFrom_of_not_mem {start : Nat} {run : List Char} {pos : Nat} {cs : List Char}
    (h : '(' ∉ cs) :
    Chunk.chunksFrom options start run 0 pos cs = Chunk.flush start (cs.reverse ++ run) := by
  refine Chunk.chunksFrom_of_plain (fun pos c ds hds => ?_) start run pos
  have hhead : ds.head? ≠ some '(' := fun hhead =>
    h (hds.subset (List.mem_cons_of_mem c (List.mem_of_head? hhead)))
  exact Chunk.front_plain_of_head hhead

/-- A level of reading reads texts that are one character longer. -/
theorem parseLevel (h : Recases g n read) : Recases g (n + 1) (Expression.parseLevel read) where
  recase {options r e} hn he hspared := by
    obtain ⟨segments, hsegments, he⟩ := Except.bind_eq_ok.1 he
    obtain rfl := Except.ok.inj he
    have hsegment : ∀ s ∈ segments.flatten, s.Spared g := everywhere_spared_iff.1 hspared
    have hchunks := Except.mapM_map_eq_ok hsegments fun chunk hchunk made hmade hread =>
      h.parseChunk (Nat.lt_of_lt_of_le (Chunk.inside_length_lt hchunk) (Nat.le_of_lt_succ hn))
        hread fun s hs => hsegment s (List.mem_flatten.2 ⟨made, hmade, hs⟩)
    rw [Expression.parseLevel, Rest.chunks_recase]
    refine Except.bind_eq_ok.2 ⟨_, hchunks, congrArg Except.ok ?_⟩
    simp [Expression.mapSpans, List.map_flatten]
  plain {options r e} _ hne hparen he := by
    obtain ⟨segments, hsegments, he⟩ := Except.bind_eq_ok.1 he
    obtain rfl := Except.ok.inj he
    obtain ⟨c, run, hrun⟩ := List.exists_cons_of_ne_nil (mt List.reverse_eq_nil_iff.1 hne)
    rw [Rest.chunks, chunksFrom_of_not_mem hparen, List.append_nil, hrun] at hsegments
    obtain ⟨first, more, hfirst, hmore, rfl⟩ := Except.mapM_cons_eq_ok.1 hsegments
    obtain rfl := Except.ok.inj hfirst
    obtain rfl := Except.mapM_nil_eq_ok.1 hmore
    have hchars : (c :: run).reverse = r.chars := by rw [← hrun, List.reverse_reverse]
    rw [hchars]
    rfl

end Recases

theorem recases_parseUpTo (g : Recasing) (depth : Nat) : Recases g depth (parseUpTo depth) := by
  induction depth with
  | zero => exact ⟨fun hn => absurd hn (by simp), fun hn => absurd hn (by simp)⟩
  | succ depth ih => exact ih.parseLevel

/-- A text whose letters get another case in its names only is read as the same tree. -/
theorem parse_recase {g : Recasing} {options : Options} {text text' : String} {e : Expression}
    (htext : (Rest.ofText text).recase g = Rest.ofText text')
    (he : parse options text = .ok e) (hspared : (expression e).Everywhere (Spared g)) :
    parse options text' = .ok (e.mapSpans (Span.recase g)) := by
  have hlength : text'.length = text.length := by
    have := congrArg (fun r => r.chars.length) htext
    simpa [Rest.ofText, String.length_toList] using this.symm
  rw [parse, hlength, ← htext]
  exact (recases_parseUpTo g _).recase (by simp [Rest.ofText, String.length_toList])
    he hspared

end Expression

end BuildExpr
