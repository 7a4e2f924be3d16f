import BuildExpr.Expression.Tree
import BuildExpr.Proofs.Expression.Stages
import BuildExpr.Proofs.Source.Recase

/-!
# Parts of a text in letters of other case

A tree keeps its shape when a function is applied to all its spans (`Expression.mapSpans`). The raw
parts and the chunks of a text are the same in every case of its letters (`accesses_recase`,
`stages_recase`, `Rest.chunks_recase`), up to the point where one is not well formed.
-/

namespace BuildExpr

/-! ## Other spans -/

/-- The same reference with other spans. -/
def MetadataRef.mapSpans (f : Span → Span) (ref : MetadataRef) : MetadataRef :=
  ⟨f ref.span, ref.itemType.map f, f ref.name⟩

/-- The same receiver with another span. -/
def Receiver.mapSpans (f : Span → Span) : Receiver → Receiver
  | .property name => .property (f name)
  | .type name => .type (f name)

mutual

/-- The same expression with other spans. -/
def Expression.mapSpans (f : Span → Span) : Expression → Expression
  | .mk span segments => .mk (f span) (Segment.mapSpansAll f segments)

/-- The same segments with other spans. -/
def Segment.mapSpansAll (f : Span → Span) : List Segment → List Segment
  | [] => []
  | segment :: rest => segment.mapSpans f :: Segment.mapSpansAll f rest

/-- The same segment with other spans. -/
def Segment.mapSpans (f : Span → Span) : Segment → Segment
  | .literal span => .literal (f span)
  | .property ref => .property (ref.mapSpans f)
  | .items list => .items (list.mapSpans f)
  | .metadata ref => .metadata (ref.mapSpans f)

/-- The same property reference with other spans. -/
def Property.mapSpans (f : Span → Span) : Property → Property
  | .named span name => .named (f span) (f name)
  | .registry span key => .registry (f span) (f key)
  | .bareRegistry span path => .bareRegistry (f span) (f path)
  | .chain span receiver accesses =>
    .chain (f span) (receiver.mapSpans f) (Access.mapSpansAll f accesses)

/-- The same members with other spans. -/
def Access.mapSpansAll (f : Span → Span) : List Access → List Access
  | [] => []
  | access :: rest => access.mapSpans f :: Access.mapSpansAll f rest

/-- The same member with other spans. -/
def Access.mapSpans (f : Span → Span) : Access → Access
  | .method span name arguments => .method (f span) (f name) (Argument.mapSpansAll f arguments)
  | .member span name => .member (f span) (f name)
  | .index span argument => .index (f span) (argument.mapSpans f)

/-- The same arguments with other spans. -/
def Argument.mapSpansAll (f : Span → Span) : List Argument → List Argument
  | [] => []
  | argument :: rest => argument.mapSpans f :: Argument.mapSpansAll f rest

/-- The same argument with other spans. -/
def Argument.mapSpans (f : Span → Span) : Argument → Argument
  | .null span => .null (f span)
  | .quoted value => .quoted (value.mapSpans f)
  | .bare value => .bare (value.mapSpans f)

/-- The same item list with other spans. -/
def ItemList.mapSpans (f : Span → Span) : ItemList → ItemList
  | .mk span itemType transforms none =>
    .mk (f span) (f itemType) (Transform.mapSpansAll f transforms) none
  | .mk span itemType transforms (some separator) =>
    .mk (f span) (f itemType) (Transform.mapSpansAll f transforms) (some (separator.mapSpans f))

/-- The same stages with other spans. -/
def Transform.mapSpansAll (f : Span → Span) : List Transform → List Transform
  | [] => []
  | transform :: rest => transform.mapSpans f :: Transform.mapSpansAll f rest

/-- The same stage with other spans. -/
def Transform.mapSpans (f : Span → Span) : Transform → Transform
  | .pattern span value => .pattern (f span) (value.mapSpans f)
  | .function span name arguments =>
    .function (f span) (f name) (Argument.mapSpansAll f arguments)

end

section

variable (f : Span → Span)

@[simp] theorem Segment.mapSpansAll_eq_map (segments : List Segment) :
    Segment.mapSpansAll f segments = segments.map (Segment.mapSpans f) := by
  induction segments with
  | nil => rfl
  | cons segment rest ih => rw [Segment.mapSpansAll, ih, List.map_cons]

@[simp] theorem Access.mapSpansAll_eq_map (accesses : List Access) :
    Access.mapSpansAll f accesses = accesses.map (Access.mapSpans f) := by
  induction accesses with
  | nil => rfl
  | cons access rest ih => rw [Access.mapSpansAll, ih, List.map_cons]

theorem Access.isEmpty_mapSpansAll (accesses : List Access) :
    (Access.mapSpansAll f accesses).isEmpty = accesses.isEmpty := by
  cases accesses <;> rfl

@[simp] theorem Argument.mapSpansAll_eq_map (arguments : List Argument) :
    Argument.mapSpansAll f arguments = arguments.map (Argument.mapSpans f) := by
  induction arguments with
  | nil => rfl
  | cons argument rest ih => rw [Argument.mapSpansAll, ih, List.map_cons]

@[simp] theorem Transform.mapSpansAll_eq_map (transforms : List Transform) :
    Transform.mapSpansAll f transforms = transforms.map (Transform.mapSpans f) := by
  induction transforms with
  | nil => rfl
  | cons transform rest ih => rw [Transform.mapSpansAll, ih, List.map_cons]

theorem ItemList.mapSpans_mk (span itemType : Span) (transforms : List Transform)
    (separator : Option Expression) :
    (ItemList.mk span itemType transforms separator).mapSpans f =
      .mk (f span) (f itemType) (transforms.map (Transform.mapSpans f))
        (separator.map (Expression.mapSpans f)) := by
  cases separator <;> simp [ItemList.mapSpans]

namespace Expression

variable (e : Expression)

@[simp] theorem segments_mapSpans :
    (e.mapSpans f).segments = e.segments.map (Segment.mapSpans f) := by
  cases e with
  | mk span segments => exact Segment.mapSpansAll_eq_map f segments

theorem singleProperty?_mapSpans :
    (e.mapSpans f).singleProperty? = e.singleProperty?.map (Property.mapSpans f) := by
  rw [singleProperty?, singleProperty?, segments_mapSpans]
  rcases e.segments with _ | ⟨first, _ | ⟨second, rest⟩⟩
  · rfl
  · cases first <;> rfl
  · cases first <;> rfl

/-- The same parts of an item list with other spans. -/
def mapParts (f : Span → Span) (parts : List Transform × Option Expression) :
    List Transform × Option Expression :=
  (parts.1.map (Transform.mapSpans f), parts.2.map (Expression.mapSpans f))

end Expression

end

/-! ## Names -/

namespace Recasing

/-- All letters in lower case. -/
def lower : Recasing where
  char _ := Char.toLower
  toLower_char _ c := Chars.caseless_toLower c

theorem chars_lower (pos : Nat) (cs : List Char) : lower.chars pos cs = cs.map Char.toLower := by
  induction cs generalizing pos with
  | nil => rfl
  | cons c cs ih => rw [chars_cons, ih]; rfl

end Recasing

/-- A text is a name when it is one in lower case. -/
theorem Chars.name?_of_toLower {dash : Bool} {cs : List Char}
    (h : name? dash (cs.map Char.toLower) = some (cs.map Char.toLower, [])) :
    name? dash cs = some (cs, []) := by
  rw [← Recasing.chars_lower 0, Recasing.name?_chars] at h
  obtain ⟨⟨name, rest⟩, hname, heq⟩ := Option.map_eq_some_iff.1 h
  have hrest : rest = [] := by
    have hnil := congrArg List.length (Prod.mk.inj heq).2
    rw [Recasing.length_chars] at hnil
    exact List.eq_nil_of_length_eq_zero hnil
  obtain rfl := Chars.eq_of_name? hname
  rw [hname, hrest, List.append_nil]

/-! ## Raw parts -/

/-- Whether a chain is not well formed from a member on. -/
def RawAccess.isFault : RawAccess → Bool
  | .fault _ => true
  | _ => false

/-- The same part in its new case. -/
def RawAccess.recase (g : Recasing) : RawAccess → RawAccess
  | .method span name arguments =>
    .method (span.recase g) (name.recase g) (arguments.recase g)
  | .member span name => .member (span.recase g) (name.recase g)
  | .index span argument => .index (span.recase g) (argument.recase g)
  | .fault cause => .fault cause

/-- The same part in its new case. -/
def RawStage.recase (g : Recasing) : RawStage → RawStage
  | .pattern span value => .pattern (span.recase g) (value.recase g)
  | .function span name arguments =>
    .function (span.recase g) (name.recase g) (arguments.recase g)
  | .separator value => .separator (value.recase g)
  | .fault cause => .fault cause

namespace Rest

variable (g : Recasing) (r : Rest)

@[simp] theorem parenthesised_recase :
    (r.recase g).group? '(' ')' = (r.group? '(' ')').map (Prod.map (recase g) (recase g)) :=
  r.group?_recase g rfl rfl

@[simp] theorem bracketed_recase :
    (r.recase g).group? '[' ']' = (r.group? '[' ']').map (Prod.map (recase g) (recase g)) :=
  r.group?_recase g rfl rfl

@[simp] theorem memberTail_recase (start : Rest) (name : Span) :
    memberTail (start.recase g) (name.recase g) (r.recase g) =
      Prod.map (RawAccess.recase g) (recase g) (memberTail start name r) := by
  simp only [memberTail, r.recase_peek?_beq g (d := '(') rfl, parenthesised_recase, upTo_recase]
  split
  · rcases r.group? '(' ')' with _ | ⟨arguments, after⟩
    · rfl
    · simp [RawAccess.recase]
  · rfl

variable {g r}

theorem access?_recase (h : ∀ p ∈ r.access?, p.1.isFault = false) :
    (r.recase g).access? = r.access?.map (Prod.map (RawAccess.recase g) (recase g)) := by
  obtain ⟨pos, cs⟩ := r
  cases cs with
  | nil => rfl
  | cons c cs =>
    have hpeek : (recase g ⟨pos, c :: cs⟩).peek? = some (g.char pos c) := rfl
    by_cases hpoint : c = '.'
    · subst hpoint
      rw [g.char_of_not_isAlpha rfl] at hpeek
      simp only [access?, hpeek, next_recase, name?_recase]
      cases (next ⟨pos, '.' :: cs⟩).name? false with
      | none => rfl
      | some p => simp [peek?]
    · by_cases hindex : c = '['
      · subst hindex
        rw [g.char_of_not_isAlpha rfl] at hpeek
        simp only [access?, hpeek, bracketed_recase]
        rcases group? '[' ']' ⟨pos, '[' :: cs⟩ with _ | ⟨argument, after⟩
        · rfl
        · simp [peek?, RawAccess.recase]
      · have hfault : access? ⟨pos, c :: cs⟩ =
            some (.fault (.unexpected (span ⟨pos, c :: cs⟩).text), ⟨pos, c :: cs⟩) := by
          simp [access?, peek?]
        exact absurd (h _ hfault) (by simp [RawAccess.isFault])

theorem accessesUpTo_recase {fuel : Nat} (h : ∀ raw ∈ accessesUpTo fuel r, raw.isFault = false) :
    accessesUpTo fuel (r.recase g) = (accessesUpTo fuel r).map (RawAccess.recase g) := by
  induction fuel generalizing r with
  | zero => rfl
  | succ fuel ih =>
    rw [accessesUpTo] at h ⊢
    rw [accessesUpTo, skipBlanks_recase]
    rcases hfirst : r.skipBlanks.access? with _ | ⟨access, after⟩
    · rw [access?_recase (by simp [hfirst]), hfirst]
      rfl
    · rw [hfirst] at h
      cases access with
      | fault cause => exact absurd (h _ (List.mem_singleton.2 rfl)) (by simp [RawAccess.isFault])
      | method _ _ _ | member _ _ | index _ _ =>
        obtain ⟨-, hmore⟩ := List.forall_mem_cons.1 h
        rw [access?_recase (by simp [hfirst, RawAccess.isFault]), hfirst]
        exact congrArg (List.cons _) (ih hmore)

theorem accesses_recase (h : ∀ raw ∈ r.accesses, raw.isFault = false) :
    (r.recase g).accesses = r.accesses.map (RawAccess.recase g) := by
  rw [accesses, accesses, recase_chars, g.length_chars]
  exact accessesUpTo_recase h

theorem StageReads.recase {separated : Bool} {stage : RawStage} {after : Rest}
    (h : StageReads separated r stage after) :
    StageReads separated (r.recase g) (stage.recase g) (after.recase g) := by
  have harrow {cs : List Char} (arrow : r.chars = '-' :: '>' :: cs) :
      ∃ cs', (r.recase g).chars = '-' :: '>' :: cs' := by
    refine ⟨g.chars (r.pos + '-'.utf8Size + '>'.utf8Size) cs, ?_⟩
    rw [recase_chars, arrow, g.chars_cons, g.chars_cons, g.char_of_not_isAlpha (d := '-') rfl,
      g.char_of_not_isAlpha (d := '>') rfl]
  have hbody : ((r.recase g).drop 2).skipBlanks = (r.drop 2).skipBlanks.recase g := by simp
  cases h with
  | @pattern cs value after arrow quote quoted =>
    obtain ⟨cs', arrow⟩ := harrow arrow
    have hquoted : ((r.drop 2).skipBlanks.recase g).quoted? =
        some (value.recase g, after.recase g) := by
      rw [quoted?_recase g _ quote, quoted]
      rfl
    rw [RawStage.recase, ← upTo_recase]
    exact .pattern arrow (by rwa [hbody, recase_peek?_any]) (by rwa [hbody])
  | @function cs name opening arguments after arrow quote named opened group =>
    obtain ⟨cs', arrow⟩ := harrow arrow
    have hnamed : ((r.drop 2).skipBlanks.recase g).name? false =
        some (name.recase g, opening.recase g) := by
      rw [name?_recase, named]
      rfl
    have hopened : (opening.recase g).skipBlanks.peek? = some '(' := by
      rw [skipBlanks_recase]
      exact (recase_peek?_eq_iff g _ rfl).2 opened
    have hgroup : (opening.recase g).skipBlanks.group? '(' ')' =
        some (arguments.recase g, after.recase g) := by
      rw [skipBlanks_recase, parenthesised_recase, group]
      rfl
    rw [RawStage.recase, ← upTo_recase]
    exact .function arrow (by rwa [hbody, recase_peek?_any]) (by rwa [hbody]) hopened hgroup
  | @separator cs value after comma single quote quoted =>
    have hnext : (r.recase g).next.skipBlanks = r.next.skipBlanks.recase g := by simp
    have hcomma : (r.recase g).chars = ',' :: g.chars (r.pos + ','.utf8Size) cs := by
      rw [recase_chars, comma, g.chars_cons, g.char_of_not_isAlpha (d := ',') rfl]
    have hquoted : (r.next.skipBlanks.recase g).quoted? =
        some (value.recase g, after.recase g) := by
      rw [quoted?_recase g _ quote, quoted]
      rfl
    exact .separator hcomma single (by rwa [hnext, recase_peek?_any]) (by rwa [hnext])

theorem ReadsStages.recase {separated : Bool} {stages : List RawStage}
    (h : ReadsStages separated r stages) :
    ReadsStages separated (r.recase g) (stages.map (RawStage.recase g)) := by
  induction h with
  | nil blank =>
    refine .nil ?_
    rw [skipBlanks_recase, recase_chars, blank]
    rfl
  | @cons separated r after stage stages first more ih =>
    have hseparator : isSeparator (stage.recase g) = isSeparator stage := by cases stage <;> rfl
    rw [← hseparator] at ih
    rw [List.map_cons]
    refine .cons ?_ ih
    rw [skipBlanks_recase]
    exact first.recase

theorem stages_recase (h : ∀ raw ∈ r.stages, raw.isFault = false) :
    (r.recase g).stages = r.stages.map (RawStage.recase g) :=
  (readsStages_of_stages h).recase.stages_eq

end Rest

/-! ## Chunks -/

/-- The same chunk in its new case. -/
def Chunk.recase (g : Recasing) : Chunk → Chunk
  | .literal span => .literal (span.recase g)
  | .property span body => .property (span.recase g) (body.recase g)
  | .items span body => .items (span.recase g) (body.recase g)
  | .metadata ref => .metadata (ref.mapSpans (Span.recase g))
  | .copied body => .copied (body.recase g)
  | .unclosed rest => .unclosed (rest.recase g)

/-- The same front in its new case. -/
def Chunk.Front.recase (g : Recasing) : Chunk.Front → Chunk.Front
  | .plain => .plain
  | .reference chunk length => .reference (chunk.recase g) length
  | .copied body => .copied (body.recase g)
  | .unclosed => .unclosed

theorem MetadataRef.read?_recase (g : Recasing) (r : Rest) :
    read? (r.recase g) =
      (read? r).map (Prod.map (mapSpans (Span.recase g)) (Rest.recase g)) := by
  have hstart : ((r.recase g).chars.take 2 == ['%', '(']) = (r.chars.take 2 == ['%', '(']) := by
    rw [Rest.recase_chars, g.take_chars, g.chars_beq (by decide)]
  simp only [read?, hstart, Rest.drop_recase, Rest.skipBlanks_recase, Rest.name?_recase]
  by_cases hopen : (r.chars.take 2 == ['%', '(']) = true
  · simp only [hopen, guard, if_true]
    rcases (r.drop 2).skipBlanks.name? true with _ | ⟨first, after⟩
    · rfl
    · have hpeek (last : Rest) {d : Char} (hd : d.isAlpha = false) :
          (last.recase g).peek? = some d ↔ last.peek? = some d := last.recase_peek?_eq_iff g hd
      by_cases hpoint : after.skipBlanks.peek? = some '.'
      · rcases hsecond : after.skipBlanks.next.skipBlanks.name? true with _ | ⟨second, last⟩
        · simp [hpoint, hpeek _ (d := '.') rfl, hsecond]
        · by_cases hclose : last.skipBlanks.peek? = some ')' <;>
            simp [hpoint, hpeek _ (d := '.') rfl,
              hpeek _ (d := ')') rfl, hsecond, hclose, mapSpans]
      · by_cases hclose : after.skipBlanks.peek? = some ')' <;>
          simp [hpoint, hpeek _ (d := '.') rfl,
            hpeek _ (d := ')') rfl, hclose, mapSpans]
  · simp only [hopen, guard]
    rfl

namespace Chunk

variable (g : Recasing) (options : Options)

@[simp] theorem body?_recase (r : Rest) :
    body? (r.recase g) = (body? r).map (Rest.recase g) := by
  simp only [body?, Rest.next_recase, Rest.parenthesised_recase, Option.map_map]
  rfl

theorem front_recase (r : Rest) : front options (r.recase g) = (front options r).recase g := by
  obtain ⟨pos, cs⟩ := r
  by_cases hopen : ∃ c more, cs = c :: '(' :: more
  · obtain ⟨c, more, rfl⟩ := hopen
    have hchars : (Rest.recase g ⟨pos, c :: '(' :: more⟩).chars =
        g.char pos c :: '(' :: g.chars (pos + c.utf8Size + 1) more := by
      simp only [Rest.recase_chars, g.chars_cons,
        g.char_of_not_isAlpha (d := '(') rfl]
      rfl
    have hlength : (g.chars (pos + c.utf8Size + 1) more).length = more.length :=
      g.length_chars _ more
    simp only [front, hchars, g.char_beq (d := '$') rfl,
      g.char_beq (d := '@') rfl,
      g.char_beq (d := '%') rfl, body?_recase, MetadataRef.read?_recase,
      Rest.drop_recase, Rest.upTo_recase, List.length_cons, hlength]
    generalize (⟨pos, c :: '(' :: more⟩ : Rest) = r
    split
    · rcases body? r with _ | body
      · rfl
      · simp [Front.recase, recase]
    · split
      · rcases body? r with _ | body
        · rfl
        · simp [Front.recase, recase]
      · split
        · cases body? r <;> rfl
        · split
          · rcases MetadataRef.read? r with _ | ⟨ref, after⟩
            · rfl
            · simp [Front.recase, recase]
          · rfl
  · cases cs with
    | nil => rfl
    | cons c cs =>
      have hhead : cs.head? ≠ some '(' := by
        rintro hparen
        cases cs with
        | nil => cases hparen
        | cons d more => exact hopen ⟨c, more, by rw [Option.some.inj hparen]⟩
      have hhead' : (g.chars (pos + c.utf8Size) cs).head? ≠ some '(' := by
        cases cs with
        | nil => simp
        | cons d more =>
          intro hparen
          have hd : (g.char (pos + c.utf8Size) d == '(') = true := by simpa using hparen
          rw [g.char_beq rfl, beq_iff_eq] at hd
          exact hhead (by rw [hd, List.head?_cons])
      rw [front_plain_of_head hhead]
      exact front_plain_of_head hhead'

theorem byteLength_reverse (cs : List Char) :
    Chars.byteLength cs.reverse = Chars.byteLength cs := by
  induction cs with
  | nil => rfl
  | cons c cs ih =>
    rw [List.reverse_cons, Chars.byteLength_append, ih]
    exact Nat.add_comm _ _

/-- A literal run, last character first, in its new case. -/
def recasedRun (start : Nat) (run : List Char) : List Char :=
  (g.chars start run.reverse).reverse

theorem recasedRun_cons {start pos : Nat} {run : List Char}
    (hpos : pos = start + Chars.byteLength run) (c : Char) :
    recasedRun g start (c :: run) = g.char pos c :: recasedRun g start run := by
  simp [recasedRun, g.chars_append, hpos, byteLength_reverse]

theorem flush_recasedRun (start : Nat) (run : List Char) :
    flush start (recasedRun g start run) = (flush start run).map (recase g) := by
  cases run with
  | nil => rfl
  | cons c run =>
    rw [recasedRun_cons g rfl]
    simp [flush, recase, Span.recase, recasedRun, g.chars_append, byteLength_reverse]

theorem chunksFrom_recase {start : Nat} {run : List Char} {skip pos : Nat} {cs : List Char}
    (hpos : pos = start + Chars.byteLength run) (hskip : skip ≠ 0 → run = []) :
    chunksFrom options start (recasedRun g start run) skip pos (g.chars pos cs) =
      (chunksFrom options start run skip pos cs).map (recase g) := by
  induction cs generalizing start run skip pos with
  | nil => exact flush_recasedRun g start run
  | cons c cs ih =>
    -- behind a reference a new run begins, and the characters of the reference are skipped
    have hskipped (after skip : Nat) :
        chunksFrom options after [] skip after (g.chars after cs) =
          (chunksFrom options after [] skip after cs).map (recase g) :=
      @ih after [] skip after rfl fun _ => rfl
    cases skip with
    | succ skip =>
      obtain rfl := hskip (Nat.succ_ne_zero skip)
      rw [g.chars_cons, chunksFrom, chunksFrom, g.utf8Size_char]
      exact hskipped (pos + c.utf8Size) skip
    | zero =>
      have hfront := front_recase g options ⟨pos, c :: cs⟩
      simp only [Rest.recase, g.chars_cons] at hfront
      rw [g.chars_cons, chunksFrom, chunksFrom, hfront, g.utf8Size_char]
      cases front options ⟨pos, c :: cs⟩ with
      | plain =>
        have hnext : pos + c.utf8Size = start + Chars.byteLength (c :: run) := by
          rw [hpos, Chars.byteLength_cons]
          omega
        have hmore := @ih start (c :: run) 0 _ hnext (by simp)
        rw [recasedRun_cons g hpos] at hmore
        exact hmore
      | reference chunk length =>
        simp only [Front.recase, flush_recasedRun, hskipped, List.map_append, List.map_cons]
      | copied body =>
        have hrun : '(' :: g.char pos c :: recasedRun g start run =
            recasedRun g start ('(' :: c :: run) := by
          rw [recasedRun_cons g rfl, recasedRun_cons g hpos,
            g.char_of_not_isAlpha (d := '(') rfl]
        simp only [Front.recase, hrun, flush_recasedRun, Rest.recase_chars, g.length_chars,
          hskipped, List.map_append, List.map_cons, recase]
      | unclosed => simp [Front.recase, flush_recasedRun, recase, Span.recase]

end Chunk

@[simp] theorem Rest.chunks_recase (g : Recasing) (options : Options) (r : Rest) :
    (r.recase g).chunks options = (r.chunks options).map (Chunk.recase g) :=
  Chunk.chunksFrom_recase g options rfl fun _ => rfl

end BuildExpr
