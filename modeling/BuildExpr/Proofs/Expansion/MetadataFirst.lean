import BuildExpr.Proofs.Expansion.Escaped
import BuildExpr.Proofs.Expression.Occurrence

/-!
# Metadata first, item lists later

Metadata can be expanded before the item lists around it: an expansion of the metadata alone copies
every item list with all that is in it, and an expansion of the item lists in what it leaves gives
what both give at once (`Expander.expandEscaped_metadataFirst`). The text at hand consists of
characters, item lists and metadata references; the first expansion puts values in the place of the
metadata references (`Token.Filled`), and the second one reads the same item lists in the text that
is left, provided that no value makes an opening of one: neither with an `@` in the value nor with
an `@` in front of it.
-/

namespace BuildExpr

/-- Item lists and metadata. -/
def Options.itemsAndMetadata : Options := { items := true, metadata := true }

/-- Metadata and nothing else. -/
def Options.metadataOnly : Options := { metadata := true }

/-- Item lists and nothing else. -/
def Options.itemsOnly : Options := { items := true }

/-- Whether a character stands directly in front of a span in a text. -/
def Span.Follows (c : Char) (text : String) (s : Span) : Prop :=
  ∃ before after, text.toList = before ++ c :: s.text.toList ++ after ∧
    s.start = Chars.byteLength (before ++ [c])

open Eval Options

/-! ## Evaluations without properties -/

section Setting

variable {s : Setting}

/-- The setting with other options. -/
def Setting.withOptions (s : Setting) (options : Options) : Setting := { s with options }

/-- Nothing that a tree asks of its setting depends on what is requested; that matters to reading
only. -/
theorem Setting.related_withOptions {options : Options}
    (h : options.truncate = s.options.truncate) :
    s.Related (fun _ f f' => f' = f) (fun _ => True) (s.withOptions options) where
  pure _ := rfl
  bind hf hg := by rw [hf, funext hg]
  property _ _ := rfl
  shownValue _ := by rw [shownValue, withOptions, h, shownValue]
  shownEntries _ := by rw [shownEntries, withOptions, h, shownEntries]
  entries _ := rfl
  registryValue _ := by simp only [registryValue, withOptions]
  metadataValue _ _ := rfl
  callStatic _ _ _ _ := rfl
  callMember _ _ _ _ := rfl
  notIndexed _ _ := rfl
  memberMissing _ _ := rfl
  run _ _ args entries := by
    have hrun (call : ItemCall) (w : World) :
        call.run (s.withOptions options) w args entries = call.run s w args entries :=
      call.run_congr rfl rfl w args entries
    simp only [hrun]

theorem evalSegments_withOptions {options : Options} (h : options.truncate = s.options.truncate)
    (item : Option Item) (segments : List Segment) :
    evalSegments (s.withOptions options) item segments = evalSegments s item segments :=
  related_evalSegments (Setting.related_withOptions h) item segments fun _ _ =>
    .all (fun _ => trivial) _

/-- Only property references call functions that may change the surroundings. -/
theorem Setting.related_keeps_of_not_isProperty (s : Setting) :
    s.Related (fun _ f _ => f.Keeps) (fun n => n.isProperty = false) s where
  pure a := .pure a
  bind hf hg := hf.bind hg
  property _ _ := rfl
  shownValue _ := rfl
  shownEntries _ := rfl
  entries _ := rfl
  registryValue _ := .look _
  metadataValue _ _ := .look _
  callStatic hproperty := Bool.noConfusion hproperty
  callMember hproperty := Bool.noConfusion hproperty
  notIndexed _ _ := .throw _
  memberMissing _ _ := .throw _
  run _ _ _ _ := .look _

end Setting

/-! ## What the fronts of texts read as -/

namespace Chunk

/-- What is plain text to an expansion of item lists and metadata is so to one of metadata. -/
theorem front_plain_metadataOnly {pos : Nat} {c : Char} {cs : List Char}
    (h : front itemsAndMetadata ⟨pos, c :: cs⟩ = .plain) :
    front metadataOnly ⟨pos, c :: cs⟩ = .plain := by
  by_cases hopen : cs.head? = some '('
  · obtain ⟨cs, rfl⟩ : ∃ more, cs = '(' :: more := by
      cases cs with
      | nil => cases hopen
      | cons d more => exact ⟨more, by rw [Option.some.inj hopen]⟩
    have hat : c ≠ '@' := fun hc => (not_requested_of_front_plain h).2 ⟨hc, rfl⟩
    simpa [front, hat, itemsAndMetadata, metadataOnly] using h
  · exact front_plain_of_head hopen

/-- A character that opens no item list is plain text to an expansion of item lists. -/
theorem front_plain_itemsOnly {pos : Nat} {c : Char} {cs : List Char}
    (h : c = '@' → cs.head? ≠ some '(') : front itemsOnly ⟨pos, c :: cs⟩ = .plain := by
  by_cases hat : c = '@'
  · exact front_plain_of_head (h hat)
  · exact front_plain_of_not_requested rfl (fun hproperty => Bool.noConfusion hproperty.2)
      fun hitems => hat hitems.1

end Chunk

namespace Expression

/-- Item lists are read in the same way whatever else is requested. -/
theorem parseItems_options (read : Reader) {options options' : Options}
    (h : listOptions options = listOptions options') (ref : Span) (body : Rest) :
    parseItems read options ref body = parseItems read options' ref body := by
  have hstage : parseStage read options ref = parseStage read options' ref := by
    funext parts raw
    cases raw <;> simp only [parseStage, h]
  simp only [parseItems, hstage]

end Expression

namespace Token

/-! ## Item lists and metadata references -/

/-- Where item lists and metadata are requested a reference is one or the other. -/
theorem Fits.list_or_metadata {ref : List Char} {segment : Segment}
    (h : (reference ref segment).Fits itemsAndMetadata) :
    (∃ body list, ref = '@' :: '(' :: body ++ [')'] ∧ Chars.Closes '(' ')' { depth := 1 } body ∧
      segment = .items list) ∨
    ∃ m : MetadataRef, segment = .metadata m ∧ m.span = ⟨0, String.ofList ref⟩ ∧
      Chunk.Reads metadataOnly 0 ref (.metadata m) := by
  obtain ⟨chunk, hreads, hchunk⟩ := h
  cases hreads with
  | property requested _ => cases requested
  | items _ closes =>
    obtain ⟨list, -, hsegment⟩ := Except.bind_eq_ok.1 hchunk
    obtain rfl := (List.cons.inj (Except.ok.inj hsegment)).1
    exact .inl ⟨_, list, rfl, closes, rfl⟩
  | metadata _ plain read =>
    obtain rfl := (List.cons.inj (Except.ok.inj hchunk)).1
    exact .inr ⟨_, rfl, rfl, .metadata rfl plain read⟩

/-- An item list is read in the same way when metadata is not requested. -/
theorem Fits.itemsOnly {ref : List Char} {list : ItemList}
    (h : (reference ref (.items list)).Fits itemsAndMetadata) :
    (reference ref (.items list)).Fits itemsOnly := by
  obtain ⟨chunk, hreads, hchunk⟩ := h
  cases hreads with
  | property requested _ => cases requested
  | items _ closes =>
    refine ⟨_, .items rfl closes, ?_⟩
    rw [Expression.parseChunk] at hchunk ⊢
    have hoptions : Expression.listOptions itemsAndMetadata =
        Expression.listOptions Options.itemsOnly := rfl
    rwa [← Expression.parseItems_options _ hoptions]
  | metadata _ _ _ => cases hchunk

/-- References that are read where properties are not requested leave the surroundings. -/
theorem Fits.keeps {options : Options} (hoptions : options.properties = false) {ref : List Char}
    {segment : Segment} (h : (reference ref segment).Fits options) (s : Setting)
    (item : Option Item) : (evalSegment s item segment).Keeps := by
  obtain ⟨chunk, hreads, hchunk⟩ := h
  have hrequested :=
    (Expression.requested_parseUpTo ref.length).parseChunk hreads.isRequested hchunk
  exact related_evalSegment s.related_keeps_of_not_isProperty item segment
    ((hrequested segment (by simp)).everywhere_not_isProperty hoptions)

/-! ## The first expansion -/

/-- What a token is evaluated as where item lists are copied. -/
def copied : Token → Segment
  | reference text (.items _) => .literal ⟨0, String.ofList text⟩
  | t => t.segment

theorem copied_char (c : Char) : copied (char c) = .literal ⟨0, String.ofList [c]⟩ := rfl

theorem copied_metadata (ref : List Char) (m : MetadataRef) :
    copied (reference ref (.metadata m)) = .metadata m := rfl

/-- A text is copied where nothing is requested. -/
theorem exists_of_unrequested {options : Options} (h : options.expandsAnything = false)
    (depth : Nat) (r : Rest) :
    ∃ e, Expression.parseUpTo (depth + 1) options r = .ok e ∧
      ∀ s item more, evalSegments s item (e.segments ++ more) =
        (do return String.ofList r.chars ++ (← evalSegments s item more)) := by
  obtain ⟨segments, hsegments, hvalue⟩ := exists_of_flush options
    (Expression.parseUpTo depth) r.pos (r.chars.reverse ++ [])
  refine ⟨.mk r.span segments.flatten, ?_, fun s item more => ?_⟩
  · refine Except.bind_eq_ok.2 ⟨segments, ?_, rfl⟩
    rw [Rest.chunks, chunksFrom_of_not_expandsAnything h]
    exact hsegments
  · have := hvalue s item more
    rwa [List.append_nil, List.reverse_reverse] at this

/-- An expansion of metadata reads the tokens after a run of plain text with the item lists among
them as text. -/
theorem exists_copied_of_readable {ts : List Token} (h : Readable itemsAndMetadata ts) {depth : Nat}
    (start : Nat) (run : List Char) (pos : Nat) (hn : (textAll ts).length ≤ depth) :
    ∃ segments, (Chunk.chunksFrom metadataOnly start run 0 pos (textAll ts)).mapM
        (Expression.parseChunk (Expression.parseUpTo depth) metadataOnly) = .ok segments ∧
      ∀ s item, evalSegments s item segments.flatten =
        (do return String.ofList run.reverse ++ (← evalSegments s item (ts.map copied))) := by
  induction h generalizing start run pos with
  | nil =>
    obtain ⟨segments, hsegments, hvalue⟩ :=
      exists_of_flush metadataOnly (Expression.parseUpTo depth) start run
    refine ⟨segments, hsegments, fun s item => ?_⟩
    have := hvalue s item []
    rwa [List.append_nil] at this
  | @char c ts h more ih =>
    have hfront : Chunk.front metadataOnly ⟨pos, c :: textAll ts⟩ = .plain :=
      Chunk.front_plain_metadataOnly (Chunk.front_plain_iff_zero.2 h)
    obtain ⟨segments, hsegments, hvalue⟩ :=
      ih start (c :: run) (pos + c.utf8Size) (Nat.le_of_succ_le hn)
    refine ⟨segments, ?_, fun s item => ?_⟩
    · rw [textAll_cons, text, List.singleton_append, Chunk.chunksFrom_plain hfront]
      exact hsegments
    · rw [hvalue, List.map_cons, copied_char, evalSegments_literal]
      simp only [List.reverse_cons, String.ofList_append, bind_assoc, pure_bind,
        String.append_assoc]
  | @reference ref segment ts h more ih =>
    rw [textAll_cons, Token.text] at hn ⊢
    rw [List.length_append] at hn
    obtain ⟨body, list, rfl, hcloses, rfl⟩ | ⟨m, rfl, -, hreads⟩ := h.list_or_metadata
    · -- the opening is plain text, the inside is read where nothing is requested, and the closing
      -- parenthesis begins the next run of plain text
      have htext : ('@' :: '(' :: body ++ [')']) ++ textAll ts =
          '@' :: '(' :: body ++ ')' :: textAll ts := by simp
      have hfront : Chunk.front metadataOnly ⟨pos, '@' :: '(' :: body ++ ')' :: textAll ts⟩ =
          .copied ⟨pos + 2, body⟩ := Chunk.front_copied rfl rfl hcloses pos (textAll ts)
      have hclose (pos : Nat) : Chunk.front metadataOnly ⟨pos, ')' :: textAll ts⟩ = .plain :=
        Chunk.front_plain_of_ne (by decide) (by decide) (by decide)
      obtain ⟨flushed, hflushed, hrun⟩ := exists_of_flush metadataOnly
        (Expression.parseUpTo depth) start ('(' :: '@' :: run)
      obtain ⟨depth, rfl⟩ : ∃ d, depth = d + 1 := by
        refine ⟨depth - 1, ?_⟩
        simp only [List.length_append, List.length_cons] at hn
        omega
      have hnothing : ({ metadataOnly with metadata := false } : Options).expandsAnything = false :=
        rfl
      obtain ⟨e, he, hbody⟩ := exists_of_unrequested hnothing depth ⟨pos + 2, body⟩
      obtain ⟨segments, hsegments, hvalue⟩ := ih (pos + 2 + Chars.byteLength body) [')']
        (pos + 2 + Chars.byteLength body + (')' : Char).utf8Size) (by omega)
      refine ⟨flushed ++ e.segments :: segments, ?_, fun s item => ?_⟩
      · rw [htext, Chunk.chunksFrom_copied hfront, Chunk.chunksFrom_plain (hclose _)]
        refine Except.mapM_append_eq_ok.2 ⟨_, _, hflushed, ?_, rfl⟩
        refine Except.mapM_cons_eq_ok.2 ⟨_, _, ?_, hsegments, rfl⟩
        exact Except.bind_eq_ok.2 ⟨e, he, rfl⟩
      · rw [List.flatten_append, hrun, List.flatten_cons, hbody, hvalue, List.map_cons, copied,
          evalSegments_literal]
        simp only [List.reverse_cons, List.reverse_nil, List.nil_append, List.append_assoc,
          List.cons_append, bind_assoc, pure_bind, ← String.append_assoc, ← String.ofList_append]
    · obtain ⟨flushed, hflushed, hrun⟩ :=
        exists_of_flush metadataOnly (Expression.parseUpTo depth) start run
      obtain ⟨segments, hsegments, hvalue⟩ :=
        ih (pos + Chars.byteLength ref) [] (pos + Chars.byteLength ref) (by omega)
      refine ⟨flushed ++ [(Segment.metadata m).shift pos] :: segments, ?_, fun s item => ?_⟩
      · rw [Chunk.chunksFrom_reference (by simpa using hreads.shift pos)]
        refine Except.mapM_append_eq_ok.2 ⟨_, _, hflushed, ?_, rfl⟩
        exact Except.mapM_cons_eq_ok.2 ⟨_, _, rfl, hsegments, rfl⟩
      · rw [List.flatten_append, hrun, List.flatten_cons, List.singleton_append, evalSegments,
          evalSegment_shift, hvalue, List.map_cons, copied_metadata, evalSegments]
        simp only [List.reverse_nil, String.ofList_nil, String.empty_append, bind_pure]

/-- The value of a text in an expansion of metadata. -/
theorem exists_copied {ts : List Token} (h : Readable itemsAndMetadata ts) {text : String}
    (htext : text.toList = textAll ts) :
    ∃ e, Expression.parse metadataOnly text = .ok e ∧
      ∀ s item, evalExpression s item e = evalSegments s item (ts.map copied) := by
  have hlength : (textAll ts).length = text.length := by rw [← htext, String.length_toList]
  obtain ⟨segments, hsegments, hvalue⟩ := exists_copied_of_readable h 0 [] 0 (Nat.le_of_eq hlength)
  refine ⟨.mk _ segments.flatten, parse_eq_ok ?_, fun s item => ?_⟩
  · rw [Rest.chunks, Rest.ofText, htext]
    exact hsegments
  · rw [evalExpression, hvalue]
    simp only [List.reverse_nil, String.ofList_nil, String.empty_append, bind_pure]

/-! ## Values in place of metadata references -/

/-- Tokens with the characters of values in place of their metadata references. -/
inductive Filled (s : Setting) (w : World) : List Token → List Token → Prop
  | nil : Filled s w [] []
  | char (c : Char) {ts ts' : List Token} (more : Filled s w ts ts') :
    Filled s w (.char c :: ts) (.char c :: ts')
  | items (ref : List Char) (list : ItemList) {ts ts' : List Token} (more : Filled s w ts ts') :
    Filled s w (.reference ref (.items list) :: ts) (.reference ref (.items list) :: ts')
  | metadata (ref : List Char) {m : MetadataRef} {value : String}
    (h : (s.metadataValue none m).result w = (.ok value, w)) {ts ts' : List Token}
    (more : Filled s w ts ts') :
    Filled s w (.reference ref (.metadata m) :: ts) (value.toList.map .char ++ ts')

/-- A text that has a value can be filled, and has the same value then. -/
theorem exists_filled {s : Setting} {ts : List Token}
    (hfits : ∀ t ∈ ts, t.Fits itemsAndMetadata) {t : String} {w w' : World}
    (h : (evalSegments s none (ts.map segment)).result w = (.ok t, w')) :
    ∃ ts', Filled s w ts ts' ∧ (evalSegments s none (ts'.map segment)).result w = (.ok t, w') := by
  induction ts generalizing t w' with
  | nil => exact ⟨[], .nil, h⟩
  | cons first ts ih =>
    obtain ⟨hfirst, hmore⟩ := List.forall_mem_cons.1 hfits
    cases first with
    | char c =>
      rw [List.map_cons, segment, evalSegments_literal] at h
      obtain ⟨others, w₁, hothers, hreturn⟩ := result_bind_eq_ok.1 h
      obtain ⟨ts', hfilled, hvalue⟩ := ih hmore hothers
      refine ⟨.char c :: ts', .char c hfilled, ?_⟩
      rw [List.map_cons, segment, evalSegments_literal]
      exact result_bind_eq_ok.2 ⟨others, _, hvalue, hreturn⟩
    | reference ref segment =>
      rw [List.map_cons, Token.segment, evalSegments] at h
      obtain ⟨value, w₁, hvalue, h⟩ := result_bind_eq_ok.1 h
      obtain ⟨others, w₂, hothers, hreturn⟩ := result_bind_eq_ok.1 h
      have hw := hfirst.keeps rfl s none w
      rw [hvalue] at hw
      obtain rfl : w₁ = w := hw
      obtain ⟨ts', hfilled, hrest⟩ := ih hmore hothers
      obtain ⟨body, list, rfl, hcloses, rfl⟩ | ⟨m, rfl, -, -⟩ := hfirst.list_or_metadata
      · refine ⟨_, .items _ list hfilled, ?_⟩
        rw [List.map_cons, Token.segment, evalSegments]
        exact result_bind_eq_ok.2
          ⟨value, _, hvalue, result_bind_eq_ok.2 ⟨others, _, hrest, hreturn⟩⟩
      · refine ⟨_, .metadata ref hvalue hfilled, ?_⟩
        rw [evalSegments_chars, String.ofList_toList]
        exact result_bind_eq_ok.2 ⟨others, _, hrest, hreturn⟩

/-- What the first expansion leaves of a text are its tokens with values in place of metadata
references. -/
theorem Filled.result_copied {s : Setting} {w : World} {ts ts' : List Token}
    (h : Filled s w ts ts') :
    (evalSegments s none (ts.map copied)).result w = (.ok (String.ofList (textAll ts')), w) := by
  induction h with
  | nil => rfl
  | char c more ih =>
    rw [List.map_cons, copied_char, evalSegments_literal, textAll_cons, text,
      String.ofList_append]
    exact result_bind_eq_ok.2 ⟨_, _, ih, rfl⟩
  | items ref list more ih =>
    rw [List.map_cons, copied, evalSegments_literal, textAll_cons, text, String.ofList_append]
    exact result_bind_eq_ok.2 ⟨_, _, ih, rfl⟩
  | @metadata ref m value hvalue ts ts' more ih =>
    rw [List.map_cons, copied_metadata, evalSegments, textAll_append, textAll_map_char,
      String.ofList_append, String.ofList_toList]
    exact result_bind_eq_ok.2 ⟨value, w, hvalue, result_bind_eq_ok.2 ⟨_, w, ih, rfl⟩⟩

/-! ## The second expansion -/

/-- Tokens without an `@` directly in front of a metadata reference. -/
def Apart (ts : List Token) : Prop :=
  ∀ xs ref m ys, ts ≠ xs ++ .char '@' :: .reference ref (.metadata m) :: ys

/-- Tokens whose metadata references have values without an `@`. -/
def ValuesPlain (s : Setting) (w : World) (ts : List Token) : Prop :=
  ∀ ref m, .reference ref (.metadata m) ∈ ts → ∀ value,
    (s.metadataValue none m).result w = (.ok value, w) → '@' ∉ value.toList

theorem Apart.tail {t : Token} {ts : List Token} (h : Apart (t :: ts)) : Apart ts :=
  fun xs ref m ys hts => h (t :: xs) ref m ys (by rw [hts, List.cons_append])

/-- What follows an `@` of plain text opens no item list after the values are put in. -/
theorem Filled.head?_ne {s : Setting} {w : World} {ts ts' : List Token} (h : Filled s w ts ts')
    (hread : Readable itemsAndMetadata (.char '@' :: ts)) (hapart : Apart (.char '@' :: ts)) :
    (textAll ts').head? ≠ some '(' := by
  obtain _ | @⟨_, _, hfront, hmore⟩ := hread
  cases h with
  | nil => simp
  | char c more =>
    rw [textAll_cons, text]
    rintro hopen
    obtain rfl : c = '(' := Option.some.inj hopen
    exact (Chunk.not_requested_of_front_plain hfront).2 ⟨rfl, rfl⟩
  | items ref list more =>
    obtain _ | _ | ⟨hfits, -⟩ := hmore
    obtain ⟨body, _, rfl, -, -⟩ | ⟨m, hm, -, -⟩ := hfits.list_or_metadata
    · simp [text]
    · cases hm
  | metadata ref hvalue more => exact absurd rfl (hapart [] _ _ _)

/-- The second expansion reads the item lists of the text between the values. -/
theorem Filled.readable {s : Setting} {w : World} {ts ts' : List Token} (h : Filled s w ts ts')
    (hread : Readable itemsAndMetadata ts) (hapart : Apart ts) (hvalues : ValuesPlain s w ts) :
    Readable itemsOnly ts' := by
  have htail {t : Token} {ts : List Token} (h : ValuesPlain s w (t :: ts)) : ValuesPlain s w ts :=
    fun ref m hm => h ref m (List.mem_cons_of_mem t hm)
  induction h with
  | nil => exact .nil
  | @char c ts ts' more ih =>
    have hopens : c = '@' → (textAll ts').head? ≠ some '(' := by
      rintro rfl
      exact more.head?_ne hread hapart
    obtain _ | @⟨_, _, -, hmore⟩ := hread
    exact .char (Chunk.front_plain_itemsOnly hopens) (ih hmore hapart.tail (htail hvalues))
  | items ref list more ih =>
    obtain _ | _ | ⟨hfits, hmore⟩ := hread
    exact .reference hfits.itemsOnly (ih hmore hapart.tail (htail hvalues))
  | metadata ref hvalue more ih =>
    obtain _ | _ | ⟨-, hmore⟩ := hread
    have hplain := hvalues ref _ (by simp) _ hvalue
    refine (ih hmore hapart.tail (htail hvalues)).chars_append rfl fun c hc => ⟨?_, ?_⟩
    · exact fun hproperty => Bool.noConfusion hproperty.2
    · exact fun hat => hplain (hat.1 ▸ hc)

/-! ## The references of a text among its tokens -/

section Parsed

variable {text : String} {e : Expression} {ts : List Token}

theorem apart_of_parse (he : Expression.parse itemsAndMetadata text = .ok e)
    (htext : text.toList = textAll ts) (hread : Readable itemsAndMetadata ts)
    (h : ∀ m, .metadata m ∈ e.segments → ¬m.span.Follows '@' text) : Apart ts := by
  rintro xs ref m ys rfl
  have hfits := hread.fits (.reference ref (.metadata m)) (by simp)
  obtain ⟨_, _, -, -, hm⟩ | ⟨m, hm, hspan, -⟩ := hfits.list_or_metadata
  · cases hm
  obtain rfl := Segment.metadata.inj hm
  have hsplit : xs ++ .char '@' :: .reference ref (.metadata m) :: ys =
      (xs ++ [.char '@']) ++ .reference ref (.metadata m) :: ys := by simp
  rw [hsplit] at htext hread
  have hmem := mem_segments_of_readable hread htext he
  refine h _ hmem ⟨textAll xs, textAll ys, ?_, ?_⟩
  · rw [htext]
    simp [MetadataRef.shift, Span.shift, hspan, Token.text]
  · simp [MetadataRef.shift, Span.shift, hspan, Token.text]

theorem valuesPlain_of_parse (he : Expression.parse itemsAndMetadata text = .ok e)
    (htext : text.toList = textAll ts) (hread : Readable itemsAndMetadata ts) {s : Setting}
    {w : World} (h : ∀ m, .metadata m ∈ e.segments → ∀ value,
      (s.metadataValue none m).result w = (.ok value, w) → '@' ∉ value.toList) :
    ValuesPlain s w ts := by
  intro ref m hmem value hvalue
  obtain ⟨xs, ys, rfl⟩ := List.append_of_mem hmem
  have hshift := evalSegment_shift (s := s) (k := Chars.byteLength (textAll xs)) none (.metadata m)
  refine h _ (mem_segments_of_readable hread htext he) value ?_
  rw [← hvalue]
  exact congrArg (Eval.result · w) hshift

end Parsed

end Token

/-! ## Both expansions -/

namespace Expander

open Token

/-- **Expanding metadata first and item lists later gives what expanding both at once does.** A text
expands to the same in both ways as long as none of its metadata references outside of item lists
directly follows an `@`, and none of their values has an `@` in it. -/
theorem expandEscaped_metadataFirst {x : Expander} {lookup : Lookup} {text t : String}
    {e : Expression} {w w' : World} (he : Expression.parse itemsAndMetadata text = .ok e)
    (h : (x.expandEscaped text itemsAndMetadata lookup).result w = (.ok t, w'))
    (hfollows : ∀ m, .metadata m ∈ e.segments → ¬m.span.Follows '@' text)
    (hvalues : ∀ m, .metadata m ∈ e.segments → ∀ value,
      ((x.setting itemsAndMetadata lookup w).metadataValue none m).result w = (.ok value, w) →
        '@' ∉ value.toList) :
    ∃ staged, (x.expandEscaped text metadataOnly lookup).result w = (.ok staged, w) ∧
      (x.expandEscaped staged itemsOnly lookup).result w = (.ok t, w') := by
  obtain ⟨ts, htext, hread⟩ := exists_readable (.inl rfl) he
  have hvalue : (evalSegments (x.setting itemsAndMetadata lookup w) none
      (ts.map segment)).result w = (.ok t, w') := by
    obtain ⟨e', he', hvalue⟩ := exists_value_of_expandEscaped rfl h
    obtain rfl : e = e' := Except.ok.inj (he.symm.trans he')
    rwa [evalExpression_eq hread htext.symm he] at hvalue
  obtain ⟨ts', hfilled, hvalue'⟩ := exists_filled hread.fits hvalue
  have hread' : Readable itemsOnly ts' := hfilled.readable hread
    (apart_of_parse he htext.symm hread hfollows) (valuesPlain_of_parse he htext.symm hread hvalues)
  -- neither expansion looks at what is requested once its text is read
  have hsame (options : Options) (hoptions : options.truncate = false) (segments : List Segment) :
      evalSegments (x.setting options lookup w) none segments =
        evalSegments (x.setting itemsAndMetadata lookup w) none segments :=
    evalSegments_withOptions (s := x.setting itemsAndMetadata lookup w) hoptions none segments
  refine ⟨String.ofList (textAll ts'), ?first, ?second⟩
  case first =>
    obtain ⟨copy, hcopy, hvalue⟩ := exists_copied hread htext.symm
    refine result_expandEscaped hcopy ?_
    rw [hvalue, hsame metadataOnly rfl]
    exact hfilled.result_copied
  case second =>
    obtain ⟨e', he', hvalue⟩ := parse_of_readable hread'
    refine result_expandEscaped he' ?_
    rw [hvalue, hsame itemsOnly rfl]
    exact hvalue'

/-- The metadata in the pattern of an item list is that of the items of the list, also when the
metadata in front of the list is expanded before it. -/
theorem expandEscaped_metadataFirst_of_pattern :
    ∃ staged w', (({} : Expander).expandEscaped "%(M)-@(I->'%(M)')" metadataOnly
        { scopes := [.ofDocument [] [("I", [{ spec := "a", metadata := [("M", "1")] }])]],
          metadataItem := some <|
            ({ itemType := "J", spec := "c" } : Item).setMetadata "M" "x;y" }).result .bare =
        (.ok staged, .bare) ∧
      (({} : Expander).expandEscaped staged itemsOnly
        { scopes := [.ofDocument [] [("I", [{ spec := "a", metadata := [("M", "1")] }])]],
          metadataItem := some <|
            ({ itemType := "J", spec := "c" } : Item).setMetadata "M" "x;y" }).result .bare =
        (.ok "x;y-1", w') := by
  have hreferences : (Expression.parse itemsAndMetadata "%(M)-@(I->'%(M)')").toOption.map
      (fun e => e.segments.filterMap fun
        | .metadata m => some m
        | _ => none) = some [⟨⟨0, "%(M)"⟩, none, ⟨2, "M"⟩⟩] := by
    decide +kernel
  have hvalue : ((({} : Expander).expandEscaped "%(M)-@(I->'%(M)')" itemsAndMetadata
      { scopes := [.ofDocument [] [("I", [{ spec := "a", metadata := [("M", "1")] }])]],
        metadataItem := some <|
          ({ itemType := "J", spec := "c" } : Item).setMetadata "M" "x;y" }
      |>.result .bare).1.toOption) = some "x;y-1" := by
    decide +kernel
  have hplain : ((((({} : Expander).setting itemsAndMetadata
      { scopes := [.ofDocument [] [("I", [{ spec := "a", metadata := [("M", "1")] }])]],
        metadataItem := some <|
          ({ itemType := "J", spec := "c" } : Item).setMetadata "M" "x;y" }
      .bare).metadataValue none ⟨⟨0, "%(M)"⟩, none, ⟨2, "M"⟩⟩).result .bare).1.toOption =
        some "x;y") := by
    decide +kernel
  obtain ⟨e, he, hreferences⟩ := Option.map_eq_some_iff.1 hreferences
  have he := Except.toOption_eq_some.1 he
  obtain ⟨w', hvalue⟩ := exists_of_toOption hvalue
  have href (m : MetadataRef) (hm : .metadata m ∈ e.segments) :
      m = ⟨⟨0, "%(M)"⟩, none, ⟨2, "M"⟩⟩ := by
    have : m ∈ e.segments.filterMap fun
        | .metadata m => some m
        | _ => none := List.mem_filterMap.2 ⟨_, hm, rfl⟩
    rw [hreferences] at this
    exact List.mem_singleton.1 this
  have hfollows (m : MetadataRef) (hm : .metadata m ∈ e.segments) :
      ¬m.span.Follows '@' "%(M)-@(I->'%(M)')" := by
    rintro ⟨before, after, -, hstart⟩
    have hat : Chars.byteLength ['@'] = 1 := rfl
    rw [href m hm, Chars.byteLength_append] at hstart
    dsimp only at hstart
    omega
  obtain ⟨staged, hfirst, hsecond⟩ := expandEscaped_metadataFirst he hvalue hfollows
    fun m hm value hresult => by
      rw [href m hm] at hresult
      rw [hresult] at hplain
      obtain rfl : value = "x;y" := Option.some.inj hplain
      decide
  exact ⟨staged, w', hfirst, hsecond⟩

end Expander

end BuildExpr
