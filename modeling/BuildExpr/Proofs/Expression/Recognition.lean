import BuildExpr.Proofs.Expression.Coverage
import BuildExpr.Proofs.Expression.Faults
import BuildExpr.Proofs.Expression.MetadataGrammar

/-!
# Where metadata references are recognised

A text is read from left to right, and some of its parts are taken as a whole: the requested
references, and the item lists that are copied for their transforms (`Taken`). All other characters
are passed one by one (`AtRoot`), so each position lies at the root of the text or inside a part
that is taken (`atRoot_or_enclosed`).

At the root the reader has cut the text before a position and goes on with the text behind it
(`goesOn_of_atRoot`). So a `%(` there begins a segment of the tree exactly where a metadata
reference is written, and is plain text everywhere else (`Recognised`). It is never a fault: all
faults are those of property references and item lists (`reports_opens_parseUpTo`).
-/

namespace BuildExpr

/-! ## Spans over a position -/

namespace Rest

variable {pos : Nat} {cs : List Char}

/-- No span of a tiling begins before the text. -/
theorem Tiles.le_start {spans : List Span} (h : Tiles pos cs spans) {s : Span} (hs : s ∈ spans) :
    pos ≤ s.start :=
  (h.within s hs).pos_le

theorem Tiles.start_lt_stop {spans : List Span} (h : Tiles pos cs spans) {s : Span}
    (hs : s ∈ spans) : s.start < s.stop := by
  induction spans generalizing pos cs with
  | nil => cases hs
  | cons first spans ih =>
    obtain ⟨-, hne, rest, -, hrest⟩ := h
    rcases List.mem_cons.1 hs with rfl | hs
    · exact Nat.lt_add_of_pos_right (byteLength_pos hne)
    · exact ih hrest hs

/-- One element at most has a span over a position. -/
theorem Tiles.eq_of_covers {α : Type} {span : α → Span} {as : List α}
    (h : Tiles pos cs (as.map span)) {a b : α} (ha : a ∈ as) (hb : b ∈ as) {n : Nat}
    (hna : (span a).start ≤ n ∧ n < (span a).stop) (hnb : (span b).start ≤ n ∧ n < (span b).stop) :
    a = b := by
  induction as generalizing pos cs with
  | nil => cases ha
  | cons first as ih =>
    obtain ⟨-, -, rest, -, hrest⟩ := h
    have hlater {c : α} (hc : c ∈ as) : (span first).stop ≤ (span c).start :=
      hrest.le_start (List.mem_map_of_mem hc)
    rcases List.mem_cons.1 ha with rfl | ha' <;> rcases List.mem_cons.1 hb with rfl | hb'
    · rfl
    · have := hlater hb'
      omega
    · have := hlater ha'
      omega
    · exact ih hrest ha' hb'

end Rest

namespace Expression

variable {options : Options} {pos : Nat}

/-! ## Parts that are taken as a whole -/

/-- A part of a text that is taken as a whole at a position: a requested reference, or an item list
that is copied because the metadata in it belongs to its transforms. -/
inductive Taken (options : Options) (pos : Nat) : List Char → Prop
  | property {body : List Char} (requested : options.properties = true)
    (closes : Chars.Closes '(' ')' { depth := 1 } body) :
    Taken options pos ('$' :: '(' :: body ++ [')'])
  | list {body : List Char} (requested : options.items = true ∨ options.metadata = true)
    (closes : Chars.Closes '(' ')' { depth := 1 } body) :
    Taken options pos ('@' :: '(' :: body ++ [')'])
  | metadata {m : MetadataRef} {part : List Char} (requested : options.metadata = true)
    (written : m.Written pos part) : Taken options pos part

/-- Whether no part that is taken as a whole stands at the front of a text. -/
def TakesNone (options : Options) (pos : Nat) (cs : List Char) : Prop :=
  ∀ part rest, Taken options pos part → cs ≠ part ++ rest

/-- The positions of a text at its root, each with the characters before and behind it. The reader
comes to them by passing single characters that begin no part to be taken, and by taking parts. -/
inductive AtRoot (options : Options) (text : List Char) : List Char → List Char → Prop
  | start : AtRoot options text [] text
  | pass {before after : List Char} {c : Char} (h : AtRoot options text before (c :: after))
    (plain : TakesNone options (Chars.byteLength before) (c :: after)) :
    AtRoot options text (before ++ [c]) after
  | take {before part after : List Char} (h : AtRoot options text before (part ++ after))
    (taken : Taken options (Chars.byteLength before) part) :
    AtRoot options text (before ++ part) after

/-- Whether so many characters of a text end inside a part that is taken as a whole. -/
def Enclosed (options : Options) (text : List Char) (n : Nat) : Prop :=
  ∃ before part after, AtRoot options text before (part ++ after) ∧
    Taken options (Chars.byteLength before) part ∧ before.length < n ∧
    n < before.length + part.length

theorem AtRoot.append_eq {text before after : List Char} (h : AtRoot options text before after) :
    before ++ after = text := by
  induction h with
  | start => rfl
  | pass _ _ ih => rwa [List.append_assoc]
  | take _ _ ih => rwa [List.append_assoc]

theorem Taken.length_pos {part : List Char} (h : Taken options pos part) : 1 < part.length := by
  cases h with
  | property requested closes => simp
  | list requested closes => simp
  | metadata requested written =>
    obtain ⟨inside, parts, -, rfl, -⟩ := written
    simp

/-- Every position lies at the root or inside a part that is taken. -/
theorem atRoot_or_enclosed {text before after : List Char} (h : before ++ after = text) :
    AtRoot options text before after ∨ Enclosed options text before.length := by
  induction before using List.reverseRecOn generalizing after with
  | nil =>
    obtain rfl : after = text := h
    exact .inl .start
  | append_singleton before c ih =>
    rw [List.append_assoc, List.singleton_append] at h
    rcases ih h with hroot | ⟨front, part, back, hfront, htaken, hlt, hle⟩
    · by_cases htaken : ∃ part rest, Taken options (Chars.byteLength before) part ∧
          c :: after = part ++ rest
      · obtain ⟨part, rest, htaken, heq⟩ := htaken
        rw [heq] at hroot
        have hlong := htaken.length_pos
        exact .inr ⟨before, part, rest, hroot, htaken, by simp, by simpa using hlong⟩
      · exact .inl (hroot.pass fun part rest hpart heq => htaken ⟨part, rest, hpart, heq⟩)
    · rw [List.length_append, List.length_singleton]
      by_cases hlast : before.length + 1 = front.length + part.length
      · -- the part ends here
        have htext : front ++ part ++ back = before ++ [c] ++ after := by
          rw [List.append_assoc, hfront.append_eq, List.append_assoc, List.singleton_append, h]
        obtain ⟨hbefore, rfl⟩ := List.append_inj htext (by simp [hlast])
        rw [← hbefore]
        exact .inl (hfront.take htaken)
      · exact .inr ⟨front, part, back, hfront, htaken, by omega, by omega⟩

/-! ## What the reader takes -/

theorem Taken.of_reads {part : List Char} {chunk : Chunk} (h : chunk.Reads options pos part) :
    Taken options pos part := by
  cases h with
  | property requested closes => exact .property requested closes
  | items requested closes => exact .list (.inl requested) closes
  | metadata requested plain read =>
    exact .metadata requested ⟨_, _, MetadataRef.inside_of_inner? read, rfl, rfl⟩

/-- A part is taken whatever follows it: it is read, or it is a list that is copied. -/
theorem Taken.reads_or_copied {part : List Char} (h : Taken options pos part) :
    (∃ chunk, Chunk.Reads options pos part chunk) ∨
      ∃ body, part = '@' :: '(' :: body ++ [')'] ∧
        ∀ rest, Chunk.front options ⟨pos, part ++ rest⟩ = .copied ⟨pos + 2, body⟩ := by
  cases h with
  | property requested closes => exact .inl ⟨_, .property requested closes⟩
  | @list body requested closes =>
    cases hitems : options.items with
    | true => exact .inl ⟨_, .items hitems closes⟩
    | false =>
      refine .inr ⟨body, rfl, fun rest => ?_⟩
      have hmetadata : options.metadata = true := by simpa [hitems] using requested
      simpa using Chunk.front_copied hmetadata hitems closes pos rest
  | metadata requested written =>
    exact .inl ⟨_, MetadataRef.reads_iff_written.2 ⟨requested, written⟩⟩

/-- A position lies at the root when nothing but plain text begins before it. -/
theorem not_enclosed_of_plain {text : List Char} {n : Nat}
    (h : ∀ k < n, Chunk.front options ⟨Chars.byteLength (text.take k), text.drop k⟩ = .plain) :
    ¬Enclosed options text n := by
  rintro ⟨before, part, after, hroot, htaken, hlt, -⟩
  have hplain := h before.length hlt
  rw [← hroot.append_eq, List.take_left, List.drop_left] at hplain
  rcases htaken.reads_or_copied with ⟨chunk, hreads⟩ | ⟨body, rfl, hcopied⟩
  · rw [Chunk.front_of_reads hreads] at hplain
    cases hplain
  · rw [hcopied] at hplain
    cases hplain

/-- A character that no part begins with is plain text, unless a reference there does not end. -/
theorem front_plain_or_unclosed {c : Char} {cs : List Char}
    (h : TakesNone options pos (c :: cs)) :
    Chunk.front options ⟨pos, c :: cs⟩ = .plain ∨
      Chunk.front options ⟨pos, c :: cs⟩ = .unclosed := by
  cases hfront : Chunk.front options ⟨pos, c :: cs⟩ with
  | plain => exact .inl rfl
  | unclosed => exact .inr rfl
  | reference chunk length =>
    obtain ⟨part, rest, heq, -, hreads⟩ := Chunk.reads_of_front hfront
    exact absurd heq (h part rest (.of_reads hreads))
  | copied body =>
    obtain ⟨hmetadata, -, -, hcloses, rest, heq⟩ := Chunk.eq_of_front_copied hfront
    exact absurd (by simpa using heq) (h _ rest (.list (.inr hmetadata) hcloses))

/-! ## The reader at the root -/

/-- Chunks that end with those of the text behind a position. A run of plain text before it may not
be ended yet. -/
def GoesOn (options : Options) (chunks : List Chunk) (pos : Nat) (after : List Char) : Prop :=
  ∃ done start run, chunks = done ++ Chunk.chunksFrom options start run 0 pos after ∧
    start + Chars.byteLength run.reverse = pos

namespace GoesOn

variable {chunks : List Chunk} {after : List Char}

/-- Nothing is read behind a reference that does not end. -/
theorem pass {c : Char} (h : GoesOn options chunks pos (c :: after))
    (hclosed : ∀ rest, .unclosed rest ∉ chunks)
    (plain : TakesNone options pos (c :: after)) :
    GoesOn options chunks (pos + c.utf8Size) after := by
  obtain ⟨done, start, run, rfl, hstart⟩ := h
  rcases front_plain_or_unclosed plain with hfront | hfront
  · refine ⟨done, start, c :: run, by rw [Chunk.chunksFrom_plain hfront], ?_⟩
    rw [List.reverse_cons, Chars.byteLength_append, ← Nat.add_assoc, hstart]
    rfl
  · refine absurd ?_ (hclosed ⟨pos, String.ofList (c :: after)⟩)
    rw [Chunk.chunksFrom]
    simp [hfront]

theorem take {part : List Char} (h : GoesOn options chunks pos (part ++ after))
    (taken : Taken options pos part) :
    GoesOn options chunks (pos + Chars.byteLength part) after := by
  obtain ⟨done, start, run, rfl, -⟩ := h
  rcases taken.reads_or_copied with ⟨chunk, hreads⟩ | ⟨body, rfl, hcopied⟩
  · rw [Chunk.chunksFrom_reference hreads]
    exact ⟨done ++ (Chunk.flush start run ++ [chunk]), pos + Chars.byteLength part, [], by simp,
      by simp⟩
  · -- the closing parenthesis of the list begins the plain text behind it
    have hclose : Chunk.front options ⟨pos + 2 + Chars.byteLength body, ')' :: after⟩ = .plain :=
      Chunk.front_plain_of_ne (by decide) (by decide) (by decide)
    have htext : '@' :: '(' :: body ++ [')'] ++ after = '@' :: '(' :: body ++ ')' :: after := by
      simp
    have hlength : pos + Chars.byteLength ('@' :: '(' :: body ++ [')']) =
        pos + 2 + Chars.byteLength body + (')' : Char).utf8Size := by
      have hat : ('@' : Char).utf8Size = 1 := rfl
      have hopen : ('(' : Char).utf8Size = 1 := rfl
      simp only [List.cons_append, Chars.byteLength_cons, Chars.byteLength_append,
        Chars.byteLength_nil, hat, hopen]
      omega
    have hfront := hcopied after
    rw [htext] at hfront ⊢
    rw [Chunk.chunksFrom_copied hfront, Chunk.chunksFrom_plain hclose, hlength]
    exact ⟨done ++ (Chunk.flush start ('(' :: '@' :: run) ++ [.copied ⟨pos + 2, body⟩]),
      pos + 2 + Chars.byteLength body, [')'], by simp, rfl⟩

end GoesOn

/-- At the root the reader has cut the text before a position and goes on with the text behind it,
where every reference in the text ends. -/
theorem goesOn_of_atRoot {text before after : List Char} (h : AtRoot options text before after)
    (hclosed : ∀ rest, .unclosed rest ∉ Chunk.chunksFrom options 0 [] 0 0 text) :
    GoesOn options (Chunk.chunksFrom options 0 [] 0 0 text) (Chars.byteLength before) after := by
  induction h with
  | start => exact ⟨[], 0, [], rfl, rfl⟩
  | pass _ plain ih =>
    rw [Chars.byteLength_append]
    exact ih.pass hclosed plain
  | take _ taken ih =>
    rw [Chars.byteLength_append]
    exact ih.take taken

theorem mem_flush_append {run : List Char} (hrun : run ≠ []) (start : Nat) (chunks : List Chunk) :
    Chunk.literal ⟨start, String.ofList run.reverse⟩ ∈ Chunk.flush start run ++ chunks := by
  cases run with
  | nil => exact absurd rfl hrun
  | cons c run => exact List.mem_append_left _ (List.mem_singleton.2 rfl)

/-- A run of plain text that was begun is at the front of a chunk. -/
theorem literal_of_run (options : Options) (start : Nat) {run : List Char} (hrun : run ≠ [])
    (pos : Nat) (cs : List Char) :
    ∃ more, .literal ⟨start, String.ofList (run.reverse ++ more)⟩ ∈
      Chunk.chunksFrom options start run 0 pos cs := by
  revert hrun
  refine Chunk.chunksFrom_induction options (motive := fun start run _ _ chunks => run ≠ [] →
    ∃ more, .literal ⟨start, String.ofList (run.reverse ++ more)⟩ ∈ chunks)
    ?nil ?plain ?reference ?copied ?unclosed start run pos cs
  case nil =>
    intro start run _ hrun
    exact ⟨[], by simpa using mem_flush_append hrun start []⟩
  case plain =>
    intro start run _ c _ chunks _ ih _
    obtain ⟨more, hmore⟩ := ih (by simp)
    exact ⟨c :: more, by simpa using hmore⟩
  case reference =>
    intro start run _ _ _ chunk chunks _ _ hrun
    exact ⟨[], by simpa using mem_flush_append hrun start (chunk :: chunks)⟩
  case copied =>
    intro start run pos body _ chunks _ _ _ _ _
    have hopening := mem_flush_append (List.cons_ne_nil '(' ('@' :: run)) start
      (.copied ⟨pos + 2, body⟩ :: chunks)
    exact ⟨['@', '('], by simpa using hopening⟩
  case unclosed =>
    intro start run pos c cs _ hrun
    have hlast := mem_flush_append hrun start [.unclosed ⟨pos, String.ofList (c :: cs)⟩]
    exact ⟨[], by simpa using hlast⟩

end Expression

/-! ## What faults are about -/

/-- Whether a text begins as a property reference or an item list does. -/
def Opens (cs : List Char) : Prop := ∃ c rest, (c = '$' ∨ c = '@') ∧ cs = c :: '(' :: rest

namespace Chunk

variable {options : Options}

/-- Whether the text that the faults of a chunk are reported with opens a property reference or an
item list. Plain text and metadata references have no faults. -/
def FaultsOpen : Chunk → Prop
  | property span _ | items span _ | unclosed span => Opens span.text.toList
  | literal _ | metadata _ | copied _ => True

theorem opens_of_front_unclosed {pos : Nat} {cs : List Char}
    (h : front options ⟨pos, cs⟩ = .unclosed) : Opens cs := by
  simp only [front] at h
  split at h
  · rename_i c rest
    split at h
    · rename_i hc
      simp only [Bool.and_eq_true, beq_iff_eq] at hc
      exact ⟨c, rest, .inl hc.1, rfl⟩
    · split at h
      · rename_i hc
        simp only [Bool.and_eq_true, beq_iff_eq] at hc
        exact ⟨c, rest, .inr hc.1, rfl⟩
      · split at h
        · split at h <;> cases h
        · split at h
          · split at h <;> cases h
          · cases h
  · cases h

theorem Reads.faultsOpen {pos : Nat} {ref : List Char} {chunk : Chunk}
    (h : Reads options pos ref chunk) : chunk.FaultsOpen := by
  cases h with
  | property requested closes => exact ⟨'$', _, .inl rfl, String.toList_ofList⟩
  | items requested closes => exact ⟨'@', _, .inr rfl, String.toList_ofList⟩
  | metadata requested plain read => trivial

theorem faultsOpen_of_mem_chunks {r : Rest} : ∀ chunk ∈ r.chunks options, chunk.FaultsOpen := by
  refine forall_mem_chunks (fun _ => trivial) (fun _ _ _ hreads => hreads.faultsOpen)
    (fun _ => trivial) (fun _ cs hfront => ?_) r
  simpa [FaultsOpen] using opens_of_front_unclosed hfront

end Chunk

namespace Expression

/-- Every fault is reported with a property reference or an item list, or with the text from the
opening of one on. -/
theorem reports_opens_parseUpTo (depth : Nat) :
    ∀ options r, Except.Reports (fun m => Opens m.expression.toList)
      (parseUpTo depth options r) := by
  induction depth with
  | zero => exact fun _ _ => .ok _
  | succ depth ih =>
    intro options r
    refine .bind (.mapM fun chunk hchunk => ?_) fun _ => .ok _
    have hopen := Chunk.faultsOpen_of_mem_chunks chunk hchunk
    have hfaults (ref : Span) (body : Rest) (href : Opens ref.text.toList) :
        Faults (parseUpTo depth) ref body fun m => Opens m.expression.toList :=
      ⟨fun _ => href, fun options _ _ => ih options _⟩
    cases chunk with
    | literal span => exact .ok _
    | property span body => exact .bind (hfaults span body hopen).parseProperty fun _ => .ok _
    | items span body => exact .bind (hfaults span body hopen).parseItems fun _ => .ok _
    | metadata m => exact .ok _
    | copied body => exact .bind (ih _ body) fun _ => .ok _
    | unclosed rest => exact .error hopen

variable {options : Options} {text : String} {e : Expression}

/-! ## The segments of a tree -/

theorem exists_of_parse (h : parse options text = .ok e) :
    ∃ read segments, ((Rest.ofText text).chunks options).mapM (parseChunk read options) =
      .ok segments ∧ e.segments = segments.flatten := by
  obtain ⟨segments, hsegments, h⟩ := Except.bind_eq_ok.1 h
  obtain rfl := Except.ok.inj h
  exact ⟨_, segments, hsegments, rfl⟩

theorem unclosed_not_mem (h : parse options text = .ok e) (rest : Span) :
    .unclosed rest ∉ (Rest.ofText text).chunks options := by
  intro hmem
  obtain ⟨read, segments, hsegments, -⟩ := exists_of_parse h
  obtain ⟨_, hfail⟩ := Except.exists_of_mapM_eq_ok hsegments _ hmem
  cases hfail

/-- What is read of a chunk is in the tree. -/
theorem mem_segments_of_mem_chunks (h : parse options text = .ok e) {chunk : Chunk}
    (hchunk : chunk ∈ (Rest.ofText text).chunks options) {s : Segment}
    (hs : ∀ read, parseChunk read options chunk = .ok [s]) : s ∈ e.segments := by
  obtain ⟨read, segments, hsegments, he⟩ := exists_of_parse h
  obtain ⟨front, back, hsplit⟩ := List.append_of_mem hchunk
  rw [hsplit] at hsegments
  obtain ⟨first, _, -, hmore, rfl⟩ := Except.mapM_append_eq_ok.1 hsegments
  obtain ⟨middle, last, hmiddle, -, rfl⟩ := Except.mapM_cons_eq_ok.1 hmore
  obtain rfl : middle = [s] := Except.ok.inj (hmiddle.symm.trans (hs read))
  simp [he]

/-- One segment at most begins at a position or goes over it. -/
theorem eq_of_covers (h : parse options text = .ok e) {s t : Segment} (hs : s ∈ e.segments)
    (ht : t ∈ e.segments) {n : Nat} (hns : s.span.start = n) (hnt : t.span.start ≤ n)
    (hnt' : t.span.start = n ∨ n < t.span.stop) : s = t := by
  have htiles := (sound_parse h).2.1.here.tiles e rfl
  have hlt := htiles.start_lt_stop (List.mem_map_of_mem hs)
  have hlt' := htiles.start_lt_stop (List.mem_map_of_mem ht)
  exact htiles.eq_of_covers hs ht (n := n) (by omega) (by omega)

theorem goesOn_of_parse (h : parse options text = .ok e) {before after : List Char}
    (hroot : AtRoot options text.toList before after) :
    GoesOn options ((Rest.ofText text).chunks options) (Chars.byteLength before) after :=
  goesOn_of_atRoot hroot (unclosed_not_mem h)

end Expression

/-- Whether a metadata reference is written at the front of a text. -/
def MetadataRef.Begins (m : MetadataRef) (pos : Nat) (cs : List Char) : Prop :=
  ∃ part rest, m.Written pos part ∧ cs = part ++ rest

namespace Expression

/-- What the segments of a tree tell of a position where `%(` stands, with the text from there on:
the metadata reference that is written there, and plain text if there is none. -/
structure Recognised (e : Expression) (pos : Nat) (cs : List Char) : Prop where
  begins_iff : (∃ m, Segment.metadata m ∈ e.segments ∧ m.span.start = pos) ↔
    ∃ m : MetadataRef, m.Begins pos cs
  exact : ∀ m : MetadataRef, m.Begins pos cs →
    Segment.metadata m ∈ e.segments ∧ ∀ s ∈ e.segments, s.span.start = pos → s = .metadata m
  literal : (¬∃ m : MetadataRef, m.Begins pos cs) →
    ∃ span front back, Segment.literal span ∈ e.segments ∧
      span.text.toList = front ++ '%' :: '(' :: back ∧ span.start + Chars.byteLength front = pos

theorem mem_of_begins (h : parse options text = .ok e) (hmetadata : options.metadata = true)
    {before after : List Char} (hroot : AtRoot options text.toList before after) {m : MetadataRef}
    (hm : m.Begins (Chars.byteLength before) after) : .metadata m ∈ e.segments := by
  obtain ⟨part, rest, hwritten, rfl⟩ := hm
  obtain ⟨done, start, run, hchunks, -⟩ := goesOn_of_parse h hroot
  have hreads := MetadataRef.reads_iff_written.2 ⟨hmetadata, hwritten⟩
  have hmem : .metadata m ∈ (Rest.ofText text).chunks options := by
    rw [hchunks, Chunk.chunksFrom_reference hreads]
    simp
  exact mem_segments_of_mem_chunks h hmem fun _ => rfl

theorem start_of_begins {m : MetadataRef} {pos : Nat} {cs : List Char} (h : m.Begins pos cs) :
    m.span.start = pos := by
  obtain ⟨_, _, ⟨_, _, _, _, rfl⟩, _⟩ := h
  rfl

/-- Where no metadata reference is written `%(` is plain text. -/
theorem literal_of_not_begins (h : parse options text = .ok e) {before after : List Char}
    (hroot : AtRoot options text.toList before ('%' :: '(' :: after))
    (hnone : ¬∃ m : MetadataRef, m.Begins (Chars.byteLength before) ('%' :: '(' :: after)) :
    ∃ span front back, .literal span ∈ e.segments ∧
      span.text.toList = front ++ '%' :: '(' :: back ∧
        span.start + Chars.byteLength front = Chars.byteLength before := by
  obtain ⟨done, start, run, hchunks, hstart⟩ := goesOn_of_parse h hroot
  have hmark : Chunk.front options ⟨Chars.byteLength before, '%' :: '(' :: after⟩ = .plain := by
    have htakes : TakesNone options (Chars.byteLength before) ('%' :: '(' :: after) := by
      intro part rest htaken heq
      cases htaken with
      | property requested closes => exact absurd (List.cons.inj heq).1 (by decide)
      | list requested closes => exact absurd (List.cons.inj heq).1 (by decide)
      | metadata requested written => exact hnone ⟨_, part, rest, written, heq⟩
    refine (front_plain_or_unclosed htakes).resolve_right fun hunclosed => ?_
    obtain ⟨c, rest, hc, heq⟩ := Chunk.opens_of_front_unclosed hunclosed
    obtain ⟨rfl, -⟩ := List.cons.inj heq
    exact absurd hc (by decide)
  have hopen (pos : Nat) : Chunk.front options ⟨pos, '(' :: after⟩ = .plain :=
    Chunk.front_plain_of_ne (by decide) (by decide) (by decide)
  rw [Chunk.chunksFrom_plain hmark, Chunk.chunksFrom_plain (hopen _)] at hchunks
  obtain ⟨more, hmore⟩ := literal_of_run options start (List.cons_ne_nil '(' ('%' :: run))
    (Chars.byteLength before + ('%' : Char).utf8Size + ('(' : Char).utf8Size) after
  have hmem : .literal ⟨start, String.ofList (('(' :: '%' :: run).reverse ++ more)⟩ ∈
      (Rest.ofText text).chunks options := by
    rw [hchunks]
    exact List.mem_append_right _ hmore
  exact ⟨_, run.reverse, more, mem_segments_of_mem_chunks h hmem fun _ => rfl, by simp, hstart⟩

/-- Metadata references are recognised exactly: where they are requested and a text can be read, a
`%(` at the root begins the metadata reference that is written there, with its extent and its names,
and is plain text if none is. No fault is that of a `%(`. -/
theorem metadata_recognised (hmetadata : options.metadata = true) (text : String) :
    (∀ e, parse options text = .ok e → ∀ before after,
      text.toList = before ++ '%' :: '(' :: after →
        ¬Enclosed options text.toList before.length →
          e.Recognised (Chars.byteLength before) ('%' :: '(' :: after)) ∧
      ∀ m, parse options text = .error m → Opens m.expression.toList := by
  refine ⟨fun e h before after htext houtside => ?_, reports_opens_parseUpTo _ options _⟩
  have hroot := (atRoot_or_enclosed htext.symm).resolve_right houtside
  refine ⟨⟨?_, fun ⟨m, hm⟩ => ?_⟩, fun m hm => ⟨?_, fun s hs hstart => ?_⟩,
    literal_of_not_begins h hroot⟩
  · rintro ⟨m, hm, hstart⟩
    by_contra hnone
    obtain ⟨span, front, back, hspan, hback, hfront⟩ := literal_of_not_begins h hroot hnone
    -- the plain text would go over the start of the segment
    have hstop : Chars.byteLength before < span.stop := by
      have hmark : ('%' : Char).utf8Size = 1 := rfl
      rw [Span.stop, hback, Chars.byteLength_append, Chars.byteLength_cons, hmark]
      omega
    have heq : Segment.metadata m = .literal span :=
      eq_of_covers h hm hspan hstart (by simp only [Segment.span]; omega) (.inr hstop)
    cases heq
  · exact ⟨m, mem_of_begins h hmetadata hroot hm, start_of_begins hm⟩
  · exact mem_of_begins h hmetadata hroot hm
  · have hmem := mem_of_begins h hmetadata hroot hm
    have hpos := start_of_begins hm
    exact eq_of_covers h hs hmem hstart (Nat.le_of_eq hpos) (.inl hpos)

theorem metadata_recognised_of_names :
    ∃ e, parse { metadata := true } "é%(b->c)%( T\t. N-1 )@(I->'%(F)')" = .ok e ∧
      e.Recognised 2 "%(b->c)%( T\t. N-1 )@(I->'%(F)')".toList ∧
      e.Recognised 9 "%( T\t. N-1 )@(I->'%(F)')".toList ∧
      .metadata ⟨⟨9, "%( T\t. N-1 )"⟩, some ⟨12, "T"⟩, ⟨16, "N-1"⟩⟩ ∈ e.segments := by
  obtain ⟨e, he⟩ : ∃ e, parse { metadata := true } "é%(b->c)%( T\t. N-1 )@(I->'%(F)')" = .ok e :=
    Except.exists_of_isSome (by decide +kernel)
  have hrecognised := (metadata_recognised rfl _).1 e he
  have hfirst : e.Recognised 2 "%(b->c)%( T\t. N-1 )@(I->'%(F)')".toList :=
    hrecognised ['é'] "b->c)%( T\t. N-1 )@(I->'%(F)')".toList (by decide +kernel)
      (not_enclosed_of_plain (by decide +kernel))
  have hsecond : e.Recognised 9 "%( T\t. N-1 )@(I->'%(F)')".toList :=
    hrecognised "é%(b->c)".toList " T\t. N-1 )@(I->'%(F)')".toList (by decide +kernel)
      (not_enclosed_of_plain (by decide +kernel))
  have hwritten : MetadataRef.Written 9 ⟨⟨9, "%( T\t. N-1 )"⟩, some ⟨12, "T"⟩, ⟨16, "N-1"⟩⟩
      "%( T\t. N-1 )".toList := by
    refine ⟨" T\t. N-1 ".toList, (some ⟨12, "T"⟩, ⟨16, "N-1"⟩), ?_, by decide +kernel, by decide⟩
    exact MetadataRef.inner?_eq_some_iff.1 (by decide +kernel)
  exact ⟨e, he, hfirst, hsecond,
    (hsecond.exact _ ⟨_, "@(I->'%(F)')".toList, hwritten, by decide +kernel⟩).1⟩

end Expression

end BuildExpr
