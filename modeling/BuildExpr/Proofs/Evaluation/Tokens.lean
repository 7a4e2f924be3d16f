import BuildExpr.Proofs.Evaluation.Shift

/-!
# Texts token by token

A text is a list of tokens: characters that are copied and references that are not. When no
character of it begins a reference together with what follows (`Readable`; by its own characters
`Scan`), the text is read and its value is that of its tokens, one behind the other
(`parse_of_readable`). Conversely every text that is read with no parenthesis in plain text is such
a list (`exists_tokens`), and so is every text that is read with no item list copied as text
(`exists_readable`). So cutting a text between its tokens cuts its value there.
-/

namespace BuildExpr

/-- A character that is copied, or a reference with the segment that it reads as. -/
inductive Token
  | char (c : Char)
  | reference (text : List Char) (segment : Segment)

namespace Token

/-- The text of a token. -/
def text : Token → List Char
  | char c => [c]
  | reference text _ => text

/-- The text of tokens, one behind the other. -/
def textAll (ts : List Token) : List Char := ts.flatMap text

/-- What a token is evaluated as. -/
def segment : Token → Segment
  | char c => .literal ⟨0, String.ofList [c]⟩
  | reference _ segment => segment

@[simp] theorem textAll_nil : textAll [] = [] := rfl

@[simp] theorem textAll_cons (t : Token) (ts : List Token) :
    textAll (t :: ts) = t.text ++ textAll ts := rfl

@[simp] theorem textAll_append (xs ys : List Token) :
    textAll (xs ++ ys) = textAll xs ++ textAll ys := List.flatMap_append

@[simp] theorem textAll_map_char (cs : List Char) : textAll (cs.map char) = cs := by
  induction cs with
  | nil => rfl
  | cons c cs ih => rw [List.map_cons, textAll_cons, ih]; rfl

/-- Whether a reference reads as its segment. -/
def Fits (options : Options) : Token → Prop
  | char _ => True
  | reference text segment =>
    ∃ chunk, Chunk.Reads options 0 text chunk ∧
      Expression.parseChunk (Expression.parseUpTo text.length) options chunk = .ok [segment]

/-- Whether a token is no parenthesis of plain text. -/
def NoParenthesis : Token → Prop
  | char c => c ≠ '(' ∧ c ≠ ')'
  | reference _ _ => True

/-- Tokens whose references fit and whose characters are read as plain text before what follows. -/
inductive Readable (options : Options) : List Token → Prop
  | nil : Readable options []
  | char {c : Char} {ts : List Token} (h : Chunk.front options ⟨0, c :: textAll ts⟩ = .plain)
    (more : Readable options ts) : Readable options (.char c :: ts)
  | reference {text : List Char} {segment : Segment} {ts : List Token}
    (h : (reference text segment).Fits options) (more : Readable options ts) :
    Readable options (.reference text segment :: ts)

/-- Tokens whose references fit and whose characters cannot begin one before what follows, be it
requested or not. -/
inductive Scan (options : Options) : List Token → Prop
  | nil : Scan options []
  | char {c : Char} {ts : List Token} (h : Chars.IsMark c → (textAll ts).head? ≠ some '(')
    (more : Scan options ts) : Scan options (.char c :: ts)
  | reference {text : List Char} {segment : Segment} {ts : List Token}
    (h : (reference text segment).Fits options) (more : Scan options ts) :
    Scan options (.reference text segment :: ts)

end Token

namespace Chunk.Reads

variable {options : Options} {pos : Nat} {ref : List Char} {chunk : Chunk}

/-- A reference gives one segment, which is no plain text. -/
theorem exists_segment (h : Reads options pos ref chunk) {read : Expression.Reader}
    {segments : List Segment} (hs : Expression.parseChunk read options chunk = .ok segments) :
    ∃ segment, segments = [segment] ∧ segment.isLiteral = false := by
  cases h with
  | property =>
    obtain ⟨p, -, hs⟩ := Except.bind_eq_ok.1 hs
    exact ⟨_, (Except.ok.inj hs).symm, rfl⟩
  | items =>
    obtain ⟨list, -, hs⟩ := Except.bind_eq_ok.1 hs
    exact ⟨_, (Except.ok.inj hs).symm, rfl⟩
  | metadata => exact ⟨_, (Except.ok.inj hs).symm, rfl⟩

end Chunk.Reads

namespace Token

variable {options : Options}

theorem Scan.readable {ts : List Token} (h : Scan options ts) : Readable options ts := by
  induction h with
  | nil => exact .nil
  | @char c ts h more ih =>
    refine .char ?_ ih
    by_cases hc : Chars.IsMark c
    · exact Chunk.front_plain_of_head (h hc)
    · exact Chunk.front_plain_of_ne (fun e => hc (.inl e)) (fun e => hc (.inr (.inl e)))
        (fun e => hc (.inr (.inr e)))
  | reference h more ih => exact .reference h ih

theorem Readable.fits {ts : List Token} (h : Readable options ts) : ∀ t ∈ ts, t.Fits options := by
  induction h with
  | nil => simp
  | char _ _ ih => exact List.forall_mem_cons.2 ⟨trivial, ih⟩
  | reference hfits _ ih => exact List.forall_mem_cons.2 ⟨hfits, ih⟩

/-- Texts with a `;` between them: nothing of the first begins a reference that ends behind it. -/
theorem Readable.append (hoptions : options.items = true ∨ options.metadata = false)
    {xs ys : List Token} (hx : Readable options xs) (hy : Readable options ys) :
    Readable options (xs ++ .char ';' :: ys) := by
  induction hx with
  | nil => exact .char (Chunk.front_plain_of_ne (by decide) (by decide) (by decide)) hy
  | @char c ts h more ih =>
    rw [List.cons_append]
    refine .char ?_ ih
    rw [textAll_append, textAll_cons]
    exact Chunk.front_plain_append hoptions h (textAll ys)
  | reference h more ih => exact .reference h ih

/-- Without metadata references, characters that begin no requested reference are tokens. -/
theorem Readable.chars_append (hmetadata : options.metadata = false) {ts : List Token}
    (h : Readable options ts) {cs : List Char}
    (hcs : ∀ c ∈ cs, ¬(c = '$' ∧ options.properties = true) ∧ ¬(c = '@' ∧ options.items = true)) :
    Readable options (cs.map .char ++ ts) := by
  induction cs with
  | nil => exact h
  | cons c cs ih =>
    obtain ⟨⟨hproperty, hitems⟩, hrest⟩ := List.forall_mem_cons.1 hcs
    exact .char (Chunk.front_plain_of_not_requested hmetadata hproperty hitems) (ih hrest)

theorem Scan.of_noParenthesis {ts : List Token} (hfits : ∀ t ∈ ts, t.Fits options)
    (hplain : ∀ t ∈ ts, t.NoParenthesis) : Scan options ts := by
  induction ts with
  | nil => exact .nil
  | cons t ts ih =>
    have hts := ih (fun t ht => hfits t (by simp [ht])) fun t ht => hplain t (by simp [ht])
    cases t with
    | reference text segment => exact .reference (hfits _ (by simp)) hts
    | char c =>
      refine .char (fun _ => ?_) hts
      cases ts with
      | nil => simp
      | cons next ts =>
        cases next with
        | char d =>
          have := hplain (.char d) (by simp)
          simpa [text, NoParenthesis] using this.1
        | reference text segment =>
          obtain ⟨chunk, hreads, -⟩ := hfits (.reference text segment) (by simp)
          obtain ⟨d, body, hd, -, rfl⟩ := hreads.isReference
          rcases hd with rfl | rfl | rfl <;> simp [Token.text]

end Token

/-! ## The value of tokens -/

section Value

variable (s : Setting) (item : Option Item)

theorem evalSegments_append (xs ys : List Segment) :
    evalSegments s item (xs ++ ys) =
      (do
        let first ← evalSegments s item xs
        let others ← evalSegments s item ys
        return first ++ others) := by
  induction xs with
  | nil => simp only [List.nil_append, evalSegments, pure_bind, String.empty_append, bind_pure]
  | cons x xs ih =>
    simp only [List.cons_append, evalSegments, ih, bind_assoc, pure_bind, String.append_assoc]

theorem evalSegments_literal (span : Span) (segments : List Segment) :
    evalSegments s item (.literal span :: segments) =
      (do return span.text ++ (← evalSegments s item segments)) := by
  simp only [evalSegments, evalSegment, pure_bind]

/-- The value of characters that are copied is the text they make up. -/
theorem evalSegments_chars (cs : List Char) (ts : List Token) :
    evalSegments s item ((cs.map Token.char ++ ts).map Token.segment) =
      (do return String.ofList cs ++ (← evalSegments s item (ts.map Token.segment))) := by
  induction cs with
  | nil =>
    simp only [List.map_nil, List.nil_append, String.ofList_nil, String.empty_append, bind_pure]
  | cons c cs ih =>
    have hcons : String.ofList [c] ++ String.ofList cs = String.ofList (c :: cs) := by
      rw [← String.ofList_append, List.singleton_append]
    rw [List.map_cons, List.cons_append, List.map_cons, Token.segment, evalSegments_literal, ih]
    simp only [bind_assoc, pure_bind, ← String.append_assoc, hcons]

theorem evalSegments_map_char (cs : List Char) :
    evalSegments s item ((cs.map Token.char).map Token.segment) = pure (String.ofList cs) := by
  have := evalSegments_chars s item cs []
  rw [List.append_nil] at this
  rw [this, List.map_nil, evalSegments, pure_bind, String.append_empty]

end Value

/-! ## Reading tokens -/

namespace Token

variable {options : Options}

theorem exists_of_flush (options : Options) (read : Expression.Reader) (start : Nat)
    (run : List Char) :
    ∃ segments, (Chunk.flush start run).mapM (Expression.parseChunk read options) = .ok segments ∧
      ∀ s item more, evalSegments s item (segments.flatten ++ more) =
        (do return String.ofList run.reverse ++ (← evalSegments s item more)) := by
  cases run with
  | nil =>
    refine ⟨[], rfl, fun s item more => ?_⟩
    simp only [List.flatten_nil, List.nil_append, List.reverse_nil, String.ofList_nil,
      String.empty_append, bind_pure]
  | cons c run =>
    refine ⟨[[.literal ⟨start, String.ofList (c :: run).reverse⟩]], rfl, fun s item more => ?_⟩
    exact evalSegments_literal s item _ more

/-- Reading tokens after a run of plain text: the value is that of the run and of the tokens, and
every reference among them is a segment at its place. -/
theorem exists_of_readable {ts : List Token} (h : Readable options ts) {depth : Nat} (start : Nat)
    (run : List Char) (pos : Nat) (hn : (textAll ts).length ≤ depth) :
    ∃ segments, (Chunk.chunksFrom options start run 0 pos (textAll ts)).mapM
        (Expression.parseChunk (Expression.parseUpTo depth) options) = .ok segments ∧
      (∀ s item, evalSegments s item segments.flatten =
        (do return String.ofList run.reverse ++ (← evalSegments s item (ts.map segment)))) ∧
      ∀ xs text segment ys, ts = xs ++ .reference text segment :: ys →
        segment.shift (pos + Chars.byteLength (textAll xs)) ∈ segments.flatten := by
  induction h generalizing start run pos with
  | nil =>
    obtain ⟨segments, hsegments, hvalue⟩ :=
      exists_of_flush options (Expression.parseUpTo depth) start run
    refine ⟨segments, hsegments, fun s item => ?_, fun xs text segment ys hts => ?_⟩
    · have := hvalue s item []
      rwa [List.append_nil] at this
    · cases xs <;> cases hts
  | @char c ts h more ih =>
    have hfront : Chunk.front options ⟨pos, c :: textAll ts⟩ = .plain :=
      Chunk.front_plain_iff_zero.2 h
    obtain ⟨segments, hsegments, hvalue, hmem⟩ :=
      ih start (c :: run) (pos + c.utf8Size) (Nat.le_of_succ_le hn)
    refine ⟨segments, ?_, fun s item => ?_, fun xs text segment ys hts => ?_⟩
    · rw [textAll_cons, text, List.singleton_append, Chunk.chunksFrom_plain hfront]
      exact hsegments
    · rw [hvalue, List.map_cons, segment, evalSegments_literal]
      simp only [List.reverse_cons, String.ofList_append, bind_assoc, pure_bind,
        String.append_assoc]
    · cases xs with
      | nil => cases hts
      | cons x xs =>
        obtain ⟨rfl, rfl⟩ := List.cons.inj hts
        have := hmem xs text segment ys rfl
        rwa [textAll_cons, Token.text, List.singleton_append, Chars.byteLength_cons,
          ← Nat.add_assoc]
  | @reference text segment ts h more ih =>
    obtain ⟨chunk, hreads, hchunk⟩ := h
    obtain ⟨flushed, hflushed, hrun⟩ :=
      exists_of_flush options (Expression.parseUpTo depth) start run
    simp only [textAll_cons, Token.text, List.length_append] at hn
    obtain ⟨segments, hsegments, hvalue, hmem⟩ :=
      ih (pos + Chars.byteLength text) [] (pos + Chars.byteLength text) (by omega)
    have hinside := hreads.inside_length_lt
    have hmoved := Expression.parseChunk_shift pos options hinside
      (show chunk.inside.length < depth by omega)
    rw [hchunk] at hmoved
    refine ⟨flushed ++ [segment.shift pos] :: segments, ?_, fun s item => ?_,
      fun xs text' segment' ys hts => ?_⟩
    · rw [textAll_cons, Token.text, Chunk.chunksFrom_reference (by simpa using hreads.shift pos)]
      refine Except.mapM_append_eq_ok.2 ⟨_, _, hflushed, ?_, rfl⟩
      exact Except.mapM_cons_eq_ok.2 ⟨_, _, hmoved, hsegments, rfl⟩
    · rw [List.flatten_append, hrun, List.flatten_cons, List.singleton_append, evalSegments,
        evalSegment_shift, hvalue, List.map_cons, Token.segment, evalSegments]
      simp only [List.reverse_nil, String.ofList_nil, String.empty_append, bind_pure]
    · rw [List.flatten_append, List.flatten_cons, List.singleton_append]
      refine List.mem_append_right _ ?_
      cases xs with
      | nil =>
        cases hts
        exact List.mem_cons_self
      | cons x xs =>
        obtain ⟨rfl, rfl⟩ := List.cons.inj hts
        have := hmem xs text' segment' ys rfl
        rw [textAll_cons, Token.text, Chars.byteLength_append, ← Nat.add_assoc]
        exact List.mem_cons_of_mem _ this

/-- The segments of a text that are read chunk by chunk. -/
theorem parse_eq_ok {text : String} {segments : List (List Segment)}
    (h : ((Rest.ofText text).chunks options).mapM
      (Expression.parseChunk (Expression.parseUpTo text.length) options) = .ok segments) :
    Expression.parse options text = .ok (.mk (Rest.ofText text).span segments.flatten) := by
  rw [Expression.parse, Expression.parseUpTo]
  exact Except.bind_eq_ok.2 ⟨segments, h, rfl⟩

/-- A text of tokens is read; its value is that of its tokens, and its references are among its
segments. -/
theorem exists_parse_of_readable {ts : List Token} (h : Readable options ts) :
    ∃ e, Expression.parse options (String.ofList (textAll ts)) = .ok e ∧
      (∀ s item, evalExpression s item e = evalSegments s item (ts.map segment)) ∧
      ∀ xs text segment ys, ts = xs ++ .reference text segment :: ys →
        segment.shift (Chars.byteLength (textAll xs)) ∈ e.segments := by
  have hlength : (textAll ts).length ≤ (String.ofList (textAll ts)).length := by simp
  obtain ⟨segments, hsegments, hvalue, hmem⟩ := exists_of_readable h 0 [] 0 hlength
  refine ⟨.mk _ segments.flatten, parse_eq_ok ?_, fun s item => ?_, ?_⟩
  · rw [Rest.chunks, Rest.ofText, String.toList_ofList]
    exact hsegments
  · rw [evalExpression, hvalue]
    simp only [List.reverse_nil, String.ofList_nil, String.empty_append, bind_pure]
  · intro xs ref segment ys hts
    have := hmem xs ref segment ys hts
    rwa [Nat.zero_add] at this

/-- A text of tokens is read, and its value is that of its tokens. -/
theorem parse_of_readable {ts : List Token} (h : Readable options ts) :
    ∃ e, Expression.parse options (String.ofList (textAll ts)) = .ok e ∧
      ∀ s item, evalExpression s item e = evalSegments s item (ts.map segment) := by
  obtain ⟨e, he, hvalue, -⟩ := exists_parse_of_readable h
  exact ⟨e, he, hvalue⟩

/-- The references of a text of tokens are segments at their places. -/
theorem mem_segments_of_readable {xs ys : List Token} {ref : List Char} {segment : Segment}
    (h : Readable options (xs ++ .reference ref segment :: ys)) {text : String}
    (htext : text.toList = textAll (xs ++ .reference ref segment :: ys)) {e : Expression}
    (he : Expression.parse options text = .ok e) :
    segment.shift (Chars.byteLength (textAll xs)) ∈ e.segments := by
  obtain ⟨e', he', -, hmem⟩ := exists_parse_of_readable h
  rw [← htext, String.ofList_toList, he] at he'
  rw [Except.ok.inj he']
  exact hmem xs ref segment ys rfl

/-- The value of a text of tokens that is read. -/
theorem evalExpression_eq {ts : List Token} (h : Readable options ts) {text : String}
    (htext : text.toList = textAll ts) {e : Expression}
    (he : Expression.parse options text = .ok e) (s : Setting) (item : Option Item) :
    evalExpression s item e = evalSegments s item (ts.map segment) := by
  obtain ⟨e', he', hvalue⟩ := parse_of_readable h
  rw [← htext, String.ofList_toList, he] at he'
  rw [Except.ok.inj he']
  exact hvalue s item

/-! ## The tokens of a text -/

theorem noParenthesis_of_flush {read : Expression.Reader} {start : Nat} {run : List Char}
    {segments : List (List Segment)}
    (h : (Chunk.flush start run).mapM (Expression.parseChunk read options) = .ok segments)
    (hplain : ∀ s, Segment.literal s ∈ segments.flatten →
      '(' ∉ s.text.toList ∧ ')' ∉ s.text.toList) :
    '(' ∉ run ∧ ')' ∉ run := by
  cases run with
  | nil => simp
  | cons c run =>
    obtain ⟨first, more, hfirst, -, rfl⟩ := Except.mapM_cons_eq_ok.1 h
    obtain rfl := Except.ok.inj hfirst
    have := hplain ⟨start, String.ofList (c :: run).reverse⟩ (by simp)
    rwa [String.toList_ofList, List.mem_reverse, List.mem_reverse] at this

/-- A reference that is read gives a token, in whatever place and at whatever depth it is read; what
it reads as is the segment of the token at its place. -/
theorem exists_fits {pos depth : Nat} {ref : List Char} {chunk : Chunk} {segments : List Segment}
    (hreads : Chunk.Reads options pos ref chunk) (hn : ref.length ≤ depth)
    (h : Expression.parseChunk (Expression.parseUpTo depth) options chunk = .ok segments) :
    ∃ segment, (reference ref segment).Fits options ∧ segments = [segment.shift pos] := by
  obtain ⟨chunk, hzero, rfl⟩ := hreads.exists_shift
  have hinside := hzero.inside_length_lt
  have hmoved := Expression.parseChunk_shift pos options hinside
    (show chunk.inside.length < depth by omega)
  rw [h] at hmoved
  cases hchunk : Expression.parseChunk (Expression.parseUpTo ref.length) options chunk with
  | error m =>
    rw [hchunk] at hmoved
    cases hmoved
  | ok segments =>
    obtain ⟨segment, rfl, -⟩ := hzero.exists_segment hchunk
    rw [hchunk] at hmoved
    exact ⟨segment, ⟨chunk, hzero, hchunk⟩, Except.ok.inj hmoved⟩

/-- A text that is read with no parenthesis in plain text consists of tokens. The plain text before
it, `run` in reverse, has none either. -/
theorem exists_tokens_from {depth : Nat} (start : Nat) (run : List Char) (pos : Nat)
    (cs : List Char) :
    ∀ segments, cs.length ≤ depth →
      (Chunk.chunksFrom options start run 0 pos cs).mapM
        (Expression.parseChunk (Expression.parseUpTo depth) options) = .ok segments →
      (∀ s, Segment.literal s ∈ segments.flatten → '(' ∉ s.text.toList ∧ ')' ∉ s.text.toList) →
      ('(' ∉ run ∧ ')' ∉ run) ∧
        ∃ ts, textAll ts = cs ∧ (∀ t ∈ ts, t.Fits options) ∧ ∀ t ∈ ts, t.NoParenthesis := by
  refine Chunk.chunksFrom_induction options (motive := fun start run pos cs chunks =>
    ∀ segments, cs.length ≤ depth →
      chunks.mapM (Expression.parseChunk (Expression.parseUpTo depth) options) = .ok segments →
      (∀ s, Segment.literal s ∈ segments.flatten → '(' ∉ s.text.toList ∧ ')' ∉ s.text.toList) →
      ('(' ∉ run ∧ ')' ∉ run) ∧
        ∃ ts, textAll ts = cs ∧ (∀ t ∈ ts, t.Fits options) ∧ ∀ t ∈ ts, t.NoParenthesis)
    ?nil ?plain ?reference ?copied ?unclosed start run pos cs
  case nil =>
    intro start run pos segments _ h hplain
    exact ⟨noParenthesis_of_flush h hplain, [], rfl, by simp, by simp⟩
  case plain =>
    intro start run pos c cs chunks _ ih segments hn h hplain
    obtain ⟨⟨hopen, hclose⟩, ts, hts, hfits, hchars⟩ := ih segments (Nat.le_of_succ_le hn) h hplain
    rw [List.mem_cons, not_or] at hopen hclose
    refine ⟨⟨hopen.2, hclose.2⟩, .char c :: ts, ?_, ?_, ?_⟩
    · rw [textAll_cons, hts]
      rfl
    · exact List.forall_mem_cons.2 ⟨trivial, hfits⟩
    · exact List.forall_mem_cons.2 ⟨⟨Ne.symm hopen.1, Ne.symm hclose.1⟩, hchars⟩
  case reference =>
    intro start run pos ref rest chunk chunks hreads ih segments hn h hplain
    obtain ⟨flushed, more, hflushed, hmore, rfl⟩ := Except.mapM_append_eq_ok.1 h
    obtain ⟨first, last, hfirst, hlast, rfl⟩ := Except.mapM_cons_eq_ok.1 hmore
    rw [List.length_append] at hn
    rw [List.flatten_append, List.flatten_cons] at hplain
    obtain ⟨-, ts, hts, hfits, hchars⟩ := ih last (by omega) hlast fun s hs =>
      hplain s (by simp [hs])
    have hrun := noParenthesis_of_flush hflushed fun s hs => hplain s (by simp [hs])
    obtain ⟨segment, hsegment, -⟩ := exists_fits hreads (by omega) hfirst
    refine ⟨hrun, .reference ref segment :: ts, by rw [textAll_cons, hts]; rfl, ?_, ?_⟩
    · exact List.forall_mem_cons.2 ⟨hsegment, hfits⟩
    · exact List.forall_mem_cons.2 ⟨trivial, hchars⟩
  case copied =>
    intro start run pos body rest chunks _ _ _ _ segments _ h hplain
    obtain ⟨flushed, more, hflushed, -, rfl⟩ := Except.mapM_append_eq_ok.1 h
    rw [List.flatten_append] at hplain
    have hrun := noParenthesis_of_flush hflushed fun s hs => hplain s (by simp [hs])
    exact absurd List.mem_cons_self hrun.1
  case unclosed =>
    intro start run pos c cs _ segments _ h _
    obtain ⟨_, more, -, hmore, -⟩ := Except.mapM_append_eq_ok.1 h
    obtain ⟨_, _, hfail, -⟩ := Except.mapM_cons_eq_ok.1 hmore
    cases hfail

/-- A text that is read with no parenthesis in plain text consists of tokens. -/
theorem exists_tokens {text : String} {e : Expression}
    (h : Expression.parse options text = .ok e)
    (hplain : ∀ s, Segment.literal s ∈ e.segments → '(' ∉ s.text.toList ∧ ')' ∉ s.text.toList) :
    ∃ ts, textAll ts = text.toList ∧ (∀ t ∈ ts, t.Fits options) ∧ ∀ t ∈ ts, t.NoParenthesis := by
  obtain ⟨segments, hsegments, h⟩ := Except.bind_eq_ok.1 h
  obtain rfl := Except.ok.inj h
  have hlength : text.toList.length ≤ text.length := Nat.le_of_eq String.length_toList
  exact (exists_tokens_from 0 [] 0 text.toList segments hlength hsegments hplain).2

/-- A text that is read while no item list is copied as text consists of tokens. -/
theorem exists_readable_from (hoptions : options.items = true ∨ options.metadata = false)
    {depth : Nat} (start : Nat) (run : List Char) (pos : Nat) (cs : List Char) :
    ∀ segments, cs.length ≤ depth →
      (Chunk.chunksFrom options start run 0 pos cs).mapM
        (Expression.parseChunk (Expression.parseUpTo depth) options) = .ok segments →
      ∃ ts, textAll ts = cs ∧ Readable options ts := by
  refine Chunk.chunksFrom_induction options (motive := fun _ _ _ cs chunks =>
    ∀ segments, cs.length ≤ depth →
      chunks.mapM (Expression.parseChunk (Expression.parseUpTo depth) options) = .ok segments →
      ∃ ts, textAll ts = cs ∧ Readable options ts)
    ?nil ?plain ?reference ?copied ?unclosed start run pos cs
  case nil => exact fun _ _ _ _ _ _ => ⟨[], rfl, .nil⟩
  case plain =>
    intro start run pos c cs chunks hfront ih segments hn h
    obtain ⟨ts, rfl, hts⟩ := ih segments (Nat.le_of_succ_le hn) h
    exact ⟨.char c :: ts, rfl, .char (Chunk.front_plain_iff_zero.1 hfront) hts⟩
  case reference =>
    intro start run pos ref rest chunk chunks hreads ih segments hn h
    obtain ⟨_, more, -, hmore, -⟩ := Except.mapM_append_eq_ok.1 h
    obtain ⟨first, last, hfirst, hlast, -⟩ := Except.mapM_cons_eq_ok.1 hmore
    rw [List.length_append] at hn
    obtain ⟨ts, rfl, hts⟩ := ih last (by omega) hlast
    obtain ⟨segment, hsegment, -⟩ := exists_fits hreads (by omega) hfirst
    exact ⟨.reference ref segment :: ts, rfl, .reference hsegment hts⟩
  case copied =>
    intro start run pos body rest chunks hmetadata hitems
    rcases hoptions with h | h
    · rw [h] at hitems
      cases hitems
    · rw [h] at hmetadata
      cases hmetadata
  case unclosed =>
    intro start run pos c cs _ segments _ h
    obtain ⟨_, more, -, hmore, -⟩ := Except.mapM_append_eq_ok.1 h
    obtain ⟨_, _, hfail, -⟩ := Except.mapM_cons_eq_ok.1 hmore
    cases hfail

/-- A text that is read while no item list is copied as text consists of tokens. -/
theorem exists_readable (hoptions : options.items = true ∨ options.metadata = false)
    {text : String} {e : Expression} (h : Expression.parse options text = .ok e) :
    ∃ ts, textAll ts = text.toList ∧ Readable options ts := by
  obtain ⟨segments, hsegments, -⟩ := Except.bind_eq_ok.1 h
  have hlength : text.toList.length ≤ text.length := Nat.le_of_eq String.length_toList
  exact exists_readable_from hoptions 0 [] 0 text.toList segments hlength hsegments

end Token

end BuildExpr
