import BuildExpr.Proofs.Evaluation.Tokens
import BuildExpr.Proofs.Expression.WithoutMetadata

/-!
# The names of tokens

A text that is read consists of tokens that are read without metadata references, and names what
these name (`Token.exists_withoutMetadata`): metadata references become characters, and so does the
frame of an item list that is copied as text. Without metadata references nothing that is plain
becomes part of a reference when more text follows, so tokens of the beginning of a text are the
first tokens of the text (`Token.Readable.exists_append`).
-/

namespace BuildExpr

open TreeNode

/-- What is looked up in some segments. -/
def Segment.mentions (segments : List Segment) : Set Mention :=
  allMentions (segments.map Segment.node)

theorem mentions_expression (e : Expression) :
    (expression e).mentions = Segment.mentions e.segments := by
  rw [mentions_eq]
  ext m
  simp [mention?, children, Segment.mentions]

@[simp] theorem Segment.mentions_append (xs ys : List Segment) :
    mentions (xs ++ ys) = mentions xs ∪ mentions ys := by
  simp [mentions]

theorem Segment.mentions_shift (k : Nat) (s : Segment) : mentions [s.shift k] = mentions [s] := by
  simp [mentions, node_shift, TreeNode.mentions_shift]

namespace Token

/-- What is looked up in some tokens. -/
def mentions (ts : List Token) : Set Mention := Segment.mentions (ts.map segment)

@[simp] theorem mentions_nil : mentions [] = ∅ := by
  simp [mentions, Segment.mentions]

@[simp] theorem mentions_char (c : Char) (ts : List Token) :
    mentions (.char c :: ts) = mentions ts := by
  simp [mentions, Segment.mentions, segment, Segment.node]

@[simp] theorem mentions_reference (text : List Char) (s : Segment) (ts : List Token) :
    mentions (.reference text s :: ts) = Segment.mentions [s] ∪ mentions ts := by
  simp [mentions, Segment.mentions, segment]

@[simp] theorem mentions_append (xs ys : List Token) :
    mentions (xs ++ ys) = mentions xs ∪ mentions ys := by
  simp [mentions]

@[simp] theorem mentions_map_char (cs : List Char) : mentions (cs.map char) = ∅ := by
  induction cs with
  | nil => exact mentions_nil
  | cons c cs ih => rw [List.map_cons, mentions_char, ih]

/-! ## Reading tokens -/

variable {options : Options} {read : Expression.Reader} {start : Nat} {run : List Char}

/-- Plain text names nothing. -/
theorem mentions_of_flush {segments : List (List Segment)}
    (h : (Chunk.flush start run).mapM (Expression.parseChunk read options) = .ok segments) :
    Segment.mentions segments.flatten = ∅ := by
  cases run with
  | nil =>
    rw [Except.mapM_nil_eq_ok.1 h]
    simp [Segment.mentions]
  | cons c run =>
    obtain ⟨first, more, hfirst, hmore, rfl⟩ := Except.mapM_cons_eq_ok.1 h
    obtain rfl := Except.ok.inj hfirst
    rw [Except.mapM_nil_eq_ok.1 hmore]
    simp [Segment.mentions, Segment.node]

/-- A text of tokens names what these name. -/
theorem Readable.mentions_eq {ts : List Token} (h : Readable options ts) {depth pos : Nat}
    (hn : (textAll ts).length ≤ depth) {segments : List (List Segment)}
    (hs : (Chunk.chunksFrom options start run 0 pos (textAll ts)).mapM
      (Expression.parseChunk (Expression.parseUpTo depth) options) = .ok segments) :
    Segment.mentions segments.flatten = mentions ts := by
  induction h generalizing start run pos segments with
  | nil => rw [mentions_of_flush hs, mentions_nil]
  | @char c ts h more ih =>
    have hfront : Chunk.front options ⟨pos, c :: textAll ts⟩ = .plain :=
      Chunk.front_plain_iff_zero.2 h
    rw [textAll_cons, text, List.singleton_append, Chunk.chunksFrom_plain hfront] at hs
    rw [ih (Nat.le_of_succ_le hn) hs, mentions_char]
  | @reference text segment ts h more ih =>
    obtain ⟨chunk, hreads, hchunk⟩ := h
    simp only [textAll_cons, Token.text, List.length_append] at hn
    have hinside := hreads.inside_length_lt
    have hmoved := Expression.parseChunk_shift pos options hinside
      (show chunk.inside.length < depth by omega)
    rw [hchunk] at hmoved
    rw [textAll_cons, Token.text,
      Chunk.chunksFrom_reference (by simpa using hreads.shift pos)] at hs
    obtain ⟨flushed, rest, hflushed, hrest, rfl⟩ := Except.mapM_append_eq_ok.1 hs
    obtain ⟨first, last, hfirst, hlast, rfl⟩ := Except.mapM_cons_eq_ok.1 hrest
    obtain rfl : [segment.shift pos] = first := Except.ok.inj (hmoved.symm.trans hfirst)
    rw [List.flatten_append, Segment.mentions_append, mentions_of_flush hflushed, Set.empty_union,
      List.flatten_cons, Segment.mentions_append, Segment.mentions_shift,
      ih (by omega) hlast, mentions_reference]

/-! ## Tokens without metadata -/

/-- Without metadata references, a text of tokens in front of another is one, but for a parenthesis
at the front of that. -/
theorem Readable.append_of_head (hmetadata : options.metadata = false) {xs ys : List Token}
    (hx : Readable options xs) (hy : Readable options ys) (hhead : (textAll ys).head? ≠ some '(') :
    Readable options (xs ++ ys) := by
  induction hx with
  | nil => exact hy
  | @char c ts h more ih =>
    rw [List.cons_append]
    refine .char ?_ ih
    rw [textAll_append]
    exact Chunk.front_plain_extend hmetadata h hhead
  | reference h more ih => exact .reference h ih

/-- A text that is read at a depth consists of tokens without metadata references that name what the
text names. -/
def Tokenized (depth : Nat) : Prop :=
  ∀ options r e, r.chars.length < depth → Expression.parseUpTo depth options r = .ok e →
    ∃ ts, textAll ts = r.chars ∧ Readable options.withoutMetadata ts ∧
      (expression e).mentions = mentions ts

/-- What consists of tokens without metadata references is read without these. -/
theorem Tokenized.spares {depth : Nat} (h : Tokenized depth) :
    Expression.Spares depth (Expression.parseUpTo depth) := by
  intro options r e hn he
  obtain ⟨ts, hts, hreadable, hmentions⟩ := h options r e hn he
  cases depth with
  | zero => exact absurd hn (Nat.not_lt_zero _)
  | succ depth =>
    have hlength : (textAll ts).length ≤ depth := by
      rw [hts]
      exact Nat.le_of_lt_succ hn
    obtain ⟨segments, hsegments, -, -⟩ := exists_of_readable hreadable r.pos [] r.pos hlength
    have hnames := hreadable.mentions_eq hlength hsegments
    rw [hts] at hsegments
    refine ⟨.mk r.span segments.flatten, ?_, ?_⟩
    · rw [Expression.parseUpTo]
      exact Except.bind_eq_ok.2 ⟨segments, hsegments, rfl⟩
    · rw [hmentions, mentions_expression (.mk r.span segments.flatten)]
      exact hnames.symm

theorem Tokenized.exists_from {depth : Nat} (h : Tokenized depth) (start : Nat) (run : List Char)
    (pos : Nat) (cs : List Char) :
    ∀ segments, cs.length ≤ depth →
      (Chunk.chunksFrom options start run 0 pos cs).mapM
        (Expression.parseChunk (Expression.parseUpTo depth) options) = .ok segments →
      ∃ ts, textAll ts = cs ∧ Readable options.withoutMetadata ts ∧
        Segment.mentions segments.flatten = mentions ts := by
  refine Chunk.chunksFrom_induction options (motive := fun _ _ _ cs chunks =>
    ∀ segments, cs.length ≤ depth →
      chunks.mapM (Expression.parseChunk (Expression.parseUpTo depth) options) = .ok segments →
      ∃ ts, textAll ts = cs ∧ Readable options.withoutMetadata ts ∧
        Segment.mentions segments.flatten = mentions ts)
    ?nil ?plain ?reference ?copied ?unclosed start run pos cs
  case nil =>
    intro start run pos segments _ hs
    exact ⟨[], rfl, .nil, by rw [mentions_of_flush hs, mentions_nil]⟩
  case plain =>
    intro start run pos c cs chunks hfront ih segments hn hs
    obtain ⟨ts, rfl, hts, hmentions⟩ := ih segments (Nat.le_of_succ_le hn) hs
    have hplain := Chunk.front_plain_withoutMetadata (Chunk.front_plain_iff_zero.1 hfront)
    exact ⟨.char c :: ts, rfl, .char hplain hts, by rw [hmentions, mentions_char]⟩
  case reference =>
    intro start run pos ref rest chunk chunks hreads ih segments hn hs
    obtain ⟨flushed, more, hflushed, hmore, rfl⟩ := Except.mapM_append_eq_ok.1 hs
    obtain ⟨first, last, hfirst, hlast, rfl⟩ := Except.mapM_cons_eq_ok.1 hmore
    rw [List.length_append] at hn
    obtain ⟨ts, rfl, hts, hmentions⟩ := ih last (by omega) hlast
    have hinside := hreads.inside_length_lt
    have hflat : Segment.mentions (flushed ++ first :: last).flatten =
        Segment.mentions first ∪ mentions ts := by
      rw [List.flatten_append, Segment.mentions_append, mentions_of_flush hflushed, Set.empty_union,
        List.flatten_cons, Segment.mentions_append, hmentions]
    rcases hreads.withoutMetadata with hwithout | ⟨⟨m, rfl⟩, hchars⟩
    · obtain ⟨first', hfirst', hsame⟩ := h.spares.parseChunk hwithout (by omega) hfirst
      obtain ⟨segment, hfits, rfl⟩ := exists_fits hwithout (by omega) hfirst'
      refine ⟨.reference ref segment :: ts, rfl, .reference hfits hts, ?_⟩
      rw [hflat, Segment.mentions, hsame, ← Segment.mentions, Segment.mentions_shift,
        mentions_reference]
    · obtain rfl := Except.ok.inj hfirst
      refine ⟨ref.map char ++ ts, by simp, hts.chars_append rfl fun c hc => ?_, ?_⟩
      · obtain ⟨hproperty, hitems⟩ := hchars c hc
        exact ⟨fun h => hproperty h.1, fun h => hitems h.1⟩
      · rw [hflat, mentions_append, mentions_map_char]
        simp [Segment.mentions, Segment.node]
  case copied =>
    intro start run pos body rest chunks hmetadata hitems hcloses ih segments hn hs
    obtain ⟨flushed, more, hflushed, hmore, rfl⟩ := Except.mapM_append_eq_ok.1 hs
    obtain ⟨first, last, hfirst, hlast, rfl⟩ := Except.mapM_cons_eq_ok.1 hmore
    obtain ⟨e, he, hfirst⟩ := Except.bind_eq_ok.1 hfirst
    obtain rfl := Except.ok.inj hfirst
    simp only [List.cons_append, List.length_cons, List.length_append] at hn
    obtain ⟨ts, hts, hreadable, hmentions⟩ := ih last (by simp only [List.length_cons]; omega) hlast
    obtain ⟨bs, hbs, hbody, hnames⟩ :=
      h options.withoutMetadata ⟨pos + 2, body⟩ e (show body.length < depth by omega) he
    have hhead : (textAll ts).head? ≠ some '(' := by simp [hts]
    have hinner := hbody.append_of_head rfl hreadable hhead
    refine ⟨.char '@' :: .char '(' :: (bs ++ ts), ?_, .char ?_ (.char ?_ hinner), ?_⟩
    · simp [text, hbs, hts]
    · exact Chunk.front_plain_of_not_requested rfl (by simp)
        (by simp [Options.withoutMetadata, hitems])
    · exact Chunk.front_plain_of_not_requested rfl (by simp) (by simp)
    · rw [List.flatten_append, Segment.mentions_append, mentions_of_flush hflushed, Set.empty_union,
        List.flatten_cons, Segment.mentions_append, hmentions, ← mentions_expression, hnames]
      simp
  case unclosed =>
    intro start run pos c cs _ segments _ hs
    obtain ⟨_, more, -, hmore, -⟩ := Except.mapM_append_eq_ok.1 hs
    obtain ⟨_, _, hfail, -⟩ := Except.mapM_cons_eq_ok.1 hmore
    cases hfail

theorem Tokenized.succ {depth : Nat} (h : Tokenized depth) : Tokenized (depth + 1) := by
  intro options r e hn he
  rw [Expression.parseUpTo] at he
  obtain ⟨segments, hsegments, he⟩ := Except.bind_eq_ok.1 he
  obtain rfl := Except.ok.inj he
  obtain ⟨ts, hts, hreadable, hmentions⟩ :=
    h.exists_from r.pos [] r.pos r.chars segments (Nat.le_of_lt_succ hn) hsegments
  exact ⟨ts, hts, hreadable, (mentions_expression _).trans hmentions⟩

theorem tokenized (depth : Nat) : Tokenized depth := by
  induction depth with
  | zero => exact fun _ _ _ hn => absurd hn (Nat.not_lt_zero _)
  | succ depth ih => exact ih.succ

/-- A text that is read consists of tokens without metadata references that name what it names. -/
theorem exists_withoutMetadata {text : String} {e : Expression}
    (he : Expression.parse options text = .ok e) :
    ∃ ts, textAll ts = text.toList ∧ Readable options.withoutMetadata ts ∧
      (expression e).mentions = mentions ts := by
  refine tokenized (text.length + 1) options (Rest.ofText text) e ?_ he
  show text.toList.length < text.length + 1
  rw [String.length_toList]
  exact Nat.lt_succ_self _

/-! ## Tokens of the front of a text -/

/-- Tokens of a text that begins plainly begin with its first character. -/
theorem Readable.exists_char {ts : List Token} (hts : Readable options ts) {c : Char}
    {cs : List Char} (htext : textAll ts = c :: cs)
    (hplain : Chunk.front options ⟨0, c :: cs⟩ = .plain) :
    ∃ ts', ts = .char c :: ts' ∧ Readable options ts' ∧ textAll ts' = cs := by
  cases hts with
  | nil => cases htext
  | @char d ts' h more =>
    obtain ⟨rfl, rfl⟩ := List.cons.inj htext
    exact ⟨ts', rfl, more, rfl⟩
  | @reference text segment ts' h more =>
    obtain ⟨chunk, hreads, -⟩ := h
    have hfront := Chunk.front_of_reads hreads (textAll ts')
    rw [show text ++ textAll ts' = c :: cs from htext, hplain] at hfront
    cases hfront

/-- Tokens of a text that begins with a reference begin with that. -/
theorem Readable.exists_reference {ts : List Token} (hts : Readable options ts) {text : List Char}
    {segment : Segment} (hfits : Fits options (.reference text segment)) {rest : List Char}
    (htext : textAll ts = text ++ rest) :
    ∃ ts', ts = .reference text segment :: ts' ∧ Readable options ts' ∧ textAll ts' = rest := by
  obtain ⟨chunk, hreads, hchunk⟩ := hfits
  have hfront := Chunk.front_of_reads hreads rest
  rw [← htext] at hfront
  cases hts with
  | nil => cases hfront
  | @char c ts' h more =>
    rw [show textAll (.char c :: ts') = c :: textAll ts' from rfl, h] at hfront
    cases hfront
  | @reference text' segment' ts' h more =>
    obtain ⟨chunk', hreads', hchunk'⟩ := h
    rw [textAll_cons, Token.text] at htext hfront
    rw [Chunk.front_of_reads hreads' (textAll ts')] at hfront
    obtain ⟨rfl, hlength⟩ := Chunk.Front.reference.inj hfront
    obtain ⟨rfl, hrest⟩ := List.append_inj htext hlength
    obtain ⟨rfl, -⟩ := List.cons.inj (Except.ok.inj (hchunk'.symm.trans hchunk))
    exact ⟨ts', rfl, more, hrest⟩

/-- Tokens of the beginning of a text are the first tokens of the text. -/
theorem Readable.exists_append (hmetadata : options.metadata = false) {xs ts : List Token}
    (hx : Readable options xs) (hts : Readable options ts) {rest : List Char}
    (htext : textAll ts = textAll xs ++ rest) (hrest : rest.head? ≠ some '(') :
    ∃ ys, ts = xs ++ ys ∧ Readable options ys ∧ textAll ys = rest := by
  induction hx generalizing ts with
  | nil => exact ⟨ts, rfl, hts, htext⟩
  | @char c xs h more ih =>
    have hplain := Chunk.front_plain_extend hmetadata h hrest
    obtain ⟨ts', rfl, hts', htext'⟩ := hts.exists_char htext hplain
    obtain ⟨ys, rfl, hys, hrest'⟩ := ih hts' htext'
    exact ⟨ys, rfl, hys, hrest'⟩
  | @reference text segment xs h more ih =>
    rw [textAll_cons, Token.text, List.append_assoc] at htext
    obtain ⟨ts', rfl, hts', htext'⟩ := hts.exists_reference h htext
    obtain ⟨ys, rfl, hys, hrest'⟩ := ih hts' htext'
    exact ⟨ys, rfl, hys, hrest'⟩

end Token

end BuildExpr
