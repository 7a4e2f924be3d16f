import BuildExpr.Proofs.Evaluation.Tokens
import BuildExpr.Proofs.Expression.Extend
import BuildExpr.Proofs.Expression.ListText
import BuildExpr.Proofs.Expression.Reads
import BuildExpr.Proofs.Source.Closing
import BuildExpr.Proofs.Text.LetterCase

/-!
# References and calls as texts

A text that is read as a lone property reference is the text of a reference (`exists_body`), and the
text of a reference is read as its body is (`parse_reference`). A call of a static function is read
as the arguments in its parentheses (`parseProperty_call`), and a text without parentheses as
itself (`parseLevel_plain`).
-/

namespace BuildExpr

namespace Chars

/-- Brackets with neither quotes nor brackets between them. -/
theorem closes_of_plain_brackets {opener closer : Char} (hne : closer ≠ opener)
    (hcloser : isQuote closer = false) {inside : List Char}
    (h : ∀ c ∈ inside, isQuote c = false ∧ c ≠ opener ∧ c ≠ closer) :
    Closes opener closer { depth := 1 } inside := by
  intro after
  induction inside with
  | nil => simp [closing, Nesting.step, hcloser, hne]
  | cons c inside ih =>
    obtain ⟨⟨hquote, hopen, hclose⟩, hmore⟩ := List.forall_mem_cons.1 h
    have hstep : Nesting.step opener closer { depth := 1 } c = { depth := 1 } := by
      simp [Nesting.step, hquote, hopen, hclose]
    rw [List.cons_append, closing, hstep, if_neg (by simp), ih hmore]
    rfl

end Chars

/-- A group at the front of a text. -/
theorem Rest.group?_of_closes {opener closer : Char} {inside : List Char}
    (h : Chars.Closes opener closer { depth := 1 } inside) (pos : Nat) (after : List Char) :
    (⟨pos, opener :: (inside ++ closer :: after)⟩ : Rest).group? opener closer =
      some (⟨pos + opener.utf8Size, inside⟩,
        ⟨pos + opener.utf8Size + Chars.byteLength inside + closer.utf8Size, after⟩) := by
  rw [group?]
  simp only [h.closing, Option.map_some]

/-- A member with an argument list is read to the end of the list. -/
theorem Rest.memberTail_of_closes {inside : List Char}
    (h : Chars.Closes '(' ')' { depth := 1 } inside) (start : Rest) (name : Span) (pos : Nat)
    (after : List Char) :
    ∃ last, memberTail start name ⟨pos, '(' :: (inside ++ ')' :: after)⟩ =
      (.method (start.upTo ⟨last, after⟩) name ⟨pos + 1, inside⟩, ⟨last, after⟩) := by
  refine ⟨pos + 1 + Chars.byteLength inside + 1, ?_⟩
  have hpeek : ((⟨pos, '(' :: (inside ++ ')' :: after)⟩ : Rest).peek? == some '(') = true := rfl
  rw [memberTail, if_pos hpeek, group?_of_closes h]
  rfl

/-- Nothing is taken off a text between two characters that are not blank. -/
theorem Rest.trimmed_eq_self {c d : Char} (hc : Chars.isBlank c = false)
    (hd : Chars.isBlank d = false) (pos : Nat) (cs : List Char) :
    (⟨pos, c :: cs ++ [d]⟩ : Rest).trimmed = ⟨pos, c :: cs ++ [d]⟩ := by
  have hblanks : (c :: cs ++ [d]).takeWhile Chars.isBlank = [] := by simp [hc]
  rw [trimmed, hblanks, Chars.trim_eq_self hc hd, Chars.byteLength_nil, Nat.add_zero]

/-- A quoted run at the front of a text. -/
theorem Rest.quoted?_of_not_mem {q : Char} {value : List Char} (h : q ∉ value) (pos : Nat)
    (after : List Char) :
    (⟨pos, q :: (value ++ q :: after)⟩ : Rest).quoted? =
      some (⟨pos + q.utf8Size, value⟩,
        ⟨pos + q.utf8Size + Chars.byteLength value + q.utf8Size, after⟩) := by
  rw [quoted?]
  simp only [Chars.cut?_append_of_not_mem h, Option.map_some]

/-- A text that is a quoted run. -/
theorem Rest.quotedWhole?_of_not_mem {q : Char} (hq : isQuote q = true) {value : List Char}
    (h : q ∉ value) (pos : Nat) :
    (⟨pos, q :: value ++ [q]⟩ : Rest).quotedWhole? = some ⟨pos + q.utf8Size, value⟩ := by
  have hquoted := quoted?_of_not_mem h pos []
  rw [← List.cons_append] at hquoted
  have hpeek : (⟨pos, q :: value ++ [q]⟩ : Rest).peek?.any isQuote = true := hq
  rw [quotedWhole?, if_pos hpeek, hquoted]
  rfl

namespace Expression

/-- A text that begins with another has the same characters up to there, but for letters. -/
theorem mem_take_of_startsWithIgnoreCase {cs : List Char} {start : String}
    (h : startsWithIgnoreCase cs start = true) {d : Char} (hd : d.isAlpha = false) :
    d ∈ cs.take start.length ↔ d ∈ start.toList := by
  have hfold := Text.eqIgnoreCase_iff.1 h
  rw [String.toList_ofList] at hfold
  have hmem {xs ys : List Char} (hxs : xs.map Char.toLower = ys.map Char.toLower) (hx : d ∈ xs) :
      d ∈ ys := by
    have hlower : d.toLower ∈ ys.map Char.toLower := hxs ▸ List.mem_map_of_mem hx
    obtain ⟨c, hc, hcd⟩ := List.mem_map.1 hlower
    rwa [Chars.eq_of_toLower_eq hd hcd] at hc
  exact ⟨hmem hfold, hmem hfold.symm⟩

variable {options : Options} (read : Reader)

/-! ## Texts without references -/

/-- The segments of plain text. -/
def plainSegments (pos : Nat) : List Char → List Segment
  | [] => []
  | cs => [.literal ⟨pos, String.ofList cs⟩]

theorem parseLevel_plain (options : Options) {cs : List Char} (h : '(' ∉ cs) (pos : Nat) :
    parseLevel read options ⟨pos, cs⟩ =
      .ok (.mk ⟨pos, String.ofList cs⟩ (plainSegments pos cs)) := by
  have hfront : ∀ pos d ds, d :: ds <:+ cs → Chunk.front options ⟨pos, d :: ds⟩ = .plain := by
    intro pos d ds hds
    refine Chunk.front_plain_of_head fun hhead => h ?_
    exact hds.subset (List.mem_cons_of_mem d (List.mem_of_mem_head? hhead))
  rw [parseLevel, Rest.chunks, Chunk.chunksFrom_of_plain hfront, List.append_nil]
  cases cs with
  | nil => rfl
  | cons c cs =>
    cases hrun : (c :: cs).reverse with
    | nil => exact absurd (List.reverse_eq_nil_iff.1 hrun) (by simp)
    | cons d ds =>
      have hback : (d :: ds).reverse = c :: cs := by rw [← hrun, List.reverse_reverse]
      rw [Chunk.flush, hback]
      · rfl
      · simp

/-! ## References -/

/-- A property reference as text. -/
def referenceText (body : List Char) : List Char := '$' :: '(' :: body ++ [')']

/-- The tree of a lone property reference. -/
def referenceTree (pos : Nat) (body : List Char) (p : Property) : Expression :=
  .mk ⟨pos, String.ofList (referenceText body)⟩ [.property p]

theorem parseLevel_reference (hproperties : options.properties = true) {body : List Char}
    (hbody : Chars.Closes '(' ')' { depth := 1 } body) (pos : Nat) :
    parseLevel read options ⟨pos, referenceText body⟩ =
      (parseProperty read options ⟨pos, String.ofList (referenceText body)⟩
        ⟨pos + 2, body⟩).map (referenceTree pos body) := by
  have hchunks : (⟨pos, referenceText body⟩ : Rest).chunks options =
      [.property ⟨pos, String.ofList (referenceText body)⟩ ⟨pos + 2, body⟩] := by
    have h : Chunk.chunksFrom options pos [] 0 pos (referenceText body ++ []) =
        [.property ⟨pos, String.ofList (referenceText body)⟩ ⟨pos + 2, body⟩] :=
      Chunk.chunksFrom_reference (.property hproperties hbody) []
    rw [List.append_nil] at h
    exact h
  rw [parseLevel, hchunks, List.mapM_cons, parseChunk]
  cases parseProperty read options ⟨pos, String.ofList (referenceText body)⟩ ⟨pos + 2, body⟩ <;> rfl

theorem parse_reference (hproperties : options.properties = true) {body : List Char}
    (hbody : Chars.Closes '(' ')' { depth := 1 } body) :
    parse options (String.ofList (referenceText body)) =
      (parseProperty (parseUpTo (referenceText body).length) options
        ⟨0, String.ofList (referenceText body)⟩ ⟨2, body⟩).map (referenceTree 0 body) := by
  rw [parse, Rest.ofText, String.toList_ofList, String.length_ofList]
  exact parseLevel_reference _ hproperties hbody 0

theorem flatten_flush {options : Options} {start : Nat} {run : List Char}
    {segments : List (List Segment)}
    (h : (Chunk.flush start run).mapM (parseChunk read options) = .ok segments) :
    (run = [] ∧ segments.flatten = []) ∨ ∃ span, segments.flatten = [.literal span] := by
  cases run with
  | nil =>
    obtain rfl := Except.mapM_nil_eq_ok.1 h
    exact .inl ⟨rfl, rfl⟩
  | cons c run =>
    obtain ⟨first, more, hfirst, hmore, rfl⟩ := Except.mapM_cons_eq_ok.1 h
    obtain rfl := Except.ok.inj hfirst
    obtain rfl := Except.mapM_nil_eq_ok.1 hmore
    exact .inr ⟨_, rfl⟩

/-- How little text there is to segments: none of it to none, and that of a reference to a lone
property reference. `run` is the plain text in front. -/
structure Lone (run cs : List Char) (segments : List Segment) : Prop where
  nothing : segments = [] → run = [] ∧ cs = []
  reference : ∀ p, segments = [.property p] → run = [] ∧
    ∃ body, cs = referenceText body ∧ Chars.Closes '(' ')' { depth := 1 } body

theorem Lone.of_literal (run cs : List Char) (span : Span) (segments : List Segment) :
    Lone run cs (.literal span :: segments) :=
  ⟨fun h => (by cases h), fun p h => (by cases h)⟩

theorem lone_chunksFrom (start : Nat) (run : List Char) (pos : Nat) (cs : List Char) :
    ∀ segments, (Chunk.chunksFrom options start run 0 pos cs).mapM (parseChunk read options) =
      .ok segments → Lone run cs segments.flatten := by
  refine Chunk.chunksFrom_induction options (motive := fun _ run _ cs chunks =>
    ∀ segments, chunks.mapM (parseChunk read options) = .ok segments →
      Lone run cs segments.flatten) ?nil ?plain ?reference ?copied ?unclosed start run pos cs
  case nil =>
    intro start run pos segments h
    rcases flatten_flush read h with ⟨rfl, hnone⟩ | ⟨span, hone⟩
    · rw [hnone]
      exact ⟨fun _ => ⟨rfl, rfl⟩, fun p hp => by cases hp⟩
    · rw [hone]
      exact .of_literal _ _ _ _
  case plain =>
    intro start run pos c cs chunks _ ih segments h
    exact ⟨fun hs => absurd ((ih segments h).nothing hs).1 (List.cons_ne_nil c run),
      fun p hp => absurd ((ih segments h).reference p hp).1 (List.cons_ne_nil c run)⟩
  case reference =>
    intro start run pos ref rest chunk chunks hreads ih segments h
    obtain ⟨flushed, more, hflushed, hmore, rfl⟩ := Except.mapM_append_eq_ok.1 h
    obtain ⟨first, last, hfirst, hlast, rfl⟩ := Except.mapM_cons_eq_ok.1 hmore
    obtain ⟨segment, rfl, -⟩ := hreads.exists_segment hfirst
    rw [List.flatten_append, List.flatten_cons, List.singleton_append]
    rcases flatten_flush read hflushed with ⟨rfl, hnone⟩ | ⟨span, hone⟩
    · rw [hnone, List.nil_append]
      refine ⟨fun hs => (by cases hs), fun p hp => ⟨rfl, ?_⟩⟩
      obtain ⟨rfl, hrest⟩ := List.cons.inj hp
      obtain ⟨-, rfl⟩ := (ih last hlast).nothing hrest
      rw [List.append_nil]
      cases hreads with
      | property requested closes => exact ⟨_, rfl, closes⟩
      | items requested closes =>
        obtain ⟨list, -, hs⟩ := Except.bind_eq_ok.1 hfirst
        cases hs
      | metadata requested plain read => cases hfirst
    · rw [hone]
      exact .of_literal _ _ _ _
  case copied =>
    intro start run pos body rest chunks _ _ _ _ segments h
    obtain ⟨flushed, more, hflushed, -, rfl⟩ := Except.mapM_append_eq_ok.1 h
    rcases flatten_flush read hflushed with ⟨hrun, -⟩ | ⟨span, hone⟩
    · exact absurd hrun (List.cons_ne_nil _ _)
    · rw [List.flatten_append, hone]
      exact .of_literal _ _ _ _
  case unclosed =>
    intro start run pos c cs _ segments h
    obtain ⟨_, more, -, hmore, -⟩ := Except.mapM_append_eq_ok.1 h
    obtain ⟨_, _, hfail, -⟩ := Except.mapM_cons_eq_ok.1 hmore
    cases hfail

/-- A text that is read as a lone property reference is the text of one. -/
theorem exists_body {text : String} {e : Expression} {p : Property}
    (h : parse options text = .ok e) (hp : e.singleProperty? = some p) :
    ∃ body, text = String.ofList (referenceText body) ∧
      Chars.Closes '(' ')' { depth := 1 } body := by
  obtain ⟨segments, hsegments, he⟩ := Except.bind_eq_ok.1 h
  obtain rfl := Except.ok.inj he
  obtain ⟨-, body, hbody, hcloses⟩ :=
    (lone_chunksFrom _ 0 [] 0 text.toList segments hsegments).reference p (eq_of_singleProperty? hp)
  exact ⟨body, by rw [← hbody, String.ofList_toList], hcloses⟩

end Expression

/-! ## Names of properties -/

/-- A name that stands in a reference as it is: it closes the parenthesis before it, is not blank,
and has nothing that makes the reference a key of the registry or a chain of members. -/
structure IsPropertyName (name : String) : Prop where
  closes : Chars.Closes '(' ')' { depth := 1 } name.toList
  unmarked : Expression.startsWithIgnoreCase name.toList Expression.registryMark = false
  memberless : name.toList.any Expression.beginsMember = false
  pathless : name.toList.contains '\\' = false
  filled : Text.isBlank name = false

namespace IsPropertyName

variable {name : String}

theorem parseProperty (h : IsPropertyName name) (read : Expression.Reader) (options : Options)
    (ref : Span) (pos : Nat) :
    Expression.parseProperty read options ref ⟨pos, name.toList⟩ =
      .ok (.named ref ⟨pos, name⟩) := by
  have htype : (⟨pos, name.toList⟩ : Rest).trimmed.peek? ≠ some '[' := by
    intro hpeek
    obtain ⟨before, after, hname, -⟩ := Rest.within_trimmed ⟨pos, name.toList⟩
    have hmem : '[' ∈ (⟨pos, name.toList⟩ : Rest).chars := by
      rw [hname]
      simp [List.mem_of_head? hpeek]
    exact absurd rfl (List.any_eq_false.1 h.memberless '[' hmem)
  have hnamed : Expression.ReadsProperty read options ref ⟨pos, name.toList⟩
      (.named ref (⟨pos, name.toList⟩ : Rest).span) :=
    .named h.unmarked htype h.pathless h.memberless
  rw [Rest.span, String.ofList_toList] at hnamed
  exact Expression.parseProperty_eq_ok.2 hnamed

/-- A reference to a property by its name is read as such. -/
theorem parse (h : IsPropertyName name) {options : Options}
    (hproperties : options.properties = true) :
    Expression.parse options ("$(" ++ name ++ ")") =
      .ok (Expression.referenceTree 0 name.toList
        (.named ⟨0, String.ofList (Expression.referenceText name.toList)⟩ ⟨2, name⟩)) := by
  have htext : "$(" ++ name ++ ")" = String.ofList (Expression.referenceText name.toList) := by
    refine String.toList_injective ?_
    simp [Expression.referenceText]
  rw [htext, Expression.parse_reference hproperties h.closes, h.parseProperty, Except.map]

end IsPropertyName

namespace Expression

variable {options : Options} (read : Reader)

/-! ## Calls of static functions -/

/-- Arguments are read piece by piece. -/
theorem parseArguments_of_pieces (options : Options) (ref : Span) {inside : Rest}
    {pieces : List Rest} (hfilled : inside.trimmed.isEmpty = false)
    (hpieces : inside.splitArguments = some pieces) :
    parseArguments read options ref inside = pieces.mapM (parseArgument read options) := by
  rw [parseArguments, hfilled, if_neg Bool.false_ne_true, hpieces]

/-- A quoted argument is what its inside is read as, whatever blanks stand in front of it. -/
theorem parseArgument_quoted (options : Options) {ws value : List Char} {q : Char}
    (hws : Chars.Blank ws) (hq : isQuote q = true) (hvalue : q ∉ value) (pos : Nat) :
    ∃ start, parseArgument read options ⟨pos, ws ++ (q :: value ++ [q])⟩ =
      (read (argumentOptions options) ⟨start, value⟩).map .quoted := by
  have hblank : Chars.isBlank q = false := by
    simp only [isQuote, Bool.or_eq_true, beq_iff_eq] at hq
    obtain (rfl | rfl) | rfl := hq <;> decide
  have htrim : Chars.trim (ws ++ (q :: value ++ [q])) = q :: value ++ [q] := by
    have hends := Chars.trim_append hws Chars.Blank.nil (q :: value ++ [q])
    rw [List.append_nil] at hends
    rw [hends, Chars.trim_eq_self hblank hblank]
  obtain ⟨start, htrimmed⟩ : ∃ start, (⟨pos, ws ++ (q :: value ++ [q])⟩ : Rest).trimmed =
      ⟨start, q :: value ++ [q]⟩ := ⟨_, by rw [Rest.trimmed, htrim]⟩
  have hwhole : (⟨pos, ws ++ (q :: value ++ [q])⟩ : Rest).trimmed.quotedWhole? =
      some ⟨start + q.utf8Size, value⟩ := by
    rw [htrimmed, Rest.quotedWhole?_of_not_mem hq hvalue]
  refine ⟨start + q.utf8Size, ?_⟩
  rw [parseArgument_of_whole hwhole]
  cases read (argumentOptions options) ⟨start + q.utf8Size, value⟩ <;> rfl

/-- The name of a type as it may be written in brackets. -/
structure IsTypeName (type : List Char) : Prop where
  filled : type ≠ []
  trimmed : Chars.trim type = type
  plain : ∀ c ∈ type, isQuote c = false ∧ c ∉ ['(', ')', '[', ']']

/-- A call of a static function as text. -/
def callText (type member inside : List Char) : List Char :=
  '[' :: (type ++ ']' :: ':' :: ':' :: (member ++ '(' :: (inside ++ [')'])))

theorem startsWithIgnoreCase_callText (type member inside : List Char) :
    startsWithIgnoreCase (callText type member inside) registryMark = false := by
  refine beq_eq_false_iff_ne.2 fun hfold => ?_
  have hlength : registryMark.length = 9 := rfl
  have hhead := congrArg (fun s : String => s.toList.head?) hfold
  rw [hlength] at hhead
  simp [Text.foldAscii, callText, registryMark] at hhead

theorem trimmed_callText (pos : Nat) (type member inside : List Char) :
    (⟨pos, callText type member inside⟩ : Rest).trimmed = ⟨pos, callText type member inside⟩ := by
  have htext : callText type member inside =
      '[' :: (type ++ ']' :: ':' :: ':' :: (member ++ '(' :: inside)) ++ [')'] := by
    simp [callText]
  rw [htext]
  exact Rest.trimmed_eq_self rfl rfl _ _

/-- A call of a static function is read as the arguments in its parentheses are, which begin at some
place that depends on the call alone. -/
theorem parseProperty_call (options : Options) (ref : Span) (pos : Nat)
    {type member inside : List Char} (htype : IsTypeName type)
    (hmember : Chars.name? false member = some (member, []))
    (hinside : Chars.Closes '(' ')' { depth := 1 } inside) :
    ∃ (start : Nat) (typeName method name : Span), typeName.text = String.ofList type ∧
      name.text = String.ofList member ∧ ∀ args,
        parseArguments read options ref ⟨start, inside⟩ = .ok args →
        parseProperty read options ref ⟨pos, callText type member inside⟩ =
          .ok (.chain ref (.type typeName) [.method method name args]) := by
  have hbrackets : Chars.Closes '[' ']' { depth := 1 } type := by
    refine Chars.closes_of_plain_brackets (by decide) (by decide) fun c hc => ?_
    obtain ⟨hquote, hc⟩ := htype.plain c hc
    simp only [List.mem_cons, not_or] at hc
    exact ⟨hquote, hc.2.2.1, hc.2.2.2.1⟩
  have hgroup := Rest.group?_of_closes hbrackets pos
    (':' :: ':' :: (member ++ '(' :: (inside ++ [')'])))
  have hname (start : Nat) : (⟨start, member ++ '(' :: (inside ++ [')'])⟩ : Rest).name? false =
      some (⟨start, String.ofList member⟩,
        ⟨start + Chars.byteLength member, '(' :: (inside ++ [')'])⟩) := by
    rw [Rest.name?, Chars.name?_append_stop (Chars.stopsName_parenthesis _) hmember,
      Option.map_some]
  have hblanks (start : Nat) := Rest.skipBlanks_of_name? (hname start)
  -- the text from the two colons on, which begins behind the type in its brackets
  obtain ⟨colons, hcolons⟩ : ∃ colons : Rest, colons =
      ⟨pos + '['.utf8Size + Chars.byteLength type + ']'.utf8Size,
        ':' :: ':' :: (member ++ '(' :: (inside ++ [')']))⟩ := ⟨_, rfl⟩
  have hskip : colons.skipBlanks = colons := by rw [hcolons]; rfl
  have hdrop : colons.drop 2 = ⟨colons.pos + 2, member ++ '(' :: (inside ++ [')'])⟩ := by
    rw [hcolons]; rfl
  have hnamed : (colons.skipBlanks.drop 2).skipBlanks.name? false =
      some (⟨colons.pos + 2, String.ofList member⟩,
        ⟨colons.pos + 2 + Chars.byteLength member, '(' :: (inside ++ [')'])⟩) := by
    rw [hskip, hdrop, hblanks, hname]
  rw [← hcolons] at hgroup
  obtain ⟨last, htail⟩ := Rest.memberTail_of_closes hinside colons
    ⟨colons.pos + 2, String.ofList member⟩ (colons.pos + 2 + Chars.byteLength member) []
  refine ⟨colons.pos + 2 + Chars.byteLength member + 1,
    (⟨pos + '['.utf8Size, type⟩ : Rest).trimmed.span, colons.upTo ⟨last, []⟩,
    ⟨colons.pos + 2, String.ofList member⟩, congrArg String.ofList htype.trimmed, rfl,
    fun args hargs => ?_⟩
  refine parseProperty_eq_ok.2 (.static (startsWithIgnoreCase_callText _ _ _)
    (by rw [trimmed_callText]; rfl) ?_)
  rw [trimmed_callText]
  refine .intro hgroup ?filled ?colons hnamed ?first ?others
  case filled => simpa [Rest.trimmed, Rest.isEmpty, htype.trimmed] using htype.filled
  case colons => rw [hskip, hcolons]; rfl
  case first =>
    rw [hskip, htail, parseAccess]
    exact Except.bind_eq_ok.2 ⟨args, hargs, rfl⟩
  case others =>
    rw [hskip, htail]
    rfl

theorem balanced_callText {type member inside : List Char} (htype : IsTypeName type)
    (hmember : Chars.name? false member = some (member, []))
    (hinside : Chars.Closes '(' ')' { depth := 1 } inside) :
    Chars.Balanced (callText type member inside) := by
  have hbracket : Chars.Balanced ['['] := .single rfl (by decide) (by decide)
  have hplain : Chars.Balanced type := by
    refine .of_plain fun c hc => ?_
    obtain ⟨hquote, hc⟩ := htype.plain c hc
    simp only [List.mem_cons, not_or] at hc
    exact ⟨hquote, hc.1, hc.2.1⟩
  have hcolons : Chars.Balanced [']', ':', ':'] := .of_plain (by simp [isQuote])
  have hname : Chars.Balanced member :=
    Chars.balanced_of_isRefPart fun _ => Chars.isRefPart_of_mem_name? hmember
  have htext : callText type member inside =
      ['['] ++ type ++ [']', ':', ':'] ++ member ++ ('(' :: inside ++ [')']) := by
    simp [callText]
  rw [htext]
  exact (((hbracket.append hplain).append hcolons).append hname).append (.group hinside)

/-- A reference that calls a static function is read as the arguments of the call are. -/
theorem parse_call {options : Options} (hproperties : options.properties = true)
    {type member inside : List Char} (htype : IsTypeName type)
    (hmember : Chars.name? false member = some (member, []))
    (hinside : Chars.Closes '(' ')' { depth := 1 } inside) :
    ∃ (start : Nat) (ref typeName method name : Span), typeName.text = String.ofList type ∧
      name.text = String.ofList member ∧ ∀ args,
        parseArguments (parseUpTo (referenceText (callText type member inside)).length) options ref
          ⟨start, inside⟩ = .ok args →
        parse options (String.ofList (referenceText (callText type member inside))) =
          .ok (referenceTree 0 (callText type member inside)
            (.chain ref (.type typeName) [.method method name args])) := by
  obtain ⟨start, typeName, method, name, htypeName, hname, hcall⟩ :=
    parseProperty_call (parseUpTo (referenceText (callText type member inside)).length) options
      ⟨0, String.ofList (referenceText (callText type member inside))⟩ 2 htype hmember hinside
  refine ⟨start, ⟨0, String.ofList (referenceText (callText type member inside))⟩, typeName, method,
    name, htypeName, hname, fun args hargs => ?_⟩
  rw [parse_reference hproperties (balanced_callText htype hmember hinside).closes,
    hcall args hargs, Except.map]

end Expression

end BuildExpr
