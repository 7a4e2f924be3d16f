import BuildExpr.Proofs.Expression.Faults
import BuildExpr.Proofs.Source.Cursors

/-!
# Where closing brackets are looked for

A text can be read with any search for the groups in it: each function that looks for one takes the
search as an argument, and is otherwise the one that reads the text. The search is asked only about
a rest that begins with the opening bracket. So a search that is right about these reads every text
as it is read, whatever it says about others (`GroupSearch.Agrees.parse_eq`).
-/

namespace BuildExpr

/-! ## Argument lists from one end -/

namespace Rest

variable {r : Rest} {c closer : Char}

theorem length_lt_of_group? {group : Rest × Rest} (h : r.group? c closer = some group) :
    group.2.chars.length < r.chars.length := by
  obtain ⟨d, hr, -⟩ := group?_eq_some h
  rw [hr, List.length_append, List.length_cons, List.length_cons]
  omega

theorem length_lt_of_quoted? {run : Rest × Rest} (h : r.quoted? = some run) :
    run.2.chars.length < r.chars.length := by
  obtain ⟨q, hr, -⟩ := quoted?_eq_some h
  rw [hr, List.length_append, List.length_cons, List.length_cons]
  omega

/-- From an opening bracket on a list goes on behind the group. -/
theorem splitArguments_opener (hg : Chars.Grouping c closer) (hopen : r.peek? = some c) :
    Chars.splitArguments r.chars = (r.group? c closer).bind fun group =>
      (Chars.splitArguments group.2.chars).map (Chars.before (r.upTo group.2).text.toList) := by
  obtain ⟨cs, hchars⟩ := List.head?_eq_some_iff.1 hopen
  rw [hchars, Chars.splitArguments, Chars.splitArgumentsIn_opener hg]
  cases hgroup : r.group? c closer with
  | none =>
    have hnone : Chars.closing c closer { depth := 1 } cs = none := by
      simpa [group?, hchars] using hgroup
    rw [hnone]
    rfl
  | some group =>
    obtain ⟨d, hr, hcloses, -⟩ := group?_eq_some hgroup
    obtain ⟨rfl, hcs⟩ := List.cons.inj (hchars.symm.trans hr)
    have hcs : cs = group.1.chars ++ closer :: group.2.chars := hcs
    have hpart : r.chars = (c :: group.1.chars ++ [closer]) ++ group.2.chars := by
      simp [hchars, hcs]
    rw [hcs, hcloses.closing, Option.bind_some, Option.bind_some, upTo_eq hpart,
      String.toList_ofList]
    rfl

/-- From a quote on a list goes on behind the quoted run. -/
theorem splitArguments_quote (hc : isQuote c = true) (hopen : r.peek? = some c) :
    Chars.splitArguments r.chars = r.quoted?.bind fun run =>
      (Chars.splitArguments run.2.chars).map (Chars.before (r.upTo run.2).text.toList) := by
  obtain ⟨cs, hchars⟩ := List.head?_eq_some_iff.1 hopen
  rw [hchars, Chars.splitArguments, Chars.splitArgumentsIn_quote hc]
  cases hrun : r.quoted? with
  | none =>
    have hnone : Chars.cut? c cs = none := by simpa [quoted?, hchars] using hrun
    rw [hnone]
    rfl
  | some run =>
    obtain ⟨d, hr, hinside, -⟩ := quoted?_eq_some hrun
    obtain ⟨rfl, hcs⟩ := List.cons.inj (hchars.symm.trans hr)
    have hcs : cs = run.1.chars ++ c :: run.2.chars := hcs
    have hpart : r.chars = (c :: run.1.chars ++ [c]) ++ run.2.chars := by simp [hchars, hcs]
    rw [hcs, Chars.cut?_append_of_not_mem hinside, Option.bind_some, Option.bind_some,
      upTo_eq hpart, String.toList_ofList]
    rfl

end Rest

namespace Expression

/-- Two readers that give the same for each part of a source. -/
def SameOn (source : String) (read read' : Reader) : Prop :=
  ∀ (options : Options) {r : Rest}, r.Within (.ofText source) → read options r = read' options r

theorem SameOn.parseArgument {source : String} {read read' : Reader}
    (hread : SameOn source read read') {options : Options} {piece : Rest}
    (hpiece : piece.Within (.ofText source)) :
    Expression.parseArgument read options piece = Expression.parseArgument read' options piece := by
  have htrimmed := (Rest.within_trimmed piece).trans hpiece
  cases whole : piece.trimmed.quotedWhole? with
  | some inside =>
    have hinside := (Rest.inside_of_quotedWhole? whole).within.trans htrimmed
    rw [parseArgument_of_whole whole, parseArgument_of_whole whole, hread _ hinside]
  | none =>
    rw [parseArgument_of_not_whole whole, parseArgument_of_not_whole whole, hread _ htrimmed]

end Expression

/-! ## Reading with a search

Each function is the one of its name in the reading of texts, with the search as an argument. -/

/-- A search for the group of two brackets at the front of a rest: its inside and what follows. -/
abbrev GroupSearch := Char → Char → Rest → Option (Rest × Rest)

namespace GroupSearch

variable (find : GroupSearch)

def body? (r : Rest) : Option Rest := (find '(' ')' r.next).map Prod.fst

def front (options : Options) (r : Rest) : Chunk.Front :=
  match r.chars with
  | c :: '(' :: _ =>
    if c == '$' && options.properties then
      match find.body? r with
      | some body =>
        let length := body.chars.length + 3
        .reference (.property (r.upTo (r.drop length)) body) length
      | none => .unclosed
    else if c == '@' && options.items then
      match find.body? r with
      | some body =>
        let length := body.chars.length + 3
        .reference (.items (r.upTo (r.drop length)) body) length
      | none => .unclosed
    else if c == '@' && options.metadata then
      match find.body? r with
      | some body => .copied body
      | none => .plain
    else if c == '%' && options.metadata then
      match MetadataRef.read? r with
      | some (ref, after) => .reference (.metadata ref) (r.chars.length - after.chars.length)
      | none => .plain
    else .plain
  | _ => .plain

def chunksFrom (options : Options) (start : Nat) (run : List Char) (skip pos : Nat) :
    List Char → List Chunk
  | [] => Chunk.flush start run
  | c :: cs =>
    let after := pos + c.utf8Size
    match skip with
    | skip + 1 => chunksFrom options after run skip after cs
    | 0 =>
      match find.front options ⟨pos, c :: cs⟩ with
      | .plain => chunksFrom options start (c :: run) 0 after cs
      | .reference chunk length =>
        Chunk.flush start run ++ chunk :: chunksFrom options after [] (length - 1) after cs
      | .copied body =>
        Chunk.flush start ('(' :: c :: run) ++
          .copied body :: chunksFrom options after [] (body.chars.length + 1) after cs
      | .unclosed => Chunk.flush start run ++ [.unclosed ⟨pos, String.ofList (c :: cs)⟩]

def chunks (options : Options) (r : Rest) : List Chunk :=
  find.chunksFrom options r.pos [] 0 r.pos r.chars

def memberTail (start : Rest) (name : Span) (r : Rest) : RawAccess × Rest :=
  if r.peek? == some '(' then
    match find '(' ')' r with
    | some (arguments, after) => (.method (start.upTo after) name arguments, after)
    | none => (.fault .unclosedParenthesis, r)
  else (.member (start.upTo r) name, r)

def access? (r : Rest) : Option (RawAccess × Rest) :=
  match r.peek? with
  | none => none
  | some '.' =>
    match r.next.name? false with
    | some (name, after) => some (find.memberTail r name after)
    | none => some (.fault .memberExpected, r)
  | some '[' =>
    match find '[' ']' r with
    | some (argument, after) => some (.index (r.upTo after) argument, after)
    | none => some (.fault .unclosedBracket, r)
  | some _ => some (.fault (.unexpected r.span.text), r)

def accessesUpTo : Nat → Rest → List RawAccess
  | 0, _ => []
  | fuel + 1, r =>
    match find.access? r.skipBlanks with
    | none => []
    | some (.fault fault, _) => [.fault fault]
    | some (access, after) => access :: accessesUpTo fuel after

def accesses (r : Rest) : List RawAccess := find.accessesUpTo (r.chars.length + 1) r

def stage? (separated : Bool) (r : Rest) : Option (RawStage × Rest) :=
  match r.chars with
  | [] => none
  | '-' :: '>' :: _ =>
    let body := (r.drop 2).skipBlanks
    if body.peek?.any isQuote then
      match body.quoted? with
      | some (value, after) => some (.pattern (r.upTo after) value, after)
      | none => some (.fault .unterminatedTransform, r)
    else
      match body.name? false with
      | none => some (.fault .functionExpected, r)
      | some (name, after) =>
        let open_ := after.skipBlanks
        if open_.peek? == some '(' then
          match find '(' ')' open_ with
          | some (arguments, after) =>
            some (.function (r.upTo after) name arguments, after)
          | none => some (.fault .unclosedParenthesis, r)
        else some (.fault (.argumentsRequired name.text), r)
  | ',' :: _ =>
    if separated then some (.fault (.unexpectedInList r.span.text), r)
    else
      let body := r.next.skipBlanks
      if body.peek?.any isQuote then
        match body.quoted? with
        | some (value, after) => some (.separator value, after)
        | none => some (.fault .unterminatedSeparator, r)
      else some (.fault .separatorNotQuoted, r)
  | _ => some (.fault (.unexpectedInList r.span.text), r)

def stagesUpTo (separated : Bool) : Nat → Rest → List RawStage
  | 0, _ => []
  | fuel + 1, r =>
    match find.stage? separated r.skipBlanks with
    | none => []
    | some (.fault fault, _) => [.fault fault]
    | some (stage, after) => stage :: stagesUpTo (separated || Rest.isSeparator stage) fuel after

def stages (r : Rest) : List RawStage := find.stagesUpTo false (r.chars.length + 1) r

/-- The texts between the commas of an argument list. Quoted runs and groups are stepped over as a
whole. -/
def textsUpTo : Nat → Rest → Option (List (List Char))
  | 0, _ => none
  | fuel + 1, r =>
    let goOn (after : Rest) :=
      (textsUpTo fuel after).map (Chars.before (r.upTo after).text.toList)
    match r.peek? with
    | none => some [[]]
    | some c =>
      if isQuote c then r.quoted?.bind fun run => goOn run.2
      else if c == '(' then (find '(' ')' r).bind fun group => goOn group.2
      else if c == '[' then (find '[' ']' r).bind fun group => goOn group.2
      else if c == ',' then (textsUpTo fuel r.next).map ([] :: ·)
      else goOn r.next

def splitArguments (r : Rest) : Option (List Rest) :=
  (find.textsUpTo (r.chars.length + 1) r).map (Rest.pieces r.pos)

def parseArguments (read : Expression.Reader) (options : Options) (ref : Span) (inside : Rest) :
    Except Malformed (List Argument) :=
  if inside.trimmed.isEmpty then .ok []
  else
    match find.splitArguments inside with
    | none => ref.fail .unterminatedArguments
    | some pieces => pieces.mapM (Expression.parseArgument read options)

def parseAccess (read : Expression.Reader) (options : Options) (ref : Span) :
    RawAccess → Except Malformed Access
  | .method span name arguments => do
    return .method span name (← find.parseArguments read options ref arguments)
  | .member span name => .ok (.member span name)
  | .index span argument => do
    return .index span (← Expression.parseArgument read options argument)
  | .fault fault => ref.fail fault

def parseStatic (read : Expression.Reader) (options : Options) (ref : Span) (body : Rest) :
    Except Malformed Property := do
  match find '[' ']' body with
  | none => ref.fail .unclosedType
  | some (type, after) =>
    if type.trimmed.isEmpty then ref.fail .emptyType
    else
      let colons := after.skipBlanks
      if colons.chars.take 2 != [':', ':'] then ref.fail .colonsExpected
      else
        match (colons.drop 2).skipBlanks.name? false with
        | none => ref.fail .staticMember
        | some (name, after) =>
          let (first, after) := find.memberTail colons name after
          let first ← find.parseAccess read options ref first
          let others ← (find.accesses after).mapM (find.parseAccess read options ref)
          return .chain ref (.type type.trimmed.span) (first :: others)

def parseProperty (read : Expression.Reader) (options : Options) (ref : Span) (body : Rest) :
    Except Malformed Property := do
  let text := body.trimmed
  if Expression.startsWithIgnoreCase body.chars Expression.registryMark then
    return .registry ref (body.drop Expression.registryMark.length).span
  else if text.peek? == some '[' then find.parseStatic read options ref text
  else if body.chars.contains '\\' && Expression.isBareRegistry text.chars then
    return .bareRegistry ref text.span
  else if !body.chars.any (fun c => c == '.' || c == '[' || c == '(') then
    if body.chars.contains '\\' then ref.fail .propertyName
    else return .named ref body.span
  else
    match text.name? true with
    | none => ref.fail .propertyName
    | some (name, after) =>
      return .chain ref (.property name)
        (← (find.accesses after).mapM (find.parseAccess read options ref))

def parseStage (read : Expression.Reader) (options : Options) (ref : Span)
    (parts : List Transform × Option Expression) :
    RawStage → Except Malformed (List Transform × Option Expression)
  | .pattern span value => do
    return (parts.1 ++ [.pattern span (← read (Expression.listOptions options) value)], parts.2)
  | .function span name arguments => do
    let arguments ← find.parseArguments read (Expression.listOptions options) ref arguments
    return (parts.1 ++ [.function span name arguments], parts.2)
  | .separator value => do
    return (parts.1, some (← read (Expression.listOptions options) value))
  | .fault fault => ref.fail fault

def parseItems (read : Expression.Reader) (options : Options) (ref : Span) (body : Rest) :
    Except Malformed ItemList := do
  match body.skipBlanks.name? true with
  | none => ref.fail .itemType
  | some (itemType, after) =>
    let (transforms, separator) ←
      (find.stages after).foldlM (find.parseStage read options ref) ([], none)
    return .mk ref itemType transforms separator

def parseChunk (read : Expression.Reader) (options : Options) :
    Chunk → Except Malformed (List Segment)
  | .literal span => .ok [.literal span]
  | .property span body => do return [.property (← find.parseProperty read options span body)]
  | .items span body => do return [.items (← find.parseItems read options span body)]
  | .metadata ref => .ok [.metadata ref]
  | .copied body => do return (← read { options with metadata := false } body).segments
  | .unclosed rest => rest.fail .unclosedParenthesis

def parseLevel (read : Expression.Reader) : Expression.Reader := fun options r => do
  let segments ← (find.chunks options r).mapM (find.parseChunk read options)
  return .mk r.span segments.flatten

def parseUpTo : Nat → Expression.Reader
  | 0 => fun _ r => .ok (.mk r.span [])
  | depth + 1 => find.parseLevel (parseUpTo depth)

/-- Reads a text with a search for the groups in it. -/
def parse (options : Options) (text : String) : Except Malformed Expression :=
  find.parseUpTo (text.length + 1) options (Rest.ofText text)

/-! ## Searches that are right at opening brackets -/

/-- A search that is right about the parts of a source which begin with an opening bracket. -/
def Agrees (find : GroupSearch) (source : String) : Prop :=
  ∀ {opener closer : Char} {r : Rest}, Chars.Grouping opener closer → r.Within (.ofText source) →
    (Cursor.ofRange source r.pos r.stop).Opens opener.toUInt8 closer.toUInt8 r.pos →
    find opener closer r = Cursor.group? source opener closer r

/-- The search by which texts are read: with it each of the functions is the one that reads. -/
def ofRest : GroupSearch := fun opener closer r => r.group? opener closer

namespace Agrees

variable {find : GroupSearch} {source : String} {r : Rest} {options : Options}

theorem group?_eq (h : find.Agrees source) {opener closer : Char}
    (hg : Chars.Grouping opener closer) (hr : r.Within (.ofText source))
    (hopen : r.peek? = some opener) : find opener closer r = r.group? opener closer :=
  (h hg hr (Cursor.opens_of_peek? hg hr hopen)).trans (Cursor.group?_eq hg hr hopen)

theorem front_eq (h : find.Agrees source) (hr : r.Within (.ofText source)) :
    find.front options r = Chunk.front options r := by
  show _ = ofRest.front options r
  unfold front
  split
  · rename_i c cs hchars
    have hopen : r.next.peek? = some '(' := by simp [Rest.next, Rest.drop, Rest.peek?, hchars]
    have hbody : find.body? r = ofRest.body? r := by
      rw [body?, h.group?_eq .round ((Rest.tail_next r).within.trans hr) hopen]
      rfl
    rw [hbody]
  · rfl

theorem chunksFrom_eq (h : find.Agrees source) {cs : List Char} {pos : Nat}
    (hr : (⟨pos, cs⟩ : Rest).Within (.ofText source)) (start : Nat) (run : List Char)
    (skip : Nat) :
    find.chunksFrom options start run skip pos cs =
      Chunk.chunksFrom options start run skip pos cs := by
  induction cs generalizing pos start run skip with
  | nil => rfl
  | cons c cs ih =>
    have htail : (⟨pos + c.utf8Size, cs⟩ : Rest).Within (.ofText source) :=
      Rest.Within.trans (Rest.Tail.within ⟨[c], rfl, rfl⟩) hr
    cases skip with
    | succ skip =>
      rw [chunksFrom, Chunk.chunksFrom]
      exact ih htail _ _ _
    | zero =>
      rw [chunksFrom, Chunk.chunksFrom, h.front_eq hr]
      cases Chunk.front options ⟨pos, c :: cs⟩ with
      | plain => exact ih htail _ _ _
      | reference chunk length => exact congrArg (_ ++ chunk :: ·) (ih htail _ _ _)
      | copied body => exact congrArg (_ ++ .copied body :: ·) (ih htail _ _ _)
      | unclosed => rfl

theorem chunks_eq (h : find.Agrees source) (hr : r.Within (.ofText source)) :
    find.chunks options r = r.chunks options :=
  h.chunksFrom_eq hr _ _ _

/-! ### Members and stages -/

theorem memberTail_eq (h : find.Agrees source) (hr : r.Within (.ofText source)) (start : Rest)
    (name : Span) : find.memberTail start name r = Rest.memberTail start name r := by
  show _ = ofRest.memberTail start name r
  unfold memberTail
  split
  · rename_i hopen
    rw [h.group?_eq .round hr (beq_iff_eq.1 hopen)]
    rfl
  · rfl

theorem access?_eq (h : find.Agrees source) (hr : r.Within (.ofText source)) :
    find.access? r = r.access? := by
  show _ = ofRest.access? r
  unfold access?
  split
  · rfl
  · split
    · rename_i name after hname
      have hafter : after.Within r := ((Rest.tail_of_name? hname).trans (Rest.tail_next r)).within
      exact congrArg some (h.memberTail_eq (hafter.trans hr) r name)
    · rfl
  · rename_i hopen
    rw [h.group?_eq .square hr hopen]
    rfl
  · rfl

theorem accessesUpTo_eq (h : find.Agrees source) (fuel : Nat) (hr : r.Within (.ofText source)) :
    find.accessesUpTo fuel r = Rest.accessesUpTo fuel r := by
  induction fuel generalizing r with
  | zero => rfl
  | succ fuel ih =>
    have hblanks := (Rest.tail_skipBlanks r).within.trans hr
    rw [accessesUpTo, Rest.accessesUpTo, h.access?_eq hblanks]
    cases haccess : r.skipBlanks.access? with
    | none => rfl
    | some p =>
      obtain ⟨access, after⟩ := p
      have hafter := ih ((Rest.access?_placed haccess).2.within.trans hblanks)
      cases access with
      | fault fault => rfl
      | _ => exact congrArg (_ :: ·) hafter

theorem accesses_eq (h : find.Agrees source) (hr : r.Within (.ofText source)) :
    find.accesses r = r.accesses :=
  h.accessesUpTo_eq _ hr

theorem stage?_eq (h : find.Agrees source) (hr : r.Within (.ofText source)) (separated : Bool) :
    find.stage? separated r = r.stage? separated := by
  show _ = ofRest.stage? separated r
  unfold stage?
  split
  · rfl
  · -- an arrow
    have hbody : (r.drop 2).skipBlanks.Tail r := (Rest.tail_skipBlanks _).trans (Rest.tail_drop r 2)
    dsimp only
    split
    · rfl
    · split
      · rfl
      · rename_i name after hname
        have hafter : after.skipBlanks.Tail r :=
          (Rest.tail_skipBlanks _).trans ((Rest.tail_of_name? hname).trans hbody)
        split
        · rename_i hopen
          rw [h.group?_eq .round (hafter.within.trans hr) (beq_iff_eq.1 hopen)]
          rfl
        · rfl
  · rfl
  · rfl

theorem stagesUpTo_eq (h : find.Agrees source) (fuel : Nat) (hr : r.Within (.ofText source))
    (separated : Bool) :
    find.stagesUpTo separated fuel r = Rest.stagesUpTo separated fuel r := by
  induction fuel generalizing r separated with
  | zero => rfl
  | succ fuel ih =>
    have hblanks := (Rest.tail_skipBlanks r).within.trans hr
    rw [stagesUpTo, Rest.stagesUpTo, h.stage?_eq hblanks]
    cases hstage : r.skipBlanks.stage? separated with
    | none => rfl
    | some p =>
      obtain ⟨stage, after⟩ := p
      have hafter := ih ((Rest.stage?_placed hstage).2.within.trans hblanks)
      cases stage with
      | fault fault => rfl
      | _ => exact congrArg (_ :: ·) (hafter _)

theorem stages_eq (h : find.Agrees source) (hr : r.Within (.ofText source)) :
    find.stages r = r.stages :=
  h.stagesUpTo_eq _ hr false

/-! ### Argument lists -/

theorem textsUpTo_eq (h : find.Agrees source) {fuel : Nat} (hr : r.Within (.ofText source))
    (hfuel : r.chars.length < fuel) :
    find.textsUpTo fuel r = Chars.splitArguments r.chars := by
  induction fuel generalizing r with
  | zero => exact absurd hfuel (Nat.not_lt_zero _)
  | succ fuel ih =>
    have hgoOn : ∀ {after : Rest}, after.Tail r → after.chars.length < r.chars.length →
        (find.textsUpTo fuel after).map (Chars.before (r.upTo after).text.toList) =
          (Chars.splitArguments after.chars).map (Chars.before (r.upTo after).text.toList) := by
      intro after htail hshorter
      rw [ih (htail.within.trans hr) (by omega)]
    cases hpeek : r.peek? with
    | none =>
      rw [textsUpTo, hpeek, List.head?_eq_none_iff.1 hpeek]
      rfl
    | some c =>
      have hgroup : ∀ {closer : Char}, Chars.Grouping c closer →
          ((find c closer r).bind fun group =>
            (find.textsUpTo fuel group.2).map (Chars.before (r.upTo group.2).text.toList)) =
            Chars.splitArguments r.chars := by
        intro closer hg
        rw [h.group?_eq hg hr hpeek, Rest.splitArguments_opener hg hpeek]
        exact Option.bind_congr fun group hfound =>
          hgoOn (Rest.tail_of_group? hfound) (Rest.length_lt_of_group? hfound)
      obtain ⟨cs, hchars⟩ := List.head?_eq_some_iff.1 hpeek
      have hnext : r.next.chars = cs := by simp [Rest.next, Rest.drop, hchars]
      have hshorter : r.next.chars.length < r.chars.length := by
        rw [hnext, hchars]
        exact Nat.lt_succ_self _
      rw [textsUpTo, hpeek]
      rcases Chars.quote_or_opener_or_comma c with
        hquote | ⟨closer, hg⟩ | rfl | ⟨hquote, hround, hsquare, hcomma⟩
      · simp only [hquote, if_true]
        rw [Rest.splitArguments_quote hquote hpeek]
        exact Option.bind_congr fun run hfound =>
          hgoOn (Rest.tail_of_quoted? hfound) (Rest.length_lt_of_quoted? hfound)
      · cases hg with
        | round => exact hgroup .round
        | square => exact hgroup .square
      · show (find.textsUpTo fuel r.next).map ([] :: ·) = _
        rw [ih ((Rest.tail_next r).within.trans hr) (by omega), hnext, hchars,
          Chars.splitArguments, Chars.splitArguments, Chars.splitArgumentsIn, if_pos ⟨rfl, rfl⟩]
      · have hpart : r.chars = [c] ++ r.next.chars := by rw [hchars, hnext, List.singleton_append]
        simp only [hquote, beq_iff_eq, hround, hsquare, hcomma, if_false, Bool.false_eq_true]
        rw [hgoOn (Rest.tail_next r) hshorter, Rest.upTo_eq hpart, String.toList_ofList, hnext,
          hchars]
        exact (Chars.Uncut.single hquote hround hsquare hcomma cs).symm

theorem splitArguments_eq (h : find.Agrees source) (hr : r.Within (.ofText source)) :
    find.splitArguments r = r.splitArguments := by
  rw [splitArguments, h.textsUpTo_eq hr (Nat.lt_succ_self _), Rest.splitArguments]

/-! ### Expressions -/

section

variable {read read' : Expression.Reader} {ref : Span} {body : Rest}

theorem parseArguments_eq (h : find.Agrees source) (hread : Expression.SameOn source read read')
    (hbody : body.Within (.ofText source)) :
    find.parseArguments read options ref body =
      Expression.parseArguments read' options ref body := by
  rw [parseArguments, Expression.parseArguments, h.splitArguments_eq hbody]
  split
  · rfl
  · cases hpieces : body.splitArguments with
    | none => rfl
    | some pieces =>
      exact Except.mapM_congr fun piece hpiece =>
        hread.parseArgument ((Rest.within_of_mem_splitArguments hpieces hpiece).trans hbody)

theorem parseAccess_eq (h : find.Agrees source) (hread : Expression.SameOn source read read')
    {raw : RawAccess} (hraw : raw.Placed (.ofText source)) :
    find.parseAccess read options ref raw = Expression.parseAccess read' options ref raw := by
  cases raw with
  | method span name arguments =>
    rw [parseAccess, Expression.parseAccess, h.parseArguments_eq hread (hraw.2.2.trans hraw.1)]
  | member span name => rfl
  | index span argument =>
    rw [parseAccess, Expression.parseAccess, hread.parseArgument (hraw.2.trans hraw.1)]
  | fault fault => rfl

theorem parseAccesses_eq (h : find.Agrees source) (hread : Expression.SameOn source read read')
    (hbody : body.Within (.ofText source)) :
    (find.accesses body).mapM (find.parseAccess read options ref) =
      body.accesses.mapM (Expression.parseAccess read' options ref) := by
  rw [h.accesses_eq hbody]
  exact Except.mapM_congr fun raw hraw =>
    h.parseAccess_eq hread ((Rest.placed_of_mem_accesses hraw).trans hbody)

theorem parseStatic_eq (h : find.Agrees source) (hread : Expression.SameOn source read read')
    (hbody : body.Within (.ofText source)) (hopen : body.peek? = some '[') :
    find.parseStatic read options ref body = Expression.parseStatic read' options ref body := by
  rw [parseStatic, Expression.parseStatic, h.group?_eq .square hbody hopen]
  cases hgroup : body.group? '[' ']' with
  | none => rfl
  | some group =>
    obtain ⟨type, after⟩ := group
    dsimp only
    split
    · rfl
    · split
      · rfl
      · cases hname : (after.skipBlanks.drop 2).skipBlanks.name? false with
        | none => rfl
        | some p =>
          obtain ⟨name, last⟩ := p
          obtain ⟨hplaced, hrest⟩ := Rest.placed_of_static hgroup hname
          have hlast : last.Within (.ofText source) :=
            ((Rest.tail_of_name? hname).trans <| (Rest.tail_skipBlanks _).trans <|
              (Rest.tail_drop _ 2).trans <| (Rest.tail_skipBlanks _).trans
                (Rest.tail_of_group? hgroup)).within.trans hbody
          dsimp only
          rw [h.memberTail_eq hlast, h.parseAccess_eq hread (hplaced.trans hbody),
            h.parseAccesses_eq hread (hrest.trans hbody)]

theorem parseProperty_eq (h : find.Agrees source) (hread : Expression.SameOn source read read')
    (hbody : body.Within (.ofText source)) :
    find.parseProperty read options ref body = Expression.parseProperty read' options ref body := by
  have htext := (Rest.within_trimmed body).trans hbody
  rw [parseProperty, Expression.parseProperty]
  split
  · rfl
  · split
    · rename_i hopen
      exact h.parseStatic_eq hread htext (beq_iff_eq.1 hopen)
    · split
      · rfl
      · split
        · rfl
        · cases hname : body.trimmed.name? true with
          | none => rfl
          | some p =>
            obtain ⟨name, after⟩ := p
            dsimp only
            rw [h.parseAccesses_eq hread ((Rest.tail_of_name? hname).within.trans htext)]

theorem parseStage_eq (h : find.Agrees source) (hread : Expression.SameOn source read read')
    {raw : RawStage} (hraw : raw.Placed (.ofText source))
    (parts : List Transform × Option Expression) :
    find.parseStage read options ref parts raw =
      Expression.parseStage read' options ref parts raw := by
  cases raw with
  | pattern span value =>
    rw [parseStage, Expression.parseStage, hread _ (hraw.2.trans hraw.1)]
  | function span name arguments =>
    rw [parseStage, Expression.parseStage, h.parseArguments_eq hread (hraw.2.2.trans hraw.1)]
  | separator value => rw [parseStage, Expression.parseStage, hread _ hraw]
  | fault fault => rfl

theorem parseItems_eq (h : find.Agrees source) (hread : Expression.SameOn source read read')
    (hbody : body.Within (.ofText source)) :
    find.parseItems read options ref body = Expression.parseItems read' options ref body := by
  rw [parseItems, Expression.parseItems]
  cases hname : body.skipBlanks.name? true with
  | none => rfl
  | some p =>
    obtain ⟨itemType, after⟩ := p
    have hafter : after.Within (.ofText source) :=
      ((Rest.tail_of_name? hname).trans (Rest.tail_skipBlanks body)).within.trans hbody
    dsimp only
    rw [h.stages_eq hafter, Except.foldlM_congr fun parts raw hraw =>
      h.parseStage_eq hread ((Rest.placed_of_mem_stages hraw).trans hafter) parts]

theorem parseChunk_eq (h : find.Agrees source) (hread : Expression.SameOn source read read')
    {chunk : Chunk} (hchunk : chunk.Placed (.ofText source)) :
    find.parseChunk read options chunk = Expression.parseChunk read' options chunk := by
  cases chunk with
  | literal span => rfl
  | property span body =>
    rw [parseChunk, Expression.parseChunk, h.parseProperty_eq hread hchunk.2]
  | items span body => rw [parseChunk, Expression.parseChunk, h.parseItems_eq hread hchunk.2]
  | metadata ref => rfl
  | copied body => rw [parseChunk, Expression.parseChunk, hread _ hchunk]
  | unclosed rest => rfl

theorem parseLevel_eq (h : find.Agrees source) (hread : Expression.SameOn source read read') :
    Expression.SameOn source (find.parseLevel read) (Expression.parseLevel read') := by
  intro options r hr
  rw [parseLevel, Expression.parseLevel, h.chunks_eq hr, Except.mapM_congr fun chunk hchunk =>
    h.parseChunk_eq hread ((Chunk.placed_of_mem_chunks chunk hchunk).trans hr)]

end

theorem parseUpTo_eq (h : find.Agrees source) (depth : Nat) :
    Expression.SameOn source (find.parseUpTo depth) (Expression.parseUpTo depth) := by
  induction depth with
  | zero => exact fun _ _ _ => rfl
  | succ depth ih => exact h.parseLevel_eq ih

/-- A search that is right at opening brackets reads a text as it is read. -/
theorem parse_eq (h : find.Agrees source) (options : Options) :
    find.parse options source = Expression.parse options source :=
  h.parseUpTo_eq _ options (.refl _)

end Agrees

/-- The search by positions, which finds nothing where the opening bracket does not stand. -/
def atOpener (source : String) : GroupSearch := fun opener closer r =>
  let k := Cursor.ofRange source r.pos r.stop
  if (k.bytesAt r.pos).head? = some (.ofUInt8 opener.toUInt8) then
    Cursor.group? source opener closer r
  else none

theorem agrees_atOpener (source : String) : (atOpener source).Agrees source := by
  intro opener closer r _ _ hopens
  exact if_pos hopens.head

end GroupSearch

namespace Cursor

/-- From a bracket on, as long as the one that closes it was not passed, the depth is not negative;
the search finds the first position at which as many opening as closing brackets were seen past the
quoted runs, and it finds none exactly when a quoted run does not end in the range or there is no
such position. The reading of a text and the cutting of an argument list search from opening
brackets only: they do not depend on what a search says elsewhere. -/
theorem closing_bracket_exact :
    (∀ (k : Cursor) (opener closer : UInt8) (pos : Nat), k.Opens opener closer pos →
      (∀ part, part <+: k.bytesAt pos →
        (∀ j, k.closing? opener closer pos = some j → part.length ≤ j + 1 - pos) →
        0 ≤ (Chars.nesting (.ofUInt8 opener) (.ofUInt8 closer) {} part).depth) ∧
      (∀ j, k.closing? opener closer pos = some j ↔
        k.LevelAt opener closer pos j ∧ ∀ i, k.LevelAt opener closer pos i → j ≤ i) ∧
      (k.closing? opener closer pos = none ↔
        k.RunsOut opener closer pos ∨ ¬∃ j, k.LevelAt opener closer pos j)) ∧
    ∀ (source : String) (find : GroupSearch), find.Agrees source →
      (∀ options, find.parse options source = Expression.parse options source) ∧
      ∀ r, r.Within (.ofText source) → find.splitArguments r = r.splitArguments := by
  constructor
  · intro k opener closer pos hopens
    refine ⟨fun part hpart hread => ?_, fun j => ?_, ?_⟩
    · exact depth_nonneg hopens hpart hread
    · exact closing?_eq_some_iff hopens
    · exact closing?_eq_none_iff hopens
  · intro source find hfind
    exact ⟨hfind.parse_eq, fun r hr => hfind.splitArguments_eq hr⟩

/-- A bracket in quotes does not count, and a group inside is passed. -/
theorem closing_bracket_exact_of_nested :
    let source := "$(a.b(')', (c)) )x"
    let k := ofRange source 0 18
    k.closing? 40 41 1 = some 16 ∧ k.LevelAt 40 41 1 16 ∧ ¬k.LevelAt 40 41 1 7 ∧
      (GroupSearch.atOpener source).parse {} source = Expression.parse {} source := by
  intro source k
  have hopens : k.Opens 40 41 1 := ⟨⟨by decide, rfl, rfl⟩, by decide +kernel⟩
  have hfound : k.closing? 40 41 1 = some 16 := by decide +kernel
  obtain ⟨hexact, hcalls⟩ := closing_bracket_exact
  obtain ⟨-, hsome, -⟩ := hexact k 40 41 1 hopens
  obtain ⟨hlevel, hfirst⟩ := (hsome 16).1 hfound
  refine ⟨hfound, hlevel, fun hseven => ?_, ?_⟩
  · exact absurd (hfirst 7 hseven) (by decide)
  · exact (hcalls source _ (GroupSearch.agrees_atOpener source)).1 {}

end Cursor

end BuildExpr
