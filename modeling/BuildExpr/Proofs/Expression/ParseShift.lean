import BuildExpr.Proofs.Expression.Chunks
import BuildExpr.Proofs.Expression.Reads
import BuildExpr.Proofs.Expression.Shift

/-!
# Reading a text in another place

A text read `k` bytes further gives the same tree moved by `k`, or the same fault
(`agree_parseUpTo`). The readers of both sides may allow for different depths as long as both
allow for the text, so the depth that a text is read with does not matter either.
-/

namespace BuildExpr

/-! ## Trees -/

mutual

/-- The same expression `k` bytes further. -/
def Expression.shift (k : Nat) : Expression → Expression
  | .mk span segments => .mk (span.shift k) (Segment.shiftAll k segments)

/-- The same segments `k` bytes further. -/
def Segment.shiftAll (k : Nat) : List Segment → List Segment
  | [] => []
  | segment :: rest => segment.shift k :: Segment.shiftAll k rest

/-- The same segment `k` bytes further. -/
def Segment.shift (k : Nat) : Segment → Segment
  | .literal span => .literal (span.shift k)
  | .property ref => .property (ref.shift k)
  | .items list => .items (list.shift k)
  | .metadata ref => .metadata (ref.shift k)

/-- The same property reference `k` bytes further. -/
def Property.shift (k : Nat) : Property → Property
  | .named span name => .named (span.shift k) (name.shift k)
  | .registry span key => .registry (span.shift k) (key.shift k)
  | .bareRegistry span path => .bareRegistry (span.shift k) (path.shift k)
  | .chain span (.property name) accesses =>
    .chain (span.shift k) (.property (name.shift k)) (Access.shiftAll k accesses)
  | .chain span (.type name) accesses =>
    .chain (span.shift k) (.type (name.shift k)) (Access.shiftAll k accesses)

/-- The same members `k` bytes further. -/
def Access.shiftAll (k : Nat) : List Access → List Access
  | [] => []
  | access :: rest => access.shift k :: Access.shiftAll k rest

/-- The same member `k` bytes further. -/
def Access.shift (k : Nat) : Access → Access
  | .method span name arguments =>
    .method (span.shift k) (name.shift k) (Argument.shiftAll k arguments)
  | .member span name => .member (span.shift k) (name.shift k)
  | .index span argument => .index (span.shift k) (argument.shift k)

/-- The same arguments `k` bytes further. -/
def Argument.shiftAll (k : Nat) : List Argument → List Argument
  | [] => []
  | argument :: rest => argument.shift k :: Argument.shiftAll k rest

/-- The same argument `k` bytes further. -/
def Argument.shift (k : Nat) : Argument → Argument
  | .null span => .null (span.shift k)
  | .quoted value => .quoted (value.shift k)
  | .bare value => .bare (value.shift k)

/-- The same item list `k` bytes further. -/
def ItemList.shift (k : Nat) : ItemList → ItemList
  | .mk span itemType transforms none =>
    .mk (span.shift k) (itemType.shift k) (Transform.shiftAll k transforms) none
  | .mk span itemType transforms (some separator) =>
    .mk (span.shift k) (itemType.shift k) (Transform.shiftAll k transforms)
      (some (separator.shift k))

/-- The same stages `k` bytes further. -/
def Transform.shiftAll (k : Nat) : List Transform → List Transform
  | [] => []
  | transform :: rest => transform.shift k :: Transform.shiftAll k rest

/-- The same stage `k` bytes further. -/
def Transform.shift (k : Nat) : Transform → Transform
  | .pattern span value => .pattern (span.shift k) (value.shift k)
  | .function span name arguments =>
    .function (span.shift k) (name.shift k) (Argument.shiftAll k arguments)

end

theorem Segment.shiftAll_eq_map (k : Nat) :
    Segment.shiftAll k = List.map (Segment.shift k) := by
  funext segments
  induction segments with
  | nil => rfl
  | cons segment rest ih => rw [Segment.shiftAll, ih, List.map_cons]

theorem Access.shiftAll_eq_map (k : Nat) :
    Access.shiftAll k = List.map (Access.shift k) := by
  funext accesses
  induction accesses with
  | nil => rfl
  | cons access rest ih => rw [Access.shiftAll, ih, List.map_cons]

theorem Argument.shiftAll_eq_map (k : Nat) :
    Argument.shiftAll k = List.map (Argument.shift k) := by
  funext arguments
  induction arguments with
  | nil => rfl
  | cons argument rest ih => rw [Argument.shiftAll, ih, List.map_cons]

theorem Transform.shiftAll_eq_map (k : Nat) :
    Transform.shiftAll k = List.map (Transform.shift k) := by
  funext transforms
  induction transforms with
  | nil => rfl
  | cons transform rest ih => rw [Transform.shiftAll, ih, List.map_cons]

theorem ItemList.shift_mk (k : Nat) (span itemType : Span) (transforms : List Transform)
    (separator : Option Expression) :
    (ItemList.mk span itemType transforms separator).shift k =
      .mk (span.shift k) (itemType.shift k) (transforms.map (Transform.shift k))
        (separator.map (Expression.shift k)) := by
  cases separator <;> simp [ItemList.shift, Transform.shiftAll_eq_map]

theorem Expression.segments_shift (k : Nat) (e : Expression) :
    (e.shift k).segments = e.segments.map (Segment.shift k) := by
  cases e with
  | mk span segments => simp [Expression.shift, Expression.segments, Segment.shiftAll_eq_map]

/-! ## The insides of references -/

namespace Chunk

/-- The text inside a chunk that is read again. -/
def inside : Chunk → List Char
  | .property _ body | .items _ body | .copied body => body.chars
  | _ => []

theorem inside_length_of_mem_flush {start : Nat} {run : List Char} {chunk : Chunk}
    (h : chunk ∈ flush start run) : chunk.inside.length < run.length := by
  cases run with
  | nil => simp [flush] at h
  | cons c run =>
    obtain rfl : chunk = .literal ⟨start, String.ofList (c :: run).reverse⟩ :=
      List.mem_singleton.1 h
    exact Nat.succ_pos _

theorem Reads.inside_length_lt {options : Options} {pos : Nat} {ref : List Char} {chunk : Chunk}
    (h : Reads options pos ref chunk) : chunk.inside.length < ref.length := by
  cases h <;> simp only [inside, List.length_append, List.length_cons, List.length_nil] <;> omega

/-- The inside of a chunk is shorter than the text. -/
theorem inside_length_lt {options : Options} {r : Rest} {chunk : Chunk}
    (h : chunk ∈ r.chunks options) : chunk.inside.length < r.chars.length := by
  have key := chunksFrom_induction options (motive := fun _ run _ cs chunks =>
    ∀ chunk ∈ chunks, chunk.inside.length < run.length + cs.length)
    ?nil ?plain ?reference ?copied ?unclosed r.pos [] r.pos r.chars
  case nil => exact fun _ run _ chunk h => inside_length_of_mem_flush h
  case plain =>
    intro _ run _ c cs chunks _ ih chunk h
    have := ih chunk h
    simp only [List.length_cons] at this ⊢
    omega
  case reference =>
    intro _ run _ ref rest chunk chunks hchunk ih other h
    rw [List.length_append]
    rcases List.mem_append.1 h with h | h
    · have := inside_length_of_mem_flush h
      omega
    · rcases List.mem_cons.1 h with rfl | h
      · have := hchunk.inside_length_lt
        omega
      · have := ih other h
        simp only [List.length_nil] at this
        omega
  case copied =>
    intro _ run _ body rest chunks _ _ _ ih other h
    simp only [List.length_append, List.length_cons]
    rcases List.mem_append.1 h with h | h
    · have := inside_length_of_mem_flush h
      simp only [List.length_cons] at this
      omega
    · rcases List.mem_cons.1 h with rfl | h
      · simp only [inside]
        omega
      · have := ih other h
        simp only [List.length_nil, List.length_cons] at this
        omega
  case unclosed =>
    intro _ run _ c cs _ other h
    rcases List.mem_append.1 h with h | h
    · have := inside_length_of_mem_flush h
      omega
    · rw [List.mem_singleton.1 h, List.length_cons]
      exact Nat.lt_of_lt_of_le (Nat.succ_pos _) (Nat.le_add_left _ _)
  simpa using key chunk h

end Chunk

/-! ## Readers -/

namespace Expression

/-- A second reader gives on a text `k` bytes further what the first gives on the text, if the text
is of some kind. -/
def AgreeOn (k : Nat) (kind : Rest → Prop) (read read' : Rest → Except Malformed Expression) :
    Prop :=
  ∀ r, kind r → read' (r.shift k) = (read r).map (Expression.shift k)

/-! ### Property references -/

namespace AgreeOn

variable {k : Nat} {kind : Rest → Prop} {read read' : Reader} {options options' : Options}
  (hkind : ∀ {r r' : Rest}, r.Within r' → kind r' → kind r)
  (h : AgreeOn k kind (read (argumentOptions options)) (read' (argumentOptions options')))
  (ref : Span)

include hkind h

theorem parseArgument {piece : Rest} (hpiece : kind piece) :
    Expression.parseArgument read' options' (piece.shift k) =
      (Expression.parseArgument read options piece).map (Argument.shift k) := by
  have htrimmed := hkind (Rest.within_trimmed piece) hpiece
  have hbare : (do return .bare (← read' (argumentOptions options') (piece.trimmed.shift k))) =
      (do return .bare (← read (argumentOptions options) piece.trimmed) :
        Except Malformed Argument).map (Argument.shift k) := by
    rw [h _ htrimmed]
    cases read (argumentOptions options) piece.trimmed <;> rfl
  simp only [Expression.parseArgument, Rest.trimmed_shift, Rest.shift_peek?, Rest.quoted?_shift,
    Rest.span_shift, Span.shift_text]
  by_cases hquote : piece.trimmed.peek?.any isQuote = true
  · simp only [hquote, if_true]
    rcases hquoted : piece.trimmed.quoted? with _ | ⟨inside, after⟩
    · simp only [Option.map_none]
      split
      · rfl
      · exact hbare
    · have hinside := hkind (Rest.inside_of_quoted? hquoted).within htrimmed
      simp only [Option.map_some, Prod.map_apply, Rest.shift_isEmpty]
      by_cases hafter : after.isEmpty = true
      · simp only [hafter, if_true]
        rw [h _ hinside]
        cases read (argumentOptions options) inside <;> rfl
      · simp only [hafter, Bool.false_eq_true, if_false]
        split
        · rfl
        · exact hbare
  · simp only [hquote, Bool.false_eq_true, if_false]
    split
    · rfl
    · exact hbare

theorem parseArguments {inside : Rest} (hinside : kind inside) :
    Expression.parseArguments read' options' (ref.shift k) (inside.shift k) =
      (Expression.parseArguments read options ref inside).map (Argument.shiftAll k) := by
  rw [Expression.parseArguments, Expression.parseArguments, Rest.trimmed_shift,
    Rest.shift_isEmpty, Rest.splitArguments_shift, Argument.shiftAll_eq_map]
  split
  · rfl
  · cases hpieces : inside.splitArguments with
    | none => rfl
    | some pieces =>
      exact Except.mapM_map_eq fun piece hpiece =>
        parseArgument hkind h (hkind (Rest.within_of_mem_splitArguments hpieces hpiece) hinside)

theorem parseAccess {raw : RawAccess} {body : Rest} (hraw : raw.Placed body) (hbody : kind body) :
    Expression.parseAccess read' options' (ref.shift k) (raw.shift k) =
      (Expression.parseAccess read options ref raw).map (Access.shift k) := by
  cases raw with
  | method span name arguments =>
    simp only [RawAccess.shift, Expression.parseAccess,
      parseArguments hkind h ref (hkind (hraw.2.2.trans hraw.1) hbody)]
    cases Expression.parseArguments read options ref arguments <;> rfl
  | member span name => rfl
  | index span argument =>
    simp only [RawAccess.shift, Expression.parseAccess,
      parseArgument hkind h (hkind (hraw.2.trans hraw.1) hbody)]
    cases Expression.parseArgument read options argument <;> rfl
  | fault fault => rfl

theorem parseAccesses {body after : Rest} (hafter : after.Within body) (hbody : kind body) :
    (after.shift k).accesses.mapM (Expression.parseAccess read' options' (ref.shift k)) =
      (after.accesses.mapM (Expression.parseAccess read options ref)).map (Access.shiftAll k) := by
  rw [Rest.accesses_shift, Access.shiftAll_eq_map]
  exact Except.mapM_map_eq fun raw hraw =>
    parseAccess hkind h ref ((Rest.placed_of_mem_accesses hraw).trans hafter) hbody

theorem parseStatic {body : Rest} (hbody : kind body) :
    Expression.parseStatic read' options' (ref.shift k) (body.shift k) =
      (Expression.parseStatic read options ref body).map (Property.shift k) := by
  rw [Expression.parseStatic, Expression.parseStatic, Rest.group?_shift]
  rcases hgroup : body.group? '[' ']' with _ | ⟨type, after⟩
  · rfl
  · simp only [Option.map_some, Prod.map_apply, Rest.trimmed_shift, Rest.shift_isEmpty,
      Rest.skipBlanks_shift, Rest.shift_chars, Rest.drop_shift, Rest.name?_shift]
    split
    · rfl
    · split
      · rfl
      · rcases hname : (after.skipBlanks.drop 2).skipBlanks.name? false with _ | ⟨name, last⟩
        · rfl
        · simp only [Option.map_some, Prod.map_apply, Rest.memberTail_shift]
          obtain ⟨hplaced, hrest⟩ := Rest.placed_of_static hgroup hname
          generalize Rest.memberTail after.skipBlanks name last = tail at hplaced hrest
          obtain ⟨first, rest⟩ := tail
          simp only [Prod.map_apply, parseAccess hkind h ref hplaced hbody,
            parseAccesses hkind h ref hrest hbody]
          cases Expression.parseAccess read options ref first with
          | error m => rfl
          | ok a =>
            cases rest.accesses.mapM (Expression.parseAccess read options ref) <;> rfl

theorem parseProperty {body : Rest} (hbody : kind body) :
    Expression.parseProperty read' options' (ref.shift k) (body.shift k) =
      (Expression.parseProperty read options ref body).map (Property.shift k) := by
  have htrimmed := Rest.within_trimmed body
  simp only [Expression.parseProperty, Rest.shift_chars, Rest.drop_shift, Rest.trimmed_shift,
    Rest.shift_peek?, Rest.span_shift, Rest.name?_shift]
  split
  · rfl
  · split
    · exact parseStatic hkind h ref (hkind htrimmed hbody)
    · split
      · rfl
      · split
        · by_cases hpath : body.chars.contains '\\' = true <;>
            simp only [hpath, Bool.false_eq_true, if_true, if_false] <;> rfl
        · rcases hname : body.trimmed.name? true with _ | ⟨name, after⟩
          · rfl
          · have hafter := (Rest.tail_of_name? hname).within.trans htrimmed
            simp only [Option.map_some, Prod.map_apply, parseAccesses hkind h ref hafter hbody]
            cases after.accesses.mapM (Expression.parseAccess read options ref) <;> rfl

end AgreeOn

/-! ### All texts that are short enough -/

/-- A second reader gives on a text `k` bytes further what the first gives on the text, if the
text is shorter than `n`. -/
def Agree (k n : Nat) (read read' : Reader) : Prop :=
  ∀ options r, r.chars.length < n →
    read' options (r.shift k) = (read options r).map (Expression.shift k)

namespace Agree

variable {k n : Nat} {read read' : Reader} (options : Options) (ref : Span)

theorem shorter {r r' : Rest} (h : r.Within r') (hn : r'.chars.length < n) : r.chars.length < n :=
  Nat.lt_of_le_of_lt h.length_le hn

theorem parseArguments (h : Agree k n read read') {inside : Rest} (hn : inside.chars.length < n) :
    Expression.parseArguments read' options (ref.shift k) (inside.shift k) =
      (Expression.parseArguments read options ref inside).map (Argument.shiftAll k) :=
  AgreeOn.parseArguments shorter (h _) ref hn

theorem parseProperty (h : Agree k n read read') {body : Rest} (hn : body.chars.length < n) :
    Expression.parseProperty read' options (ref.shift k) (body.shift k) =
      (Expression.parseProperty read options ref body).map (Property.shift k) :=
  AgreeOn.parseProperty shorter (h _) ref hn

/-- The same parts of an item list `k` bytes further. -/
def shiftParts (k : Nat) (parts : List Transform × Option Expression) :
    List Transform × Option Expression :=
  (parts.1.map (Transform.shift k), parts.2.map (Expression.shift k))

theorem shiftParts_concat (k : Nat) (parts : List Transform × Option Expression) (t : Transform) :
    ((shiftParts k parts).1 ++ [t.shift k], (shiftParts k parts).2) =
      shiftParts k (parts.1 ++ [t], parts.2) := by
  simp [shiftParts]

theorem parseStage (h : Agree k n read read') {raw : RawStage} {body : Rest}
    (hraw : raw.Placed body) (hn : body.chars.length < n)
    (parts : List Transform × Option Expression) :
    Expression.parseStage read' options (ref.shift k) (shiftParts k parts) (raw.shift k) =
      (Expression.parseStage read options ref parts raw).map (shiftParts k) := by
  cases raw with
  | pattern span value =>
    have hlen := (hraw.2.trans hraw.1).length_le
    simp only [RawStage.shift, Expression.parseStage, h (listOptions options) value (by omega)]
    cases read (listOptions options) value with
    | error m => rfl
    | ok e => exact congrArg Except.ok (shiftParts_concat k parts (.pattern span e))
  | function span name arguments =>
    have hlen := (hraw.2.2.trans hraw.1).length_le
    simp only [RawStage.shift, Expression.parseStage, h.parseArguments
      (listOptions options) ref (Nat.lt_of_le_of_lt hlen hn)]
    cases Expression.parseArguments read (listOptions options) ref arguments with
    | error m => rfl
    | ok as => exact congrArg Except.ok (shiftParts_concat k parts (.function span name as))
  | separator value =>
    have hlen := Rest.Within.length_le hraw
    simp only [RawStage.shift, Expression.parseStage, h (listOptions options) value (by omega)]
    cases read (listOptions options) value <;> rfl
  | fault fault => rfl

theorem parseStages (h : Agree k n read read') {body : Rest} (hn : body.chars.length < n)
    {stages : List RawStage} (hstages : ∀ raw ∈ stages, raw.Placed body)
    (parts : List Transform × Option Expression) :
    (stages.map (RawStage.shift k)).foldlM (Expression.parseStage read' options (ref.shift k))
        (shiftParts k parts) =
      (stages.foldlM (Expression.parseStage read options ref) parts).map (shiftParts k) := by
  induction stages generalizing parts with
  | nil => rfl
  | cons raw stages ih =>
    rw [List.map_cons, List.foldlM_cons, List.foldlM_cons,
      h.parseStage options ref (hstages raw (by simp)) hn]
    cases Expression.parseStage read options ref parts raw with
    | error m => rfl
    | ok next => exact ih (fun raw hraw => hstages raw (by simp [hraw])) next

theorem parseItems (h : Agree k n read read') {body : Rest} (hn : body.chars.length < n) :
    Expression.parseItems read' options (ref.shift k) (body.shift k) =
      (Expression.parseItems read options ref body).map (ItemList.shift k) := by
  rw [Expression.parseItems, Expression.parseItems, Rest.skipBlanks_shift, Rest.name?_shift]
  rcases hname : body.skipBlanks.name? true with _ | ⟨itemType, after⟩
  · rfl
  · have hafter := (Rest.tail_of_name? hname).within.trans (Rest.tail_skipBlanks body).within
    have hstages := h.parseStages options ref hn
      (fun raw hraw => (Rest.placed_of_mem_stages hraw).trans hafter) ([], none)
    simp only [Option.map_some, Prod.map_apply, Rest.stages_shift]
    simp only [shiftParts, List.map_nil, Option.map_none] at hstages
    rw [hstages]
    cases after.stages.foldlM (Expression.parseStage read options ref) ([], none) with
    | error m => rfl
    | ok parts => exact congrArg Except.ok (ItemList.shift_mk k _ _ _ _).symm

theorem parseChunk (h : Agree k n read read') {chunk : Chunk} (hn : chunk.inside.length < n) :
    Expression.parseChunk read' options (chunk.shift k) =
      (Expression.parseChunk read options chunk).map (List.map (Segment.shift k)) := by
  cases chunk with
  | literal span => rfl
  | property span body =>
    simp only [Chunk.shift, Expression.parseChunk, h.parseProperty options span hn]
    cases Expression.parseProperty read options span body <;> rfl
  | items span body =>
    simp only [Chunk.shift, Expression.parseChunk, h.parseItems options span hn]
    cases Expression.parseItems read options span body <;> rfl
  | metadata ref => rfl
  | copied body =>
    simp only [Chunk.shift, Expression.parseChunk, h _ body hn]
    cases read { options with metadata := false } body with
    | error m => rfl
    | ok e => exact congrArg Except.ok (segments_shift k e)
  | unclosed rest => rfl

/-- A level of reading agrees on texts that are one character longer. -/
theorem parseLevel (h : Agree k n read read') :
    Agree k (n + 1) (Expression.parseLevel read) (Expression.parseLevel read') := by
  intro options r hn
  rw [Expression.parseLevel, Expression.parseLevel, Rest.chunks_shift,
    Except.mapM_map_eq fun chunk hchunk => h.parseChunk options
      (Nat.lt_of_lt_of_le (Chunk.inside_length_lt hchunk) (Nat.le_of_lt_succ hn))]
  cases (r.chunks options).mapM (Expression.parseChunk read options) with
  | error m => rfl
  | ok segments =>
    refine congrArg Except.ok ?_
    simp [Expression.shift, Segment.shiftAll_eq_map, List.map_flatten]

end Agree

/-- Readers of any depth agree on the texts that both allow for. -/
theorem agree_parseUpTo (k depth depth' : Nat) :
    Agree k (min depth depth') (parseUpTo depth) (parseUpTo depth') := by
  induction depth generalizing depth' with
  | zero => exact fun _ _ hn => absurd hn (by simp)
  | succ depth ih =>
    cases depth' with
    | zero => exact fun _ _ hn => absurd hn (by simp)
    | succ depth' =>
      rw [Nat.add_min_add_right]
      exact (ih depth').parseLevel

/-- What a text gives in another place, and at any depth that allows for it. -/
theorem parseUpTo_at (k : Nat) {depth : Nat} (options : Options) {cs : List Char}
    (h : cs.length < depth) :
    parseUpTo depth options ⟨k, cs⟩ =
      (parse options (String.ofList cs)).map (Expression.shift k) := by
  have hagree := agree_parseUpTo k (cs.length + 1) depth options ⟨0, cs⟩ (by simp only; omega)
  rw [Rest.shift, Nat.zero_add] at hagree
  rw [hagree, parse, Rest.ofText, String.length_ofList, String.toList_ofList]

/-- What a reference gives in another place, and at any depth that allows for it. -/
theorem parseChunk_shift (k : Nat) {depth depth' : Nat} (options : Options) {chunk : Chunk}
    (h : chunk.inside.length < depth) (h' : chunk.inside.length < depth') :
    parseChunk (parseUpTo depth') options (chunk.shift k) =
      (parseChunk (parseUpTo depth) options chunk).map (List.map (Segment.shift k)) :=
  (agree_parseUpTo k depth depth').parseChunk options (by omega)

end Expression

/-- Whether a text begins with plain text does not depend on where it stands. -/
theorem Chunk.front_plain_iff_zero {options : Options} {pos : Nat} {cs : List Char} :
    front options ⟨pos, cs⟩ = .plain ↔ front options ⟨0, cs⟩ = .plain := by
  have hmoved : front options ⟨0 + pos, cs⟩ = (front options ⟨0, cs⟩).shift pos :=
    front_shift pos options ⟨0, cs⟩
  rw [Nat.zero_add] at hmoved
  rw [hmoved]
  cases front options ⟨0, cs⟩ <;> simp [Front.shift]

namespace Chunk.Reads

variable {options : Options} {pos : Nat} {ref : List Char} {chunk : Chunk}

/-- A text that begins with a reference of its own length is that reference. -/
theorem of_front (h : front options ⟨pos, ref⟩ = .reference chunk ref.length) :
    Reads options pos ref chunk := by
  obtain ⟨ref', rest, hcs, hlength, hreads⟩ := reads_of_front h
  have hrest : rest = [] := by
    have := congrArg List.length hcs
    rw [List.length_append] at this
    exact List.eq_nil_of_length_eq_zero (by omega)
  rw [hcs, hrest, List.append_nil]
  exact hreads

theorem front_eq (h : Reads options pos ref chunk) :
    front options ⟨pos, ref⟩ = .reference chunk ref.length := by
  simpa using front_of_reads h []

/-- A reference is one in every place. -/
theorem shift (h : Reads options pos ref chunk) (k : Nat) :
    Reads options (pos + k) ref (chunk.shift k) := by
  refine of_front ((front_shift k options ⟨pos, ref⟩).trans ?_)
  rw [h.front_eq, Front.shift]

/-- Every reference is one that was moved from the front of a text. -/
theorem exists_shift (h : Reads options pos ref chunk) :
    ∃ first, Reads options 0 ref first ∧ chunk = first.shift pos := by
  have hmoved : front options ⟨0 + pos, ref⟩ = (front options ⟨0, ref⟩).shift pos :=
    front_shift pos options ⟨0, ref⟩
  rw [Nat.zero_add, h.front_eq] at hmoved
  cases hzero : front options ⟨0, ref⟩ with
  | reference first length =>
    rw [hzero] at hmoved
    obtain ⟨hchunk, rfl⟩ := Front.reference.inj hmoved
    exact ⟨first, of_front hzero, hchunk⟩
  | plain => rw [hzero] at hmoved; cases hmoved
  | copied body => rw [hzero] at hmoved; cases hmoved
  | unclosed => rw [hzero] at hmoved; cases hmoved

end Chunk.Reads

end BuildExpr
