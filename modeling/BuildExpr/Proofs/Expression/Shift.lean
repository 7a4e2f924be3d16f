import BuildExpr.Expression.Parse
import BuildExpr.Source.Rest
import Mathlib.Data.Option.Basic

/-!
# Moving a tree

Reading looks at the characters of a text and never at its position: the steps of `Rest` taken
`k` bytes further give what they give here, moved by `k`. Each step has one lemma, named for it. A
tree moved by `k` bytes has all its spans moved by `k`. The raw parts and the chunks of a text
move with it (`accesses_shift`, `stages_shift`, `Rest.chunks_shift`), which is what reading the text in
another place comes down to.
-/

namespace BuildExpr

/-! ## Texts -/

/-- The same text `k` bytes further. -/
def Span.shift (k : Nat) (s : Span) : Span := ⟨s.start + k, s.text⟩

@[simp] theorem Span.shift_text (k : Nat) (s : Span) : (s.shift k).text = s.text := rfl

namespace Rest

/-- The same text `k` bytes further. -/
def shift (k : Nat) (r : Rest) : Rest := ⟨r.pos + k, r.chars⟩

variable (k : Nat) (r : Rest)

@[simp] theorem shift_pos : (r.shift k).pos = r.pos + k := rfl

@[simp] theorem shift_chars : (r.shift k).chars = r.chars := rfl

@[simp] theorem shift_isEmpty : (r.shift k).isEmpty = r.isEmpty := rfl

@[simp] theorem shift_peek? : (r.shift k).peek? = r.peek? := rfl

@[simp] theorem span_shift : (r.shift k).span = r.span.shift k := rfl

@[simp] theorem drop_shift (n : Nat) : (r.shift k).drop n = (r.drop n).shift k := by
  simp [drop, shift, Nat.add_right_comm]

@[simp] theorem next_shift : (r.shift k).next = r.next.shift k := drop_shift k r 1

@[simp] theorem skipBlanks_shift : (r.shift k).skipBlanks = r.skipBlanks.shift k := by
  simp [skipBlanks, shift, Nat.add_right_comm]

@[simp] theorem upTo_shift (later : Rest) :
    (r.shift k).upTo (later.shift k) = (r.upTo later).shift k := rfl

@[simp] theorem trimmed_shift : (r.shift k).trimmed = r.trimmed.shift k := by
  simp [trimmed, shift, Nat.add_right_comm]

@[simp] theorem name?_shift (dash : Bool) :
    (r.shift k).name? dash = (r.name? dash).map (Prod.map (Span.shift k) (shift k)) := by
  simp only [name?, shift_chars, shift_pos, Option.map_map]
  congr 1
  funext p
  simp [shift, Span.shift, Nat.add_right_comm]

@[simp] theorem group?_shift (opener closer : Char) :
    (r.shift k).group? opener closer =
      (r.group? opener closer).map (Prod.map (shift k) (shift k)) := by
  simp only [group?, shift_chars, shift_pos]
  split
  · rfl
  · rw [Option.map_map]
    congr 1
    funext p
    simp [shift, Nat.add_right_comm _ k]

@[simp] theorem quoted?_shift :
    (r.shift k).quoted? = r.quoted?.map (Prod.map (shift k) (shift k)) := by
  simp only [quoted?, shift_chars, shift_pos]
  split
  · rfl
  · rw [Option.map_map]
    congr 1
    funext p
    simp [shift, Nat.add_right_comm _ k]

theorem pieces_shift (pos : Nat) (pieces : List (List Char)) :
    Rest.pieces (pos + k) pieces = (Rest.pieces pos pieces).map (shift k) := by
  induction pieces generalizing pos with
  | nil => rfl
  | cons piece more ih =>
    have hpos : pos + k + Chars.byteLength piece + 1 = pos + Chars.byteLength piece + 1 + k := by
      omega
    rw [Rest.pieces, Rest.pieces, hpos, ih]
    rfl

@[simp] theorem splitArguments_shift :
    (r.shift k).splitArguments = r.splitArguments.map (List.map (shift k)) := by
  simp only [splitArguments, shift_chars, shift_pos, Option.map_map]
  congr 1
  funext pieces
  exact pieces_shift k r.pos pieces

end Rest

/-! ## Raw parts -/

/-- The same part `k` bytes further. -/
def RawAccess.shift (k : Nat) : RawAccess → RawAccess
  | .method span name arguments => .method (span.shift k) (name.shift k) (arguments.shift k)
  | .member span name => .member (span.shift k) (name.shift k)
  | .index span argument => .index (span.shift k) (argument.shift k)
  | .fault cause => .fault cause

/-- The same part `k` bytes further. -/
def RawStage.shift (k : Nat) : RawStage → RawStage
  | .pattern span value => .pattern (span.shift k) (value.shift k)
  | .function span name arguments => .function (span.shift k) (name.shift k) (arguments.shift k)
  | .separator value => .separator (value.shift k)
  | .fault cause => .fault cause

namespace Rest

variable (k : Nat) (r : Rest)

@[simp] theorem memberTail_shift (start : Rest) (name : Span) :
    memberTail (start.shift k) (name.shift k) (r.shift k) =
      Prod.map (RawAccess.shift k) (shift k) (memberTail start name r) := by
  simp only [memberTail, shift_peek?, group?_shift, upTo_shift]
  split
  · cases r.group? '(' ')' <;> rfl
  · rfl

theorem access?_shift :
    (r.shift k).access? = r.access?.map (Prod.map (RawAccess.shift k) (shift k)) := by
  simp only [access?, shift_peek?, next_shift, name?_shift, group?_shift, span_shift]
  split
  · rfl
  · cases r.next.name? false with
    | none => rfl
    | some p => simp
  · cases r.group? '[' ']' <;> rfl
  · rfl

theorem accessesUpTo_shift (fuel : Nat) :
    accessesUpTo fuel (r.shift k) = (accessesUpTo fuel r).map (RawAccess.shift k) := by
  induction fuel generalizing r with
  | zero => rfl
  | succ fuel ih =>
    rw [accessesUpTo, accessesUpTo, skipBlanks_shift, access?_shift]
    rcases r.skipBlanks.access? with _ | ⟨access, after⟩
    · rfl
    · cases access <;> simp [RawAccess.shift, ih]

@[simp] theorem accesses_shift : (r.shift k).accesses = r.accesses.map (RawAccess.shift k) :=
  accessesUpTo_shift k r _

theorem stage?_shift (separated : Bool) :
    (r.shift k).stage? separated =
      (r.stage? separated).map (Prod.map (RawStage.shift k) (shift k)) := by
  simp only [stage?, shift_chars, drop_shift, next_shift, skipBlanks_shift, shift_peek?,
    quoted?_shift, name?_shift, span_shift]
  split
  · rfl
  · split
    · cases (r.drop 2).skipBlanks.quoted? <;> rfl
    · rcases (r.drop 2).skipBlanks.name? false with _ | ⟨name, after⟩
      · rfl
      · simp only [Option.map_some, Prod.map_apply, skipBlanks_shift, shift_peek?, group?_shift]
        split
        · cases after.skipBlanks.group? '(' ')' <;> rfl
        · rfl
  · split
    · rfl
    · split
      · cases r.next.skipBlanks.quoted? <;> rfl
      · rfl
  · rfl

theorem stagesUpTo_shift (separated : Bool) (fuel : Nat) :
    stagesUpTo separated fuel (r.shift k) =
      (stagesUpTo separated fuel r).map (RawStage.shift k) := by
  induction fuel generalizing separated r with
  | zero => rfl
  | succ fuel ih =>
    rw [stagesUpTo, stagesUpTo, skipBlanks_shift, stage?_shift]
    rcases r.skipBlanks.stage? separated with _ | ⟨stage, after⟩
    · rfl
    · cases stage <;> simp [RawStage.shift, isSeparator, ih]

@[simp] theorem stages_shift : (r.shift k).stages = r.stages.map (RawStage.shift k) :=
  stagesUpTo_shift k r false _

end Rest

/-! ## Chunks -/

/-- The same reference `k` bytes further. -/
def MetadataRef.shift (k : Nat) (ref : MetadataRef) : MetadataRef :=
  ⟨ref.span.shift k, ref.itemType.map (Span.shift k), ref.name.shift k⟩

/-- The same chunk `k` bytes further. -/
def Chunk.shift (k : Nat) : Chunk → Chunk
  | .literal span => .literal (span.shift k)
  | .property span body => .property (span.shift k) (body.shift k)
  | .items span body => .items (span.shift k) (body.shift k)
  | .metadata ref => .metadata (ref.shift k)
  | .copied body => .copied (body.shift k)
  | .unclosed rest => .unclosed (rest.shift k)

/-- The same front `k` bytes further. -/
def Chunk.Front.shift (k : Nat) : Chunk.Front → Chunk.Front
  | .plain => .plain
  | .reference chunk length => .reference (chunk.shift k) length
  | .copied body => .copied (body.shift k)
  | .unclosed => .unclosed

theorem MetadataRef.read?_shift (k : Nat) (r : Rest) :
    read? (r.shift k) = (read? r).map (Prod.map (MetadataRef.shift k) (Rest.shift k)) := by
  simp only [read?, Rest.shift_chars, Rest.drop_shift, Rest.skipBlanks_shift, Rest.name?_shift]
  by_cases hopen : (r.chars.take 2 == ['%', '(']) = true
  · simp only [hopen, guard, if_true]
    rcases (r.drop 2).skipBlanks.name? true with _ | ⟨first, after⟩
    · rfl
    · by_cases hpoint : after.skipBlanks.peek? = some '.'
      · rcases hsecond : after.skipBlanks.next.skipBlanks.name? true with _ | ⟨second, last⟩
        · simp [hpoint, hsecond]
        · by_cases hclose : last.skipBlanks.peek? = some ')' <;>
            simp [hpoint, hsecond, hclose, MetadataRef.shift]
      · by_cases hclose : after.skipBlanks.peek? = some ')' <;>
          simp [hpoint, hclose, MetadataRef.shift]
  · simp only [hopen, guard]
    rfl

namespace Chunk

variable (k : Nat) (options : Options)

@[simp] theorem body?_shift (r : Rest) : body? (r.shift k) = (body? r).map (Rest.shift k) := by
  simp only [body?, Rest.next_shift, Rest.group?_shift, Option.map_map]
  rfl

theorem front_shift (r : Rest) : front options (r.shift k) = (front options r).shift k := by
  simp only [front, Rest.shift_chars, body?_shift, MetadataRef.read?_shift, Rest.drop_shift,
    Rest.upTo_shift]
  split
  · split
    · cases body? r <;> rfl
    · split
      · cases body? r <;> rfl
      · split
        · cases body? r <;> rfl
        · split
          · rcases MetadataRef.read? r with _ | ⟨ref, after⟩ <;> rfl
          · rfl
  · rfl

theorem flush_shift (start : Nat) (run : List Char) :
    flush (start + k) run = (flush start run).map (shift k) := by
  cases run <;> rfl

theorem chunksFrom_shift (start : Nat) (run : List Char) (skip pos : Nat) (cs : List Char) :
    chunksFrom options (start + k) run skip (pos + k) cs =
      (chunksFrom options start run skip pos cs).map (shift k) := by
  induction cs generalizing start run skip pos with
  | nil => exact flush_shift k start run
  | cons c cs ih =>
    have hpos : pos + k + c.utf8Size = pos + c.utf8Size + k := Nat.add_right_comm _ _ _
    cases skip with
    | succ skip =>
      rw [chunksFrom, chunksFrom, hpos, ih]
    | zero =>
      have hfront := front_shift k options ⟨pos, c :: cs⟩
      simp only [Rest.shift] at hfront
      rw [chunksFrom, chunksFrom, hfront, hpos]
      cases front options ⟨pos, c :: cs⟩ <;>
        simp [Front.shift, flush_shift, ih, shift, Span.shift]

end Chunk

@[simp] theorem Rest.chunks_shift (k : Nat) (options : Options) (r : Rest) :
    (r.shift k).chunks options = (r.chunks options).map (Chunk.shift k) :=
  Chunk.chunksFrom_shift k options r.pos [] 0 r.pos r.chars

end BuildExpr
