import BuildExpr.Proofs.Expression.Chunks
import BuildExpr.Proofs.Expression.Reads

/-!
# What a fault is blamed on

A text that is not well formed is reported with the reference that the fault is in, or with the rest
of the text from a parenthesis on that is not closed. Either is a part of the text: the chunks of a
text lie in it (`Chunk.placed_of_mem_chunks`), so do the texts nested in them, and a fault further
down is that of one of these (`Expression.blames_parseUpTo`).
-/

namespace BuildExpr

/-! ## Where chunks lie -/

/-- A chunk that lies within a text with the text inside it. -/
def Chunk.Placed (r : Rest) : Chunk → Prop
  | property span body | items span body => span.toRest.Within r ∧ body.Within r
  | copied body => body.Within r
  | unclosed rest => rest.toRest.Within r
  | literal _ | metadata _ => True

namespace Chunk

theorem Placed.trans {chunk : Chunk} {r outer : Rest} (h : chunk.Placed r) (hr : r.Within outer) :
    chunk.Placed outer := by
  cases chunk with
  | property span body => exact ⟨h.1.trans hr, h.2.trans hr⟩
  | items span body => exact ⟨h.1.trans hr, h.2.trans hr⟩
  | copied body => exact Rest.Within.trans h hr
  | unclosed rest => exact Rest.Within.trans h hr
  | literal span => trivial
  | metadata ref => trivial

theorem Placed.of_tail {chunk : Chunk} {pos : Nat} (front : List Char) {rest : List Char}
    (h : chunk.Placed ⟨pos + Chars.byteLength front, rest⟩) : chunk.Placed ⟨pos, front ++ rest⟩ :=
  h.trans (Rest.Tail.within ⟨front, rfl, rfl⟩)

theorem placed_of_mem_flush {r : Rest} {start : Nat} {run : List Char} {chunk : Chunk}
    (h : chunk ∈ flush start run) : chunk.Placed r := by
  obtain ⟨span, rfl⟩ := exists_of_mem_flush h
  trivial

theorem Reads.placed {options : Options} {pos : Nat} {ref : List Char} {chunk : Chunk}
    (h : Reads options pos ref chunk) (rest : List Char) : chunk.Placed ⟨pos, ref ++ rest⟩ := by
  have hinside (mark : Char) (hmark : mark.utf8Size = 1) (body : List Char) :
      (⟨pos + 2, body⟩ : Rest).Within ⟨pos, (mark :: '(' :: body ++ [')']) ++ rest⟩ := by
    have hopen : ('(' : Char).utf8Size = 1 := rfl
    exact ⟨[mark, '('], ')' :: rest, by simp, by simp [Chars.byteLength_cons, hmark, hopen]⟩
  have hwhole (cs : List Char) :
      (⟨pos, String.ofList cs⟩ : Span).toRest.Within ⟨pos, cs ++ rest⟩ := by
    rw [Span.toRest_mk]
    exact ⟨[], rest, by simp, by simp⟩
  cases h with
  | property _ _ => exact ⟨hwhole _, hinside '$' rfl _⟩
  | items _ _ => exact ⟨hwhole _, hinside '@' rfl _⟩
  | metadata _ _ _ => trivial

/-- The chunks of a text lie within it. -/
theorem placed_of_mem_chunks {options : Options} {r : Rest} :
    ∀ chunk ∈ r.chunks options, chunk.Placed r := by
  refine chunksFrom_induction options
    (motive := fun _ _ pos cs chunks => ∀ chunk ∈ chunks, chunk.Placed ⟨pos, cs⟩)
    ?nil ?plain ?reference ?copied ?unclosed r.pos [] r.pos r.chars
  case nil => exact fun _ _ _ _ hmem => placed_of_mem_flush hmem
  case plain =>
    intro start run pos c cs chunks _ ih chunk hmem
    exact Placed.of_tail [c] (by simpa using ih chunk hmem)
  case reference =>
    intro start run pos ref rest chunk chunks hreads ih c hmem
    rcases List.mem_append.1 hmem with hmem | hmem
    · exact placed_of_mem_flush hmem
    · rcases List.mem_cons.1 hmem with rfl | hmem
      · exact hreads.placed rest
      · exact .of_tail ref (ih c hmem)
  case copied =>
    intro start run pos body rest chunks _ _ _ ih c hmem
    have hopening : Chars.byteLength ['@', '('] = 2 := rfl
    rcases List.mem_append.1 hmem with hmem | hmem
    · exact placed_of_mem_flush hmem
    · rcases List.mem_cons.1 hmem with rfl | hmem
      · exact ⟨['@', '('], ')' :: rest, by simp, by simp [hopening]⟩
      · refine Placed.of_tail ('@' :: '(' :: body) ?_
        have hlength : Chars.byteLength ('@' :: '(' :: body) = 2 + Chars.byteLength body :=
          Chars.byteLength_append ['@', '('] body
        rw [hlength, ← Nat.add_assoc]
        exact ih c hmem
  case unclosed =>
    intro start run pos c cs _ chunk hmem
    rcases List.mem_append.1 hmem with hmem | hmem
    · exact placed_of_mem_flush hmem
    · obtain rfl := List.mem_singleton.1 hmem
      show (⟨pos, String.ofList (c :: cs)⟩ : Span).toRest.Within ⟨pos, c :: cs⟩
      rw [Span.toRest_mk]
      exact .refl _

end Chunk

/-! ## Readers -/

namespace Expression

/-- A reader whose faults are those of parts of the text. -/
def Blames (read : Reader) : Prop :=
  ∀ options r, Except.Reports (fun m => m.expression.toList <:+: r.chars) (read options r)

/-- The faults of the texts nested in a body, and of the reference around it. -/
structure Faults (read : Reader) (ref : Span) (body : Rest) (p : Malformed → Prop) : Prop where
  here (fault : SyntaxFault) : p ⟨ref.text, fault⟩
  nested (options : Options) {r : Rest} : r.Within body → Except.Reports p (read options r)

namespace Faults

variable {read : Reader} {ref : Span} {body : Rest} {p : Malformed → Prop} {options : Options}

theorem fail {α : Type} (h : Faults read ref body p) (fault : SyntaxFault) :
    Except.Reports p (ref.fail fault : Except Malformed α) :=
  .error (h.here fault)

theorem parseArgument (h : Faults read ref body p) {piece : Rest} (hpiece : piece.Within body) :
    Except.Reports p (Expression.parseArgument read options piece) := by
  have htrimmed := (Rest.within_trimmed piece).trans hpiece
  simp only [Expression.parseArgument]
  split
  · rename_i inside hinside
    have hwithin := (Rest.inside_of_quotedWhole? hinside).within.trans htrimmed
    exact .bind (h.nested _ hwithin) fun _ => .ok _
  · split
    · exact .ok _
    · exact .bind (h.nested _ htrimmed) fun _ => .ok _

theorem parseArguments (h : Faults read ref body p) {inside : Rest} (hinside : inside.Within body) :
    Except.Reports p (Expression.parseArguments read options ref inside) := by
  rw [Expression.parseArguments]
  split
  · exact .ok _
  · split
    · exact h.fail _
    · rename_i pieces hpieces
      refine .mapM fun piece hpiece => h.parseArgument ?_
      exact (Rest.within_of_mem_splitArguments hpieces hpiece).trans hinside

theorem parseAccess (h : Faults read ref body p) {raw : RawAccess} (hraw : raw.Placed body) :
    Except.Reports p (Expression.parseAccess read options ref raw) := by
  cases raw with
  | method span name arguments =>
    exact .bind (h.parseArguments (hraw.2.2.trans hraw.1)) fun _ => .ok _
  | member span name => exact .ok _
  | index span index => exact .bind (h.parseArgument (hraw.2.trans hraw.1)) fun _ => .ok _
  | fault fault => exact h.fail fault

theorem parseAccesses (h : Faults read ref body p) {after : Rest} (hafter : after.Within body) :
    Except.Reports p (after.accesses.mapM (Expression.parseAccess read options ref)) :=
  .mapM fun _ hraw => h.parseAccess ((Rest.placed_of_mem_accesses hraw).trans hafter)

theorem parseStatic (h : Faults read ref body p) {text : Rest} (htext : text.Within body) :
    Except.Reports p (Expression.parseStatic read options ref text) := by
  rw [Expression.parseStatic]
  split
  · exact h.fail _
  · rename_i type after hgroup
    split
    · exact h.fail _
    · dsimp only
      split
      · exact h.fail _
      · split
        · exact h.fail _
        · rename_i name last hname
          obtain ⟨hplaced, hrest⟩ := Rest.placed_of_static hgroup hname
          exact .bind (h.parseAccess (hplaced.trans htext)) fun _ =>
            .bind (h.parseAccesses (hrest.trans htext)) fun _ => .ok _

theorem parseProperty (h : Faults read ref body p) :
    Except.Reports p (Expression.parseProperty read options ref body) := by
  have htrimmed := Rest.within_trimmed body
  simp only [Expression.parseProperty]
  split
  · exact .ok _
  · split
    · exact h.parseStatic htrimmed
    · split
      · exact .ok _
      · split
        · split
          · exact h.fail _
          · exact .ok _
        · split
          · exact h.fail _
          · rename_i name after hname
            have hafter := (Rest.tail_of_name? hname).within.trans htrimmed
            exact .bind (h.parseAccesses hafter) fun _ => .ok _

theorem parseStage (h : Faults read ref body p) {raw : RawStage} (hraw : raw.Placed body)
    (parts : List Transform × Option Expression) :
    Except.Reports p (Expression.parseStage read options ref parts raw) := by
  cases raw with
  | pattern span value => exact .bind (h.nested _ (hraw.2.trans hraw.1)) fun _ => .ok _
  | function span name arguments =>
    exact .bind (h.parseArguments (hraw.2.2.trans hraw.1)) fun _ => .ok _
  | separator value => exact .bind (h.nested _ hraw) fun _ => .ok _
  | fault fault => exact h.fail fault

theorem parseItems (h : Faults read ref body p) :
    Except.Reports p (Expression.parseItems read options ref body) := by
  rw [Expression.parseItems]
  split
  · exact h.fail _
  · rename_i itemType after hname
    have hafter : after.Within body :=
      (Rest.tail_of_name? hname).within.trans (Rest.tail_skipBlanks body).within
    refine .bind (.foldlM (fun parts raw hraw => ?_) _) fun _ => .ok _
    exact h.parseStage ((Rest.placed_of_mem_stages hraw).trans hafter) parts

end Faults

namespace Blames

variable {read : Reader} {options : Options}

/-- The faults inside a reference are those of parts of the text around it. -/
theorem faults (hread : Blames read) {ref : Span} {body r : Rest} (href : ref.toRest.Within r)
    (hbody : body.Within r) : Faults read ref body fun m => m.expression.toList <:+: r.chars where
  here _ := href.isInfix
  nested options _ hr := (hread options _).mono fun _ hm => hm.trans (hr.trans hbody).isInfix

theorem parseChunk (hread : Blames read) {r : Rest} {chunk : Chunk} (hchunk : chunk.Placed r) :
    Except.Reports (fun m => m.expression.toList <:+: r.chars)
      (Expression.parseChunk read options chunk) := by
  cases chunk with
  | literal span => exact .ok _
  | property span body => exact .bind (hread.faults hchunk.1 hchunk.2).parseProperty fun _ => .ok _
  | items span body => exact .bind (hread.faults hchunk.1 hchunk.2).parseItems fun _ => .ok _
  | metadata ref => exact .ok _
  | copied body =>
    refine .bind ((hread _ body).mono fun _ hm => ?_) fun _ => .ok _
    exact hm.trans (Rest.Within.isInfix hchunk)
  | unclosed rest => exact .error (Rest.Within.isInfix hchunk)

theorem parseLevel (hread : Blames read) : Blames (Expression.parseLevel read) := by
  intro options r
  refine .bind (.mapM fun chunk hchunk => ?_) fun _ => .ok _
  exact hread.parseChunk (Chunk.placed_of_mem_chunks chunk hchunk)

end Blames

/-- Every fault is that of a part of the text. -/
theorem blames_parseUpTo (depth : Nat) : Blames (parseUpTo depth) := by
  induction depth with
  | zero => exact fun _ _ => .ok _
  | succ depth ih => exact ih.parseLevel

theorem infix_of_parse {options : Options} {text : String} {m : Malformed}
    (h : Expression.parse options text = .error m) : m.expression.toList <:+: text.toList :=
  blames_parseUpTo _ options _ m h

end Expression

end BuildExpr
