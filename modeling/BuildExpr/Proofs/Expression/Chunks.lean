import BuildExpr.Proofs.Expression.Metadata

/-!
# The references of a text

`Chunk.Reads` says what a reference is and which chunk it gives; `reads_of_front` and
`front_of_reads` that the front of a text is one exactly when its own characters are, whatever
follows them. `chunksFrom_induction` is the induction over a text that is cut at its references:
one case a way to go on. `forall_mem_chunks` is what it comes to for a property of each chunk.
-/

namespace BuildExpr

namespace Chars

/-- Whether a character may be the first of a reference. -/
def IsMark (c : Char) : Prop := c = '$' ∨ c = '@' ∨ c = '%'

/-- Whether a text is a mark and a group in parentheses, as every reference is. -/
def IsReference (cs : List Char) : Prop :=
  ∃ c body, IsMark c ∧ Closes '(' ')' { depth := 1 } body ∧ cs = c :: '(' :: body ++ [')']

/-- The characters of names and metadata references are neither quotes nor parentheses. -/
theorem balanced_of_isRefPart {inside : List Char} (h : ∀ c ∈ inside, isRefPart c = true) :
    Balanced inside := by
  refine .of_plain fun c hc => ⟨?_, ?_, ?_⟩
  · cases hquote : isQuote c with
    | false => rfl
    | true =>
      simp only [isQuote, Bool.or_eq_true, beq_iff_eq] at hquote
      rcases hquote with (rfl | rfl) | rfl <;> exact absurd (h _ hc) (by decide)
  · rintro rfl
    exact absurd (h _ hc) (by decide)
  · rintro rfl
    exact absurd (h _ hc) (by decide)

/-- The characters of a metadata reference need no closing of their own. -/
theorem closes_of_isRefPart {inside : List Char} (h : ∀ c ∈ inside, isRefPart c = true) :
    Closes '(' ')' { depth := 1 } inside :=
  (balanced_of_isRefPart h).closes

end Chars

namespace Chunk

/-- A reference of a requested kind and the chunk it gives at a position. -/
inductive Reads (options : Options) (pos : Nat) : List Char → Chunk → Prop
  | property {body : List Char} (requested : options.properties = true)
    (closes : Chars.Closes '(' ')' { depth := 1 } body) :
    Reads options pos ('$' :: '(' :: body ++ [')'])
      (.property ⟨pos, String.ofList ('$' :: '(' :: body ++ [')'])⟩ ⟨pos + 2, body⟩)
  | items {body : List Char} (requested : options.items = true)
    (closes : Chars.Closes '(' ')' { depth := 1 } body) :
    Reads options pos ('@' :: '(' :: body ++ [')'])
      (.items ⟨pos, String.ofList ('@' :: '(' :: body ++ [')'])⟩ ⟨pos + 2, body⟩)
  | metadata {inside : List Char} {parts : Option Span × Span}
    (requested : options.metadata = true) (plain : ')' ∉ inside)
    (read : MetadataRef.inner? ⟨pos + 2, inside⟩ = some parts) :
    Reads options pos ('%' :: '(' :: inside ++ [')'])
      (.metadata (MetadataRef.ofInner pos inside parts))

theorem Reads.ne_nil {options : Options} {pos : Nat} {ref : List Char} {chunk : Chunk}
    (h : Reads options pos ref chunk) : ref ≠ [] := by
  cases h <;> simp

theorem Reads.isReference {options : Options} {pos : Nat} {ref : List Char} {chunk : Chunk}
    (h : Reads options pos ref chunk) : Chars.IsReference ref := by
  cases h with
  | property requested closes => exact ⟨_, _, .inl rfl, closes, rfl⟩
  | items requested closes => exact ⟨_, _, .inr (.inl rfl), closes, rfl⟩
  | metadata requested plain read =>
    exact ⟨_, _, .inr (.inr rfl),
      Chars.closes_of_isRefPart fun c hc => MetadataRef.isRefPart_of_inner? read c hc, rfl⟩

/-! ## The front of a text -/

theorem group?_next (pos : Nat) (c : Char) (cs : List Char) :
    (⟨pos, c :: '(' :: cs⟩ : Rest).next.group? '(' ')' =
      (Chars.closing '(' ')' { depth := 1 } cs).map fun (inside, after) =>
        (⟨pos + c.utf8Size + 1, inside⟩,
          ⟨pos + c.utf8Size + 2 + Chars.byteLength inside, after⟩) := by
  have hopen : ('(' : Char).utf8Size = 1 := rfl
  have hclose : (')' : Char).utf8Size = 1 := rfl
  simp only [Rest.next, Rest.drop, Rest.group?, List.drop_succ_cons, List.drop_zero,
    List.take_succ_cons, List.take_zero, Chars.byteLength_cons, Chars.byteLength_nil, hopen,
    hclose]
  congr 1
  funext p
  simp only [Prod.mk.injEq, Rest.mk.injEq, and_true]
  omega

theorem body?_eq (pos : Nat) (c : Char) (cs : List Char) :
    body? ⟨pos, c :: '(' :: cs⟩ =
      (Chars.closing '(' ')' { depth := 1 } cs).map fun p => ⟨pos + c.utf8Size + 1, p.1⟩ := by
  rw [body?, group?_next, Option.map_map]
  rfl

/-- A parenthesised text and what follows it. -/
theorem eq_of_body? {pos : Nat} {c : Char} {cs : List Char} {body : Rest}
    (h : body? ⟨pos, c :: '(' :: cs⟩ = some body) :
    ∃ rest, cs = body.chars ++ ')' :: rest ∧ body.pos = pos + c.utf8Size + 1 ∧
      Chars.Closes '(' ')' { depth := 1 } body.chars := by
  rw [body?_eq] at h
  obtain ⟨⟨inside, after⟩, hclosing, rfl⟩ := Option.map_eq_some_iff.1 h
  obtain ⟨hcs, hcloses⟩ := Chars.closing_eq_some hclosing
  exact ⟨after, hcs, rfl, hcloses⟩

theorem body?_of_closes (pos : Nat) (c : Char) {body : List Char}
    (h : Chars.Closes '(' ')' { depth := 1 } body) (rest : List Char) :
    body? ⟨pos, c :: '(' :: (body ++ ')' :: rest)⟩ = some ⟨pos + c.utf8Size + 1, body⟩ := by
  rw [body?_eq, h.closing, Option.map_some]

/-- The span of a parenthesised reference. -/
theorem upTo_drop (pos : Nat) (c : Char) (body rest : List Char) :
    (⟨pos, c :: '(' :: (body ++ ')' :: rest)⟩ : Rest).upTo
        ((⟨pos, c :: '(' :: (body ++ ')' :: rest)⟩ : Rest).drop (body.length + 3)) =
      ⟨pos, String.ofList (c :: '(' :: body ++ [')'])⟩ := by
  refine Rest.upTo_eq ?_
  simp [Rest.drop, List.drop_append]

/-- What a text begins with is a reference only by the characters of the reference. -/
theorem reads_of_front {options : Options} {pos length : Nat} {cs : List Char} {chunk : Chunk}
    (h : front options ⟨pos, cs⟩ = .reference chunk length) :
    ∃ ref rest, cs = ref ++ rest ∧ ref.length = length ∧ Reads options pos ref chunk := by
  simp only [front] at h
  split at h
  · rename_i c cs'
    split at h
    · rename_i hc
      simp only [Bool.and_eq_true, beq_iff_eq] at hc
      obtain ⟨rfl, hrequested⟩ := hc
      split at h
      · rename_i body hbody
        obtain ⟨rest, rfl, hpos, hcloses⟩ := eq_of_body? hbody
        obtain ⟨bodyPos, body⟩ := body
        obtain rfl : bodyPos = pos + 2 := hpos
        rw [upTo_drop] at h
        obtain ⟨rfl, rfl⟩ := Front.reference.inj h
        exact ⟨'$' :: '(' :: body ++ [')'], rest, by simp, by simp, .property hrequested hcloses⟩
      · cases h
    · split at h
      · rename_i hc
        simp only [Bool.and_eq_true, beq_iff_eq] at hc
        obtain ⟨rfl, hrequested⟩ := hc
        split at h
        · rename_i body hbody
          obtain ⟨rest, rfl, hpos, hcloses⟩ := eq_of_body? hbody
          obtain ⟨bodyPos, body⟩ := body
          obtain rfl : bodyPos = pos + 2 := hpos
          rw [upTo_drop] at h
          obtain ⟨rfl, rfl⟩ := Front.reference.inj h
          exact ⟨'@' :: '(' :: body ++ [')'], rest, by simp, by simp, .items hrequested hcloses⟩
        · cases h
      · split at h
        · split at h <;> cases h
        · split at h
          · rename_i hc
            simp only [Bool.and_eq_true, beq_iff_eq] at hc
            split at h
            · rename_i m after hread
              obtain ⟨inside, parts, hinside, hcs, hparts, rfl, -⟩ :=
                MetadataRef.read?_eq_some hread
              obtain ⟨rfl, rfl⟩ := Front.reference.inj h
              refine ⟨'%' :: '(' :: inside ++ [')'], after.chars, by simpa using hcs, ?_,
                .metadata hc.2 hinside hparts⟩
              have hlength := congrArg List.length hcs
              simp only [List.length_append, List.length_cons, List.length_nil] at hlength ⊢
              omega
            · cases h
          · cases h
  · cases h

/-- A reference is read whatever follows it. -/
theorem front_of_reads {options : Options} {pos : Nat} {ref : List Char} {chunk : Chunk}
    (h : Reads options pos ref chunk) (rest : List Char) :
    front options ⟨pos, ref ++ rest⟩ = .reference chunk ref.length := by
  cases h with
  | @property body requested closes =>
    have hcs : ('$' :: '(' :: body ++ [')']) ++ rest = '$' :: '(' :: (body ++ ')' :: rest) := by
      simp
    have hlen : ('$' :: '(' :: body ++ [')']).length = body.length + 3 := by simp
    rw [hcs, hlen, front]
    simp only [requested, BEq.rfl, Bool.and_self, if_true, body?_of_closes pos '$' closes,
      upTo_drop]
    rfl
  | @items body requested closes =>
    have hcs : ('@' :: '(' :: body ++ [')']) ++ rest = '@' :: '(' :: (body ++ ')' :: rest) := by
      simp
    have hlen : ('@' :: '(' :: body ++ [')']).length = body.length + 3 := by simp
    rw [hcs, hlen, front]
    simp only [requested, BEq.rfl, Bool.and_self, if_true, body?_of_closes pos '@' closes,
      upTo_drop]
    rfl
  | @metadata inside parts requested plain read =>
    have hcs : ('%' :: '(' :: inside ++ [')']) ++ rest = '%' :: '(' :: inside ++ ')' :: rest := by
      simp
    have hread := MetadataRef.read?_of_close pos inside rest plain
    rw [read, Option.map_some] at hread
    have hlen : ('%' :: '(' :: inside ++ ')' :: rest).length - rest.length =
        ('%' :: '(' :: inside ++ [')']).length := by
      simp only [List.length_append, List.length_cons, List.length_nil]
      omega
    rw [hcs, front]
    simp only [List.cons_append, BEq.rfl, requested, Bool.and_self, if_true] at hread hlen ⊢
    simp only [hread, hlen]
    rfl

/-- The front of a text that is copied is an item list, where metadata is requested and item lists
are not. -/
theorem eq_of_front_copied {options : Options} {pos : Nat} {cs : List Char} {body : Rest}
    (h : front options ⟨pos, cs⟩ = .copied body) :
    options.metadata = true ∧ options.items = false ∧ body.pos = pos + 2 ∧
      Chars.Closes '(' ')' { depth := 1 } body.chars ∧
      ∃ rest, cs = '@' :: '(' :: body.chars ++ ')' :: rest := by
  simp only [front] at h
  split at h
  · rename_i c cs'
    split at h
    · split at h <;> cases h
    · split at h
      · split at h <;> cases h
      · rename_i hitems
        split at h
        · rename_i hc
          simp only [Bool.and_eq_true, beq_iff_eq] at hc
          obtain ⟨rfl, hmetadata⟩ := hc
          split at h
          · rename_i inside hbody
            obtain rfl := Front.copied.inj h
            obtain ⟨rest, rfl, hpos, hcloses⟩ := eq_of_body? hbody
            exact ⟨hmetadata, by simpa using hitems, hpos, hcloses, rest, rfl⟩
          · cases h
        · split at h
          · split at h <;> cases h
          · cases h
  · cases h

/-- An item list is copied where metadata is requested and item lists are not. -/
theorem front_copied {options : Options} (hmetadata : options.metadata = true)
    (hitems : options.items = false) {body : List Char}
    (h : Chars.Closes '(' ')' { depth := 1 } body) (pos : Nat) (rest : List Char) :
    front options ⟨pos, '@' :: '(' :: body ++ ')' :: rest⟩ = .copied ⟨pos + 2, body⟩ := by
  have hbody := body?_of_closes pos '@' h rest
  simp only [List.cons_append] at hbody ⊢
  simp only [front, hitems, hmetadata, hbody]
  rfl

/-- A requested property reference or item list is never plain text. -/
theorem not_requested_of_front_plain {options : Options} {pos : Nat} {c : Char} {cs : List Char}
    (h : front options ⟨pos, c :: '(' :: cs⟩ = .plain) :
    ¬(c = '$' ∧ options.properties = true) ∧ ¬(c = '@' ∧ options.items = true) := by
  simp only [front] at h
  split at h
  · split at h <;> cases h
  · rename_i hproperty
    split at h
    · split at h <;> cases h
    · rename_i hitems
      exact ⟨by simpa using hproperty, by simpa using hitems⟩

/-- A character that no parenthesis follows is plain text. -/
theorem front_plain_of_head {options : Options} {pos : Nat} {c : Char} {cs : List Char}
    (h : cs.head? ≠ some '(') : front options ⟨pos, c :: cs⟩ = .plain := by
  rw [front]
  split
  · rename_i heq
    obtain ⟨-, rfl⟩ := List.cons.inj heq
    exact absurd rfl h
  · rfl

/-- Without metadata references, what begins no property reference and no item list is plain. -/
theorem front_plain_of_not_requested {options : Options} {pos : Nat} {c : Char}
    {cs : List Char} (hmetadata : options.metadata = false)
    (hproperty : ¬(c = '$' ∧ options.properties = true))
    (hitems : ¬(c = '@' ∧ options.items = true)) : front options ⟨pos, c :: cs⟩ = .plain := by
  unfold front
  split
  · rename_i heq
    obtain ⟨rfl, -⟩ := List.cons.inj heq
    simp [hproperty, hitems, hmetadata]
  · rfl

/-- A character that begins no reference is plain text. -/
theorem front_plain_of_ne {options : Options} {pos : Nat} {c : Char} {cs : List Char}
    (hproperty : c ≠ '$') (hitems : c ≠ '@') (hmetadata : c ≠ '%') :
    front options ⟨pos, c :: cs⟩ = .plain := by
  rw [front]
  split
  · rename_i heq
    obtain ⟨rfl, -⟩ := List.cons.inj heq
    simp [hproperty, hitems, hmetadata]
  · rfl

/-- Where no item list is copied as text, plain text stays plain with a `;` behind the text. -/
theorem front_plain_append {options : Options}
    (hoptions : options.items = true ∨ options.metadata = false) {pos : Nat} {c : Char}
    {cs : List Char} (h : front options ⟨pos, c :: cs⟩ = .plain) (rest : List Char) :
    front options ⟨pos, c :: (cs ++ ';' :: rest)⟩ = .plain := by
  cases cs with
  | nil => exact front_plain_of_head (by simp)
  | cons d cs =>
    by_cases hd : d = '('
    · subst hd
      obtain ⟨hproperty, hitems⟩ := not_requested_of_front_plain h
      by_cases hmetadata : c = '%' ∧ options.metadata = true
      · obtain ⟨rfl, hmetadata⟩ := hmetadata
        have hread : MetadataRef.read? ⟨pos, '%' :: '(' :: cs⟩ = none := by
          simp only [front, hmetadata] at h
          cases hread : MetadataRef.read? ⟨pos, '%' :: '(' :: cs⟩ with
          | none => rfl
          | some p => simp [hread] at h
        have hmore := MetadataRef.read?_append_eq_none hread rest
        simp only [List.cons_append] at hmore ⊢
        simp [front, hmore]
      · have hcopied : ¬(c = '@' ∧ options.metadata = true) := fun hc =>
          hoptions.elim (fun hi => hitems ⟨hc.1, hi⟩) fun hm => by simp [hc.2] at hm
        simp [front, hproperty, hitems, hcopied, hmetadata]
    · exact front_plain_of_head (by simpa using hd)

/-! ## Going on after a reference -/

/-- Nothing is read of a text that belongs to a reference that was already read. -/
theorem chunksFrom_skip (options : Options) (pos : Nat) (ref rest : List Char) :
    chunksFrom options pos [] ref.length pos (ref ++ rest) =
      chunksFrom options (pos + Chars.byteLength ref) [] 0 (pos + Chars.byteLength ref) rest := by
  induction ref generalizing pos with
  | nil => simp
  | cons c ref ih =>
    rw [List.cons_append, List.length_cons, chunksFrom, ih, Chars.byteLength_cons, Nat.add_assoc]

theorem chunksFrom_plain {options : Options} {start pos : Nat} {run : List Char} {c : Char}
    {cs : List Char} (h : front options ⟨pos, c :: cs⟩ = .plain) :
    chunksFrom options start run 0 pos (c :: cs) =
      chunksFrom options start (c :: run) 0 (pos + c.utf8Size) cs := by
  rw [chunksFrom]
  simp only [h]

/-- A text in which nothing begins is one run of plain text. -/
theorem chunksFrom_of_plain {options : Options} {cs : List Char}
    (h : ∀ pos c ds, c :: ds <:+ cs → front options ⟨pos, c :: ds⟩ = .plain) (start : Nat)
    (run : List Char) (pos : Nat) :
    chunksFrom options start run 0 pos cs = flush start (cs.reverse ++ run) := by
  induction cs generalizing run pos with
  | nil => rfl
  | cons c cs ih =>
    have hmore : ∀ pos d ds, d :: ds <:+ cs → front options ⟨pos, d :: ds⟩ = .plain :=
      fun pos d ds hds => h pos d ds (hds.trans (List.suffix_cons c cs))
    rw [chunksFrom_plain (h pos c cs List.suffix_rfl), ih hmore]
    simp

theorem chunksFrom_reference {options : Options} {start pos : Nat} {run ref : List Char}
    {chunk : Chunk} (h : Reads options pos ref chunk) (rest : List Char) :
    chunksFrom options start run 0 pos (ref ++ rest) =
      flush start run ++ chunk ::
        chunksFrom options (pos + Chars.byteLength ref) [] 0 (pos + Chars.byteLength ref)
          rest := by
  have hfront := front_of_reads h rest
  cases ref with
  | nil => exact absurd rfl h.ne_nil
  | cons c ref =>
    rw [List.cons_append] at hfront ⊢
    rw [chunksFrom]
    simp only [hfront, List.length_cons, Nat.add_sub_cancel]
    rw [chunksFrom_skip, Chars.byteLength_cons, Nat.add_assoc]

theorem chunksFrom_copied {options : Options} {start pos : Nat} {run body rest : List Char}
    (h : front options ⟨pos, '@' :: '(' :: body ++ ')' :: rest⟩ = .copied ⟨pos + 2, body⟩) :
    chunksFrom options start run 0 pos ('@' :: '(' :: body ++ ')' :: rest) =
      flush start ('(' :: '@' :: run) ++ .copied ⟨pos + 2, body⟩ ::
        chunksFrom options (pos + 2 + Chars.byteLength body) []
          0 (pos + 2 + Chars.byteLength body) (')' :: rest) := by
  rw [List.cons_append] at h ⊢
  have hskip := chunksFrom_skip options (pos + 1) ('(' :: body) (')' :: rest)
  have hsize : ('@' : Char).utf8Size = 1 := rfl
  have hopen : ('(' : Char).utf8Size = 1 := rfl
  rw [chunksFrom]
  simp only [h, hsize]
  rw [Chars.byteLength_cons, hopen, ← Nat.add_assoc, List.length_cons] at hskip
  rw [hskip]

/-- Induction over the chunks of a text: the run of plain text before it, `run` in reverse, begins
at `start`. -/
theorem chunksFrom_induction (options : Options)
    {motive : Nat → List Char → Nat → List Char → List Chunk → Prop}
    (nil : ∀ start run pos, motive start run pos [] (flush start run))
    (plain : ∀ start run pos c cs chunks, front options ⟨pos, c :: cs⟩ = .plain →
      motive start (c :: run) (pos + c.utf8Size) cs chunks → motive start run pos (c :: cs) chunks)
    (reference : ∀ start run pos ref rest chunk chunks, Reads options pos ref chunk →
      motive (pos + Chars.byteLength ref) [] (pos + Chars.byteLength ref) rest chunks →
      motive start run pos (ref ++ rest) (flush start run ++ chunk :: chunks))
    (copied : ∀ start run pos body rest chunks, options.metadata = true → options.items = false →
      Chars.Closes '(' ')' { depth := 1 } body →
      motive (pos + 2 + Chars.byteLength body) [] (pos + 2 + Chars.byteLength body) (')' :: rest)
        chunks →
      motive start run pos ('@' :: '(' :: body ++ ')' :: rest)
        (flush start ('(' :: '@' :: run) ++ .copied ⟨pos + 2, body⟩ :: chunks))
    (unclosed : ∀ start run pos c cs, front options ⟨pos, c :: cs⟩ = .unclosed →
      motive start run pos (c :: cs)
        (flush start run ++ [.unclosed ⟨pos, String.ofList (c :: cs)⟩]))
    (start : Nat) (run : List Char) (pos : Nat) (cs : List Char) :
    motive start run pos cs (chunksFrom options start run 0 pos cs) := by
  induction hn : cs.length using Nat.strongRecOn generalizing start run pos cs with
  | ind n ih =>
  cases cs with
  | nil => exact nil start run pos
  | cons c cs =>
    cases hfront : front options ⟨pos, c :: cs⟩ with
    | plain =>
      rw [chunksFrom_plain hfront]
      exact plain _ _ _ _ _ _ hfront (ih cs.length (by simp [← hn]) _ _ _ _ rfl)
    | reference chunk length =>
      obtain ⟨ref, rest, hcs, -, hreads⟩ := reads_of_front hfront
      have hshorter : rest.length < n := by
        have := List.length_pos_iff.2 hreads.ne_nil
        rw [← hn, hcs, List.length_append]
        omega
      rw [hcs, chunksFrom_reference hreads rest]
      exact reference _ _ _ _ _ _ _ hreads (ih _ hshorter _ _ _ _ rfl)
    | copied body =>
      obtain ⟨hmetadata, hitems, hpos, hcloses, rest, hcs⟩ := eq_of_front_copied hfront
      obtain ⟨bodyPos, body⟩ := body
      obtain rfl : bodyPos = pos + 2 := hpos
      have hshorter : (')' :: rest).length < n := by
        rw [← hn, hcs]
        simp only [List.length_append, List.length_cons]
        omega
      rw [hcs] at hfront ⊢
      rw [chunksFrom_copied hfront]
      exact copied _ _ _ _ _ _ hmetadata hitems hcloses (ih _ hshorter _ _ _ _ rfl)
    | unclosed =>
      rw [chunksFrom]
      simp only [hfront]
      exact unclosed _ _ _ _ _ hfront

/-- A run of plain text is one chunk at most. -/
theorem exists_of_mem_flush {start : Nat} {run : List Char} {chunk : Chunk}
    (h : chunk ∈ flush start run) : ∃ span, chunk = .literal span := by
  cases run with
  | nil => cases h
  | cons c run => exact ⟨_, List.mem_singleton.1 h⟩

/-- What holds of plain text, of references that are read, of texts that are copied and of
references that do not end holds of all chunks of a text. -/
theorem forall_mem_chunks {options : Options} {p : Chunk → Prop}
    (literal : ∀ span, p (.literal span))
    (reference : ∀ pos ref chunk, Reads options pos ref chunk → p chunk)
    (copied : ∀ body, p (.copied body))
    (unclosed : ∀ pos cs, front options ⟨pos, cs⟩ = .unclosed →
      p (.unclosed ⟨pos, String.ofList cs⟩))
    (r : Rest) : ∀ chunk ∈ r.chunks options, p chunk := by
  have hflush (start : Nat) (run : List Char) : ∀ chunk ∈ flush start run, p chunk := by
    intro chunk h
    obtain ⟨span, rfl⟩ := exists_of_mem_flush h
    exact literal span
  refine chunksFrom_induction options (motive := fun _ _ _ _ chunks => ∀ chunk ∈ chunks, p chunk)
    ?nil ?plain ?reference ?copied ?unclosed r.pos [] r.pos r.chars
  case nil => exact fun start run _ => hflush start run
  case plain => exact fun _ _ _ _ _ _ _ ih => ih
  case reference =>
    intro start run pos ref rest chunk chunks hreads ih
    exact List.forall_mem_append.2
      ⟨hflush start run, List.forall_mem_cons.2 ⟨reference pos ref chunk hreads, ih⟩⟩
  case copied =>
    intro start run pos body rest chunks _ _ _ ih
    exact List.forall_mem_append.2
      ⟨hflush start _, List.forall_mem_cons.2 ⟨copied _, ih⟩⟩
  case unclosed =>
    intro start run pos c cs hfront
    exact List.forall_mem_append.2
      ⟨hflush start run, List.forall_mem_singleton.2 (unclosed pos (c :: cs) hfront)⟩

end Chunk

end BuildExpr
