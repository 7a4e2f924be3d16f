import BuildExpr.Proofs.Expression.Mentions
import BuildExpr.Proofs.Expression.Reads

/-!
# References read without metadata

Whether metadata references are requested decides what is read as plain text, but not which
properties and items a text names. A reader that reads each text without metadata when it reads it
with metadata, and finds the same names, does so for all references (`Expression.Spares`).
-/

namespace BuildExpr

/-- Steps that succeed where others do, with results that are related one by one. -/
theorem Except.exists_mapM_eq_ok {ε α β γ : Type} {f : α → Except ε β} {f' : α → Except ε γ}
    {R : β → γ → Prop} {as : List α} {bs : List β} (h : as.mapM f = .ok bs)
    (hstep : ∀ a ∈ as, ∀ b, f a = .ok b → ∃ c, f' a = .ok c ∧ R b c) :
    ∃ cs, as.mapM f' = .ok cs ∧ List.Forall₂ R bs cs := by
  induction as generalizing bs with
  | nil =>
    rw [Except.mapM_nil_eq_ok.1 h]
    exact ⟨[], rfl, .nil⟩
  | cons a as ih =>
    obtain ⟨b, more, hb, hmore, rfl⟩ := Except.mapM_cons_eq_ok.1 h
    obtain ⟨c, hc, hbc⟩ := hstep a (by simp) b hb
    obtain ⟨cs, hcs, hrel⟩ := ih hmore fun a ha => hstep a (by simp [ha])
    exact ⟨c :: cs, Except.mapM_cons_eq_ok.2 ⟨c, cs, hc, hcs, rfl⟩, .cons hbc hrel⟩

/-- The options without metadata references. -/
def Options.withoutMetadata (options : Options) : Options := { options with metadata := false }

namespace Expression

open TreeNode

/-- A reader that reads texts shorter than `n` without metadata references when it reads them with
these, and finds the same names. -/
def Spares (n : Nat) (read : Reader) : Prop :=
  ∀ options r e, r.chars.length < n → read options r = .ok e →
    ∃ e', read options.withoutMetadata r = .ok e' ∧
      (expression e).mentions = (expression e').mentions

namespace Spares

variable {n : Nat} {read : Reader} {options : Options} {ref : Span}

theorem forall₂_map {α : Type} {f : α → TreeNode} {as as' : List α}
    (h : List.Forall₂ (fun a a' => (f a).mentions = (f a').mentions) as as') :
    List.Forall₂ (fun n n' => n.mentions = n'.mentions) (as.map f) (as'.map f) :=
  List.forall₂_map_left_iff.2 (List.forall₂_map_right_iff.2 h)

theorem parseArgument (h : Spares n read) {piece : Rest} (hn : piece.chars.length < n)
    {a : Argument} (ha : Expression.parseArgument read options piece = .ok a) :
    ∃ a', Expression.parseArgument read options.withoutMetadata piece = .ok a' ∧
      (argument a).mentions = (argument a').mentions := by
  have htrimmed := (Rest.within_trimmed piece).length_le
  cases parseArgument_eq_ok.1 ha with
  | @quoted inside e whole value =>
    have hinside := (Rest.inside_of_quotedWhole? whole).within.length_le
    obtain ⟨e', he', hmentions⟩ := h _ inside e (by omega) value
    refine ⟨.quoted e', parseArgument_eq_ok.2 (.quoted whole he'), ?_⟩
    exact mentions_congr rfl (.cons hmentions .nil)
  | null whole word => exact ⟨_, parseArgument_eq_ok.2 (.null whole word), rfl⟩
  | @bare e whole word value =>
    obtain ⟨e', he', hmentions⟩ := h _ piece.trimmed e (by omega) value
    refine ⟨.bare e', parseArgument_eq_ok.2 (.bare whole word he'), ?_⟩
    exact mentions_congr rfl (.cons hmentions .nil)

theorem parseArguments (h : Spares n read) {inside : Rest} (hn : inside.chars.length < n)
    {arguments : List Argument}
    (has : Expression.parseArguments read options ref inside = .ok arguments) :
    ∃ arguments', Expression.parseArguments read options.withoutMetadata ref inside =
        .ok arguments' ∧
      List.Forall₂ (fun a a' => (argument a).mentions = (argument a').mentions) arguments
        arguments' := by
  rw [Expression.parseArguments] at has ⊢
  by_cases hblank : inside.trimmed.isEmpty = true
  · rw [if_pos hblank] at has ⊢
    obtain rfl := Except.ok.inj has
    exact ⟨[], rfl, .nil⟩
  · rw [if_neg hblank] at has ⊢
    cases hpieces : inside.splitArguments with
    | none =>
      rw [hpieces] at has
      cases has
    | some pieces =>
      rw [hpieces] at has
      refine Except.exists_mapM_eq_ok has fun piece hpiece a ha => h.parseArgument ?_ ha
      have := (Rest.within_of_mem_splitArguments hpieces hpiece).length_le
      omega

theorem parseAccess (h : Spares n read) {raw : RawAccess} {body : Rest} (hraw : raw.Placed body)
    (hn : body.chars.length < n) {a : Access}
    (ha : Expression.parseAccess read options ref raw = .ok a) :
    ∃ a', Expression.parseAccess read options.withoutMetadata ref raw = .ok a' ∧
      (access a).mentions = (access a').mentions := by
  cases raw with
  | method span name arguments =>
    have hlen := (hraw.2.2.trans hraw.1).length_le
    obtain ⟨as, has, ha⟩ := Except.bind_eq_ok.1 ha
    obtain rfl := Except.ok.inj ha
    obtain ⟨as', has', hrel⟩ := h.parseArguments (by omega) has
    refine ⟨.method span name as', Except.bind_eq_ok.2 ⟨as', has', rfl⟩, ?_⟩
    exact mentions_congr rfl (.cons rfl (forall₂_map hrel))
  | member span name => exact ⟨a, ha, rfl⟩
  | index span argument =>
    have hlen := (hraw.2.trans hraw.1).length_le
    obtain ⟨i, hi, ha⟩ := Except.bind_eq_ok.1 ha
    obtain rfl := Except.ok.inj ha
    obtain ⟨i', hi', hmentions⟩ := h.parseArgument (by omega) hi
    refine ⟨.index span i', Except.bind_eq_ok.2 ⟨i', hi', rfl⟩, ?_⟩
    exact mentions_congr rfl (.cons hmentions .nil)
  | fault fault => cases ha

theorem parseAccesses (h : Spares n read) {body after : Rest} (hafter : after.Within body)
    (hn : body.chars.length < n) {accesses : List Access}
    (has : after.accesses.mapM (Expression.parseAccess read options ref) = .ok accesses) :
    ∃ accesses', after.accesses.mapM (Expression.parseAccess read options.withoutMetadata ref) =
        .ok accesses' ∧
      List.Forall₂ (fun a a' => (access a).mentions = (access a').mentions) accesses accesses' :=
  Except.exists_mapM_eq_ok has fun _ hraw _ ha =>
    h.parseAccess ((Rest.placed_of_mem_accesses hraw).trans hafter) hn ha

theorem readsStatic (h : Spares n read) {body : Rest} (hn : body.chars.length < n) {p : Property}
    (hp : ReadsStatic read options ref body p) :
    ∃ p', ReadsStatic read options.withoutMetadata ref body p' ∧
      (property p).mentions = (property p').mentions := by
  cases hp with
  | intro group filled colons named first others =>
    obtain ⟨hplaced, hrest⟩ := Rest.placed_of_static group named
    obtain ⟨first', hfirst, hmentions⟩ := h.parseAccess hplaced hn first
    obtain ⟨others', hothers, hrel⟩ := h.parseAccesses hrest hn others
    refine ⟨_, .intro group filled colons named hfirst hothers, ?_⟩
    exact mentions_congr rfl (.cons rfl (forall₂_map (.cons hmentions hrel)))

theorem parseProperty (h : Spares n read) {body : Rest} (hn : body.chars.length < n)
    {p : Property} (hp : Expression.parseProperty read options ref body = .ok p) :
    ∃ p', Expression.parseProperty read options.withoutMetadata ref body = .ok p' ∧
      (property p).mentions = (property p').mentions := by
  have htrimmed := Rest.within_trimmed body
  simp only [parseProperty_eq_ok] at hp ⊢
  cases hp with
  | registry mark => exact ⟨_, .registry mark, rfl⟩
  | static mark type members =>
    obtain ⟨p', hp', hmentions⟩ :=
      h.readsStatic (Nat.lt_of_le_of_lt htrimmed.length_le hn) members
    exact ⟨p', .static mark type hp', hmentions⟩
  | bareRegistry mark type slash path => exact ⟨_, .bareRegistry mark type slash path, rfl⟩
  | named mark type slash members => exact ⟨_, .named mark type slash members, rfl⟩
  | chain mark type path members receiver others =>
    have hafter := (Rest.tail_of_name? receiver).within.trans htrimmed
    obtain ⟨others', hothers, hrel⟩ := h.parseAccesses hafter hn others
    refine ⟨_, .chain mark type path members receiver hothers, ?_⟩
    exact mentions_congr rfl (.cons rfl (forall₂_map hrel))

end Spares

/-- A reference to no metadata that is read with metadata is read without, and names the same. -/
theorem Spares.parseChunk {n : Nat} {read : Reader} (h : Spares n read) {options : Options}
    {pos : Nat} {ref : List Char} {chunk : Chunk}
    (hreads : Chunk.Reads options.withoutMetadata pos ref chunk) (hn : chunk.inside.length < n)
    {segments : List Segment} (hs : Expression.parseChunk read options chunk = .ok segments) :
    ∃ segments', Expression.parseChunk read options.withoutMetadata chunk = .ok segments' ∧
      allMentions (segments.map Segment.node) = allMentions (segments'.map Segment.node) := by
  cases hreads with
  | property =>
    obtain ⟨p, hp, hs⟩ := Except.bind_eq_ok.1 hs
    obtain rfl := Except.ok.inj hs
    obtain ⟨p', hp', hmentions⟩ := h.parseProperty hn hp
    exact ⟨_, Except.bind_eq_ok.2 ⟨p', hp', rfl⟩, allMentions_congr (.cons hmentions .nil)⟩
  | items =>
    -- the texts in an item list are read with metadata references in any case
    exact ⟨segments, hs, rfl⟩
  | metadata requested => cases requested

end Expression

/-! ## Fronts -/

namespace Chunk

variable {options : Options} {pos : Nat} {c : Char} {cs : List Char}

/-- Without metadata references, plain text stays plain in front of more text, but for a parenthesis
directly behind it. -/
theorem front_plain_extend (hmetadata : options.metadata = false)
    (h : front options ⟨pos, c :: cs⟩ = .plain) {rest : List Char} (hrest : rest.head? ≠ some '(') :
    front options ⟨pos, c :: (cs ++ rest)⟩ = .plain := by
  cases cs with
  | nil => exact front_plain_of_head hrest
  | cons d cs =>
    by_cases hd : d = '('
    · subst hd
      obtain ⟨hproperty, hitems⟩ := not_requested_of_front_plain h
      exact front_plain_of_not_requested hmetadata hproperty hitems
    · exact front_plain_of_head (by simpa using hd)

/-- What is plain with metadata references is plain without. -/
theorem front_plain_withoutMetadata (h : front options ⟨pos, c :: cs⟩ = .plain) :
    front options.withoutMetadata ⟨pos, c :: cs⟩ = .plain := by
  cases cs with
  | nil => exact front_plain_of_head (by simp)
  | cons d cs =>
    by_cases hd : d = '('
    · subst hd
      obtain ⟨hproperty, hitems⟩ := not_requested_of_front_plain h
      exact front_plain_of_not_requested rfl hproperty hitems
    · exact front_plain_of_head (by simpa using hd)

/-- A reference is one without metadata references too, or it is one to metadata, of characters that
begin none of the others. -/
theorem Reads.withoutMetadata {ref : List Char} {chunk : Chunk} (h : Reads options pos ref chunk) :
    Reads options.withoutMetadata pos ref chunk ∨
      (∃ m, chunk = .metadata m) ∧ ∀ c ∈ ref, c ≠ '$' ∧ c ≠ '@' := by
  cases h with
  | property requested closes => exact .inl (.property requested closes)
  | items requested closes => exact .inl (.items requested closes)
  | @metadata inside parts requested plain read =>
    refine .inr ⟨⟨_, rfl⟩, fun c hc => ?_⟩
    have hinside := MetadataRef.isRefPart_of_inner? read
    have hpart : Chars.isRefPart c = true ∨ c = '%' ∨ c = '(' ∨ c = ')' := by
      simp only [List.cons_append, List.mem_cons, List.mem_append, List.not_mem_nil, or_false] at hc
      rcases hc with hc | hc | hc | hc
      · exact .inr (.inl hc)
      · exact .inr (.inr (.inl hc))
      · exact .inl (hinside c hc)
      · exact .inr (.inr (.inr hc))
    constructor <;> rintro rfl <;> revert hpart <;> decide

end Chunk

end BuildExpr
