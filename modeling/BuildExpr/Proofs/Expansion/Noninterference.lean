import BuildExpr.Proofs.Evaluation.Relookup
import BuildExpr.Proofs.Evaluation.TokenMentions
import BuildExpr.Proofs.Expansion.Cuts
import BuildExpr.Proofs.Expansion.Items
import BuildExpr.Proofs.Expansion.Modes

/-!
# What an expansion depends on

An expansion looks at its lookup for the properties and items that its text names and for the
metadata item, so it is the same under every other lookup that agrees on those
(`Expander.run_of_named`). Where a text is expanded piece by piece, the pieces need not be cut
between its references, and a piece that is cut off inside of one is read differently than in the
text. But such a piece is not read at all, and ends the expansion: pieces that are read consist of
the first tokens of the text (`Token.Readable.exists_append`), so they name nothing that the text
does not name (`Expander.mentions_subset_of_mem_trees`).
-/

namespace BuildExpr

open TreeNode

/-- The pieces of a text with a `;` between them are the text. -/
theorem Cutter.intercalate_splitOutside (s : Cutter) (piece cs : List Char) :
    [';'].intercalate (Chars.splitOutside s.depth s.quote piece cs) = piece.reverse ++ cs := by
  induction cs generalizing s piece with
  | nil => simp [Chars.splitOutside]
  | cons c cs ih =>
    rw [splitOutside_cons]
    split
    · rename_i hcut
      obtain ⟨-, rfl⟩ := cuts_iff.1 hcut
      obtain ⟨next, more, hmore⟩ :=
        List.exists_cons_of_ne_nil (splitOutside_ne_nil (s.step ';') [] cs)
      have hrest := ih (s.step ';') []
      rw [hmore] at hrest ⊢
      rw [List.intercalate_cons_cons, hrest]
      simp
    · rw [ih]
      simp

/-! ## Tokens of pieces -/

namespace Token

variable {options : Options}

theorem not_requested_of_blank {cs : List Char} (h : Chars.Blank cs) :
    ∀ c ∈ cs, ¬(c = '$' ∧ options.properties = true) ∧ ¬(c = '@' ∧ options.items = true) := by
  intro c hc
  have hblank := h c hc
  constructor <;> rintro ⟨rfl, -⟩ <;> revert hblank <;> decide

/-- A text that is read when it is trimmed consists of tokens. -/
theorem exists_of_trim {cs : List Char} {e : Expression}
    (he : Expression.parse options (String.ofList (Chars.trim cs)) = .ok e) :
    ∃ xs, textAll xs = cs ∧ Readable options.withoutMetadata xs ∧
      (expression e).mentions = mentions xs := by
  obtain ⟨ws, us, hws, hus, hcs⟩ := Chars.exists_trim cs
  obtain ⟨inner, htext, hinner, hmentions⟩ := exists_withoutMetadata he
  have hback : Readable options.withoutMetadata (us.map char) := by
    simpa using Readable.nil.chars_append rfl (not_requested_of_blank hus)
  have hhead : (textAll (us.map char)).head? ≠ some '(' := by
    rw [textAll_map_char]
    intro h
    have := hus '(' (List.mem_of_mem_head? h)
    revert this
    decide
  have hboth := hinner.append_of_head rfl hback hhead
  refine ⟨ws.map char ++ (inner ++ us.map char), ?_, ?_, ?_⟩
  · rw [String.toList_ofList] at htext
    rw [textAll_append, textAll_append, textAll_map_char, textAll_map_char, htext,
      ← List.append_assoc]
    exact hcs.symm
  · exact hboth.chars_append rfl (not_requested_of_blank hws)
  · simp [hmentions]

end Token

/-! ## Trees of pieces -/

namespace Expander

variable {options : Options}

/-- Trees of pieces are only there if the first of these is read. It is one of the trees, unless it
is blank. -/
theorem exists_of_mem_trees {cs : List Char} {css : List (List Char)} {e' : Expression}
    (h : e' ∈ trees options (piecesOf (cs :: css))) :
    ∃ e, Expression.parse options (String.ofList (Chars.trim cs)) = .ok e ∧
      (e' = e ∨ e' ∈ trees options (piecesOf css)) := by
  rw [piecesOf_cons] at h
  split at h
  · rename_i hblank
    rw [List.isEmpty_iff.1 hblank]
    exact ⟨_, rfl, .inr h⟩
  · rw [trees] at h
    split at h
    · rename_i e he
      exact ⟨e, he, List.mem_cons.1 h⟩
    · cases h

/-- The trees of the pieces of a text of tokens name what the tokens name. -/
theorem mentions_subset_of_mem_pieces {ts : List Token}
    (hts : Token.Readable options.withoutMetadata ts) {cs : List Char} {css : List (List Char)}
    (htext : Token.textAll ts = [';'].intercalate (cs :: css)) :
    ∀ e ∈ trees options (piecesOf (cs :: css)), (expression e).mentions ⊆ Token.mentions ts := by
  induction css generalizing cs ts with
  | nil =>
    intro e' he'
    obtain ⟨e, he, rfl | hnil⟩ := exists_of_mem_trees he'
    · obtain ⟨xs, rfl, hxs, hmentions⟩ := Token.exists_of_trim he
      rw [List.intercalate_singleton, ← List.append_nil (Token.textAll xs)] at htext
      obtain ⟨ys, rfl, -, -⟩ := hxs.exists_append rfl hts htext (by simp)
      rw [hmentions, Token.mentions_append]
      exact Set.subset_union_left
    · cases hnil
  | cons next css ih =>
    intro e' he'
    obtain ⟨e, he, hcase⟩ := exists_of_mem_trees he'
    obtain ⟨xs, rfl, hxs, hmentions⟩ := Token.exists_of_trim he
    rw [List.intercalate_cons_cons, List.append_assoc] at htext
    obtain ⟨ys, rfl, hys, hbehind⟩ := hxs.exists_append rfl hts htext (by simp)
    obtain ⟨zs, rfl, hzs, hrest⟩ := hys.exists_char hbehind
      (Chunk.front_plain_of_ne (by decide) (by decide) (by decide))
    rw [Token.mentions_append, Token.mentions_char]
    rcases hcase with rfl | hmore
    · rw [hmentions]
      exact Set.subset_union_left
    · exact (ih hzs hrest e' hmore).trans Set.subset_union_right

/-- The trees that a text is read as in any way of expansion name what the tree of the whole text
names. -/
theorem mentions_subset_of_mem_trees {text : String} {e : Expression}
    (he : Expression.parse options text = .ok e) (mode : Mode) :
    ∀ e' ∈ mode.trees options text, (expression e').mentions ⊆ (expression e).mentions := by
  have hwhole : ∀ e' ∈ trees options [text],
      (expression e').mentions ⊆ (expression e).mentions := by
    intro e' he'
    rw [← Except.ok.inj (he.symm.trans (mem_trees_singleton.1 he'))]
  have hpieces : ∀ e' ∈ trees options (pieces text),
      (expression e').mentions ⊆ (expression e).mentions := by
    obtain ⟨ts, htext, hts, hmentions⟩ := Token.exists_withoutMetadata he
    obtain ⟨first, rest, hcut⟩ :=
      List.exists_cons_of_ne_nil (Cutter.splitOutside_ne_nil {} [] text.toList)
    have hjoined := Cutter.intercalate_splitOutside {} [] text.toList
    rw [hcut, List.reverse_nil, List.nil_append, ← htext] at hjoined
    rw [pieces_eq, show Chars.splitOutside 0 none [] text.toList = first :: rest from hcut,
      hmentions]
    exact mentions_subset_of_mem_pieces hts hjoined.symm
  cases mode with
  | items factory => exact hpieces
  | text => exact hwhole
  | escaped => exact hwhole
  | list => exact hwhole
  | typed => exact hwhole

/-! ## Two lookups -/

/-- What a text names: what its tree names. A text that is not read as a whole can still be expanded
piece by piece up to the first piece that is not read, so it names what the trees of these pieces
name. -/
def named (options : Options) (text : String) : Set Mention :=
  match Expression.parse options text with
  | .ok e => (expression e).mentions
  | .error _ => allMentions ((trees options (pieces text)).map expression)

theorem mentions_subset_named {text : String} (mode : Mode) :
    ∀ e ∈ mode.trees options text, (expression e).mentions ⊆ named options text := by
  intro e he
  unfold named
  split
  · rename_i whole hwhole
    exact mentions_subset_of_mem_trees hwhole mode e he
  · rename_i m hfault
    have hnone : trees options [text] = [] := by rw [trees, hfault]
    cases mode with
    | items factory => exact fun m hm => ⟨expression e, List.mem_map_of_mem he, hm⟩
    | _ => exact absurd (show e ∈ trees options [text] from he) (by simp [hnone])

/-- Trees of nodes for which two lookups agree evaluate to the same under both. -/
theorem related_lookups (x : Expander) {lookup lookup' : Lookup}
    (h : lookup.metadataItem = lookup'.metadataItem) :
    x.Related (fun _ f f' => f = f') (fun n => ∀ m, n.mention? = some m → lookup.Agree lookup' m)
      options lookup lookup' x where
  pure _ := rfl
  bind hf hg := by rw [hf, funext hg]
  throw _ := rfl
  location := rfl
  definingProject := rfl
  setting w := Setting.related_withLookup (s := x.setting options lookup' w) h
  eval hf := by
    unfold eval
    simp only [hf]

/-- An expansion depends only on what its text names: under two lookups with the same properties and
items of what it names and the same metadata item, it has the same result, fails with the same
report and leaves the same surroundings, in every way to expand it. -/
theorem run_of_named (x : Expander) (text : String) (options : Options) {lookup lookup' : Lookup}
    (hproperty : ∀ name, .property name ∈ named options text →
      lookup.property? name = lookup'.property? name)
    (hitems : ∀ itemType, .items itemType ∈ named options text →
      lookup.items itemType = lookup'.items itemType)
    (hmetadata : lookup.metadataItem = lookup'.metadataItem) (mode : Mode) :
    x.run text options lookup mode = x.run text options lookup' mode := by
  have hagree : ∀ m ∈ named options text, lookup.Agree lookup' m
    | .property name, hm => hproperty name hm
    | .items itemType, hm => hitems itemType hm
  refine related_run_of_trees (related_lookups x hmetadata) text mode fun e he => ?_
  exact everywhere_of_mentions fun m hm => hagree m (mentions_subset_named mode e he hm)


/-- All properties and items in one scope. -/
def oneScope : Lookup :=
  { scopes := [.ofDocument [("A", "x"), ("B", "y"), ("C", "1")]
      [("I", [{ spec := "i" }]), ("J", [{ spec := "j" }])]] }

/-- The properties and items in scopes of their own, some with another value. -/
def threeScopes : Lookup :=
  { scopes := [.ofDocument [("C", "2"), ("b", "y")] [], .ofDocument [("B", "z")] [],
      .ofDocument [("A", "x")] [("I", [{ spec := "i" }])]] }

theorem run_of_named_of_scopes :
    (∀ name, .property name ∈ named .all "@(I->'%(M)$(B.Length)', '$(A)');$(A)" →
        oneScope.property? name = threeScopes.property? name) ∧
      (∀ itemType, .items itemType ∈ named .all "@(I->'%(M)$(B.Length)', '$(A)');$(A)" →
        oneScope.items itemType = threeScopes.items itemType) ∧
      oneScope.metadataItem = threeScopes.metadataItem ∧
      oneScope.property? "C" ≠ threeScopes.property? "C" ∧
      ∀ x : Expander, ∀ mode,
        x.run "@(I->'%(M)$(B.Length)', '$(A)');$(A)" .all oneScope mode =
          x.run "@(I->'%(M)$(B.Length)', '$(A)');$(A)" .all threeScopes mode := by
  have hpasses : (Expression.parse .all "@(I->'%(M)$(B.Length)', '$(A)');$(A)").toOption.any
      (fun e => (expression e).passes
        (fun n => n.mention?.all fun m => decide (oneScope.Agree threeScopes m)) 9) = true := by
    decide +kernel
  have hagree : ∀ m ∈ named .all "@(I->'%(M)$(B.Length)', '$(A)');$(A)",
      oneScope.Agree threeScopes m := by
    unfold named
    cases he : Expression.parse .all "@(I->'%(M)$(B.Length)', '$(A)');$(A)" with
    | error m =>
      rw [he] at hpasses
      cases hpasses
    | ok e =>
      rw [he] at hpasses
      refine mem_mentions_of_everywhere (everywhere_of_passes (fun n hn m hm => ?_) hpasses)
      rw [hm] at hn
      exact of_decide_eq_true hn
  have hproperty := fun name => hagree (.property name)
  have hitems := fun itemType => hagree (.items itemType)
  exact ⟨hproperty, hitems, rfl, by decide +kernel, fun x mode =>
    run_of_named x _ .all hproperty hitems rfl mode⟩

end Expander

end BuildExpr
