import BuildExpr.Proofs.Evaluation.Recase
import BuildExpr.Proofs.Expansion.Malformed

/-!
# Names in either case

A text may be written with its names in any case: the names of properties, items, metadata, item
functions, types and members. A text whose names get another case (`Expression.Recased`) is read as
the same tree in that case and expands to the same result, or fails with the same kind and code, in
every way that reads the text as a whole (`Expander.run_recased`). Only the wording of reports
shows how a name is written.
-/

namespace BuildExpr

open Text TreeNode

/-! ## The cases of another text -/

/-- The case that the letters of another text have at the same places. -/
def Recasing.ofText (text : String) : Recasing where
  char pos c :=
    match (Chars.dropBytes? pos text.toList).bind List.head? with
    | some d => if d.toLower = c.toLower then d else c
    | none => c
  toLower_char pos c := by
    split
    · split
      · assumption
      · rfl
    · rfl

theorem Recasing.chars_ofText {text : String} {before cs cs' : List Char}
    (htext : text.toList = before ++ cs')
    (h : cs.map Char.toLower = cs'.map Char.toLower) :
    (Recasing.ofText text).chars (Chars.byteLength before) cs = cs' := by
  induction cs generalizing before cs' with
  | nil =>
    cases cs' with
    | nil => rfl
    | cons d cs' => cases h
  | cons c cs ih =>
    cases cs' with
    | nil => cases h
    | cons d cs' =>
      obtain ⟨hhead, htail⟩ := List.cons.inj h
      have hsize : c.utf8Size = d.utf8Size := Chars.caseless_utf8Size.eq_of_toLower hhead
      have hchar : (Recasing.ofText text).char (Chars.byteLength before) c = d := by
        simp only [ofText, htext, Rest.dropBytes?_append, Option.bind_some, List.head?_cons,
          hhead, if_true]
      have hnext : Chars.byteLength before + c.utf8Size = Chars.byteLength (before ++ [d]) := by
        simp [hsize]
      rw [chars_cons, hchar, hnext, ih (by simpa using htext) htail]

/-- A text in the case of another one is that text, when they differ in nothing else. -/
theorem Rest.recase_ofText {text text' : String} (h : SameName text text') :
    (Rest.ofText text).recase (Recasing.ofText text') = Rest.ofText text' := by
  have hchars : (Recasing.ofText text').chars (Chars.byteLength []) text.toList = text'.toList :=
    Recasing.chars_ofText (List.nil_append _).symm (eqIgnoreCase_iff.1 h)
  exact congrArg (Rest.mk 0) hchars

/-! ## Texts that differ in the case of names -/

/-- Two texts that differ in nothing but the case of names. Their letters may have another case, but
whatever is no name in the tree of the first stands at the same place in the second. -/
structure Expression.Recased (e : Expression) (text text' : String) : Prop where
  letters : eqIgnoreCase text text' = true
  plain : (expression e).Everywhere fun n => ∀ s ∈ n.plain,
    Span.slice? text' s.start s.stop = some s

/-- What is no name lies within what its node lies in. -/
theorem TreeNode.within_of_mem_plain {outer : Rest} {n : TreeNode}
    (h : n.Everywhere fun m => m.span.toRest.Within outer) {s : Span} (hs : s ∈ n.plain) :
    s.toRest.Within outer := by
  cases n with
  | expression e =>
    have hleaf : (leaf s).Everywhere fun m => m.span.toRest.Within outer :=
      h.child (List.mem_map_of_mem (mem_plain_expression.1 hs))
    exact hleaf.here
  | property ref =>
    cases ref with
    | named _ _ | chain _ _ _ => cases hs
    | registry _ _ | bareRegistry _ _ =>
      obtain rfl := List.mem_singleton.1 hs
      exact (h.child (m := leaf s) (by simp [children])).here
  | argument a =>
    cases a with
    | null span =>
      obtain rfl := List.mem_singleton.1 hs
      exact h.here
    | quoted _ | bare _ => cases hs
  | items _ | metadata _ | access _ | transform _ | leaf _ => cases hs

/-- A recasing leaves alone what stands at the same place in the new text. -/
theorem TreeNode.spared_of_plain {g : Recasing} {text text' : String}
    (htext : (Rest.ofText text).recase g = Rest.ofText text') {n : TreeNode}
    (hwithin : n.Everywhere fun m => m.span.toRest.Within (.ofText text))
    (hplain : n.Everywhere fun m => ∀ s ∈ m.plain, Span.slice? text' s.start s.stop = some s) :
    n.Everywhere (Spared g) := by
  induction hplain with
  | intro hn _ ih =>
    refine .intro (fun s hs => ?_) fun m hm => ih m hm (hwithin.child hm)
    have hrecased : (s.recase g).toRest.Within (.ofText text') := by
      rw [Rest.toRest_recase, ← htext]
      exact (within_of_mem_plain hwithin hs).recase g
    have hslice := hrecased.slice?
    rw [Span.recase_start, Span.recase_stop, hn s hs] at hslice
    exact (Option.some.inj hslice).symm

theorem Expression.Recased.spared {options : Options} {e : Expression} {text text' : String}
    (h : e.Recased text text') (he : parse options text = .ok e) :
    (expression e).Everywhere (Spared (.ofText text')) := by
  obtain ⟨hroot, hplaced, -⟩ := sound_parse he
  have hwithin : (expression e).span.toRest.Within (.ofText text) := by
    rw [TreeNode.span, hroot]
    exact .refl _
  exact spared_of_plain (Rest.recase_ofText h.letters) (everywhere_within hplaced hwithin) h.plain

/-! ## Expansion -/

namespace Expander

variable {options : Options} {text text' : String} {e : Expression}

theorem matches_eval {α : Type} {R : α → α → Prop} {f f' : Setting → Eval α}
    (h : ∀ s, Eval.Matches R (f s) (f' s)) (x : Expander) (lookup : Lookup) :
    Eval.Matches R (x.eval options lookup f) (x.eval options lookup f') := by
  intro w
  obtain ⟨hanswer, hworld⟩ := h (x.setting options lookup w) w
  rw [result_eval, result_eval]
  exact ⟨hanswer.mapError fun _ _ hd => hd, hworld⟩

/-- A text whose names get another case expands to the same result, or fails with the same kind and
code, against everything it may be expanded against. The surroundings are left the same. -/
theorem run_recased (he : Expression.parse options text = .ok e) (h : e.Recased text text')
    (x : Expander) (lookup : Lookup) :
    ∀ mode ∈ Mode.ofWhole, Eval.Matches (· = ·) (x.run text options lookup mode)
      (x.run text' options lookup mode) := by
  have hspared := h.spared he
  have he' := Expression.parse_recase (Rest.recase_ofText h.letters) he hspared
  have hescaped : Eval.Matches (· = ·) (x.expandEscaped text options lookup)
      (x.expandEscaped text' options lookup) := by
    intro w
    rw [result_expandEscaped_eq he, result_expandEscaped_eq he']
    exact matches_eval (fun s => evalExpression_recase s .none e hspared) x lookup w
  have htyped : Eval.Matches (· = ·) (x.expandTyped text options lookup)
      (x.expandTyped text' options lookup) := by
    cases hany : options.expandsAnything with
    | false =>
      -- then both ways give the text itself
      have hshown := hescaped.bind_eq fun t => Eval.Matches.refl (pure (Outcome.text t))
      simpa [expandTyped, expandEscaped, hany] using hshown
    | true =>
      simp only [expandTyped, hany, Bool.not_true, Bool.false_eq_true, if_false,
        x.parse_of_ok options he, x.parse_of_ok options he', pure_bind]
      exact matches_eval (fun s => evalOutcome_recase s hspared) x lookup
  exact Mode.forall_ofWhole.2 ⟨hescaped.bind_eq fun _ => .refl _, hescaped,
    hescaped.bind_eq fun _ => .refl _, htyped⟩

/-- Names of all sorts in either case: a type and its members, a property, an item type, metadata
and an item function. -/
theorem run_recased_of_names :
    ∃ e, Expression.parse .all "$([System.Math]::Max(2, $(Low)))@(File->'%(Kind)x'->Reverse())" =
        .ok e ∧
      e.Recased "$([System.Math]::Max(2, $(Low)))@(File->'%(Kind)x'->Reverse())"
        "$([system.MATH]::max(2, $(LOW)))@(FILE->'%(kind)x'->REVERSE())" ∧
      ∀ x : Expander, ∀ lookup, ∀ mode ∈ Mode.ofWhole, Eval.Matches (· = ·)
        (x.run "$([System.Math]::Max(2, $(Low)))@(File->'%(Kind)x'->Reverse())" .all lookup mode)
        (x.run "$([system.MATH]::max(2, $(LOW)))@(FILE->'%(kind)x'->REVERSE())" .all lookup
          mode) := by
  have hpasses : (Expression.parse .all
      "$([System.Math]::Max(2, $(Low)))@(File->'%(Kind)x'->Reverse())").toOption.any (fun e =>
        (expression e).passes (fun n => n.plain.all fun s =>
          Span.slice? "$([system.MATH]::max(2, $(LOW)))@(FILE->'%(kind)x'->REVERSE())" s.start
            s.stop == some s) 9) = true := by
    decide +kernel
  cases he : Expression.parse .all
      "$([System.Math]::Max(2, $(Low)))@(File->'%(Kind)x'->Reverse())" with
  | error m =>
    rw [he] at hpasses
    cases hpasses
  | ok e =>
    rw [he] at hpasses
    have hrecased : e.Recased "$([System.Math]::Max(2, $(Low)))@(File->'%(Kind)x'->Reverse())"
        "$([system.MATH]::max(2, $(LOW)))@(FILE->'%(kind)x'->REVERSE())" := by
      refine ⟨by decide +kernel, everywhere_of_passes (fun n hn s hs => ?_) hpasses⟩
      simpa using List.all_eq_true.1 hn s hs
    exact ⟨e, rfl, hrecased, run_recased he hrecased⟩

end Expander

end BuildExpr
