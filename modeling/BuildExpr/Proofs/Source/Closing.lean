import BuildExpr.Proofs.Text.Pieces
import BuildExpr.Source.Nesting

/-!
# What is closed, and by what

A group, a quoted run and an argument list are recognised from their own characters alone. What
stands before the closing character of a group closes it whatever follows (`closing_eq_some`), a
quoted run ends at its first quote (`not_mem_of_cut?_eq_some`), and cutting an argument list at its
commas loses nothing (`join_of_splitArgumentsIn`).

From a quote or an opening bracket on, cutting an argument list goes on behind the end of the run or
group (`splitArgumentsIn_quote`, `splitArgumentsIn_opener`). A text with no comma outside of its
quoted runs and groups is one argument, whatever stands before and behind it (`Uncut`). Quoted runs
are such texts, and so are groups and with them all references (`Uncut.group`), so a list of them is
cut at the commas between them (`splitArguments_eq`, `splitArguments_cons`).
-/

namespace BuildExpr

namespace Chars

/-! ## Quoted runs -/

/-- The part before the first occurrence has none. -/
theorem not_mem_of_cut?_eq_some {sep : Char} {cs before after : List Char}
    (h : cut? sep cs = some (before, after)) : sep ∉ before := by
  induction cs generalizing before with
  | nil => simp [cut?] at h
  | cons c cs ih =>
    rw [cut?] at h
    split at h
    · obtain ⟨rfl, -⟩ := Prod.mk.inj (Option.some.inj h)
      simp
    · rename_i hc
      obtain ⟨⟨b, a⟩, hb, hab⟩ := Option.map_eq_some_iff.1 h
      obtain ⟨rfl, rfl⟩ := Prod.mk.inj hab
      rw [List.mem_cons, not_or]
      exact ⟨fun e => hc (beq_iff_eq.2 e.symm), ih hb⟩

/-- A text is cut at the first occurrence. -/
theorem cut?_append_of_not_mem {sep : Char} {before : List Char} (h : sep ∉ before)
    (after : List Char) : cut? sep (before ++ sep :: after) = some (before, after) := by
  induction before with
  | nil => simp [cut?]
  | cons c before ih =>
    rw [List.mem_cons, not_or] at h
    rw [List.cons_append, cut?, if_neg (by simpa using Ne.symm h.1), ih h.2, Option.map_some]

theorem cut?_eq_none {sep : Char} {cs : List Char} : cut? sep cs = none ↔ sep ∉ cs := by
  induction cs with
  | nil => simp [cut?]
  | cons c cs ih =>
    rw [cut?, List.mem_cons, not_or]
    by_cases hc : c = sep
    · simp [hc]
    · rw [if_neg (by simpa using hc), Option.map_eq_none_iff, ih]
      exact ⟨fun h => ⟨Ne.symm hc, h⟩, And.right⟩

/-! ## Groups -/

/-- Brackets that a group can be made of: two characters that are no quotes. -/
structure Brackets (opener closer : Char) : Prop where
  ne : opener ≠ closer
  opener_plain : isQuote opener = false
  closer_plain : isQuote closer = false

/-- The brackets of the groups in an expression. -/
inductive Grouping : Char → Char → Prop
  | round : Grouping '(' ')'
  | square : Grouping '[' ']'

theorem Grouping.brackets {opener closer : Char} (h : Grouping opener closer) :
    Brackets opener closer := by
  cases h with
  | round => exact ⟨by decide, rfl, rfl⟩
  | square => exact ⟨by decide, rfl, rfl⟩

/-- The group whose inside is `inside` ends at the closing bracket right after it, when `n` is
the nesting at the front. -/
def Closes (opener closer : Char) (n : Nesting) (inside : List Char) : Prop :=
  ∀ after, closing opener closer n (inside ++ closer :: after) = some (inside, after)

/-- What precedes the closing bracket is the inside of the group, whatever follows. -/
theorem closing_eq_some {opener closer : Char} {n : Nesting} {cs inside after : List Char}
    (h : closing opener closer n cs = some (inside, after)) :
    cs = inside ++ closer :: after ∧ Closes opener closer n inside := by
  induction cs generalizing n inside with
  | nil => simp [closing] at h
  | cons c cs ih =>
    rw [closing] at h
    split at h
    · rename_i hc
      obtain ⟨rfl, rfl⟩ := Prod.mk.inj (Option.some.inj h)
      have hcloser : c = closer := by
        simp only [Bool.and_eq_true, beq_iff_eq] at hc
        exact hc.1.2
      subst hcloser
      exact ⟨rfl, fun after' => by rw [List.nil_append, closing, if_pos hc]⟩
    · rename_i hc
      obtain ⟨⟨inner, rest⟩, hi, hir⟩ := Option.map_eq_some_iff.1 h
      obtain ⟨rfl, rfl⟩ := Prod.mk.inj hir
      obtain ⟨rfl, hcloses⟩ := ih hi
      refine ⟨rfl, fun after' => ?_⟩
      rw [List.cons_append, closing, if_neg hc, hcloses]
      rfl

theorem Closes.closing {opener closer : Char} {n : Nesting} {inside : List Char}
    (h : Closes opener closer n inside) (after : List Char) :
    closing opener closer n (inside ++ closer :: after) = some (inside, after) :=
  h after

/-- A group goes on behind a character that does not close it. -/
theorem depth_of_not_closing {opener closer : Char} (hb : Brackets opener closer) {n : Nesting}
    (hn : 1 ≤ n.depth) {c : Char}
    (h : ¬(n.quote.isNone && (n.step opener closer c).quote.isNone && c == closer &&
      (n.step opener closer c).depth == 0) = true) : 1 ≤ (n.step opener closer c).depth := by
  obtain ⟨quote, depth⟩ := n
  simp only at hn
  cases quote with
  | some q =>
    simp only [Nesting.step]
    split <;> exact hn
  | none =>
    by_cases hquote : isQuote c = true
    · simpa [Nesting.step, hquote] using hn
    · by_cases hopen : c = opener
      · subst hopen
        simp [Nesting.step, hquote]
        omega
      · by_cases hclose : c = closer
        · subst hclose
          have hstep : Nesting.step opener c { depth } c = { depth := depth - 1 } := by
            simp [Nesting.step, hquote, hopen]
          rw [hstep] at h ⊢
          have hne : depth - 1 ≠ 0 := fun hzero => h (by simp [hzero])
          show 1 ≤ depth - 1
          omega
        · simpa [Nesting.step, hquote, hopen, hclose] using hn

/-- What closes a group from its first character on closes it from the next. -/
theorem Closes.of_cons {n : Nesting} {c : Char} {body : List Char}
    (h : Closes '(' ')' n (c :: body)) (hn : 1 ≤ n.depth) :
    ¬(n.quote.isNone && (n.step '(' ')' c).quote.isNone && c == ')' &&
        (n.step '(' ')' c).depth == 0) = true ∧
      Closes '(' ')' (n.step '(' ')' c) body ∧ 1 ≤ (n.step '(' ')' c).depth := by
  have hclosing := h []
  rw [List.cons_append, Chars.closing] at hclosing
  split at hclosing
  · cases hclosing
  · rename_i hopen
    refine ⟨hopen, fun after => ?_, depth_of_not_closing Grouping.round.brackets hn hopen⟩
    have hafter := h after
    rw [List.cons_append, Chars.closing, if_neg hopen] at hafter
    obtain ⟨⟨inside, rest⟩, hrest, heq⟩ := Option.map_eq_some_iff.1 hafter
    obtain ⟨hinside, rfl⟩ := Prod.mk.inj heq
    rw [(List.cons.inj hinside).2] at hrest
    exact hrest

/-- One parenthesis deeper a text is nested one deeper. -/
theorem step_deeper (n : Nesting) (c : Char) :
    Nesting.step '(' ')' { n with depth := n.depth + 1 } c =
      { n.step '(' ')' c with depth := (n.step '(' ')' c).depth + 1 } := by
  obtain ⟨quote, depth⟩ := n
  cases quote with
  | some q =>
    simp only [Nesting.step]
    split <;> rfl
  | none =>
    simp only [Nesting.step]
    split
    · rfl
    · split
      · rfl
      · split
        · simp only [Nesting.mk.injEq, true_and]
          omega
        · rfl

/-- Read one parenthesis deeper, what closes a group comes back to the group around it. -/
theorem Closes.closing_deeper {n : Nesting} {cs : List Char} (h : Closes '(' ')' n cs)
    (hn : 1 ≤ n.depth) (rest : List Char) :
    Chars.closing '(' ')' { n with depth := n.depth + 1 } (cs ++ ')' :: rest) =
      (Chars.closing '(' ')' { depth := 1 } rest).map fun p => (cs ++ ')' :: p.1, p.2) := by
  induction cs generalizing n with
  | nil =>
    have hclosing := h []
    rw [List.nil_append, Chars.closing] at hclosing
    split at hclosing
    · rename_i hclose
      obtain ⟨quote, depth⟩ := n
      simp only [Bool.and_eq_true, Option.isNone_iff_eq_none, beq_iff_eq] at hclose
      obtain ⟨⟨⟨rfl, -⟩, -⟩, hdepth⟩ := hclose
      have hdepth : depth - 1 = 0 := hdepth
      obtain rfl : depth = 1 := by omega
      simp [Chars.closing, Nesting.step, isQuote]
    · simp [Chars.closing] at hclosing
  | cons c cs ih =>
    obtain ⟨-, hcloses, hdepth⟩ := h.of_cons hn
    have hgo : ¬(n.quote.isNone && (n.step '(' ')' c).quote.isNone && c == ')' &&
        (n.step '(' ')' c).depth + 1 == 0) = true := by
      have hzero : ((n.step '(' ')' c).depth + 1 == 0) = false := by
        rw [beq_eq_false_iff_ne]
        omega
      simp [hzero]
    rw [List.cons_append, Chars.closing, step_deeper, if_neg hgo, ih hcloses hdepth, Option.map_map]
    rfl

/-! ## Balanced texts -/

/-- Whether a text inside a group leaves the nesting as it was. -/
def Balanced (cs : List Char) : Prop :=
  ∀ rest, closing '(' ')' { depth := 1 } (cs ++ rest) =
    (closing '(' ')' { depth := 1 } rest).map fun p => (cs ++ p.1, p.2)

namespace Balanced

theorem nil : Balanced [] := by
  intro rest
  simp

theorem append {xs ys : List Char} (hx : Balanced xs) (hy : Balanced ys) : Balanced (xs ++ ys) := by
  intro rest
  rw [List.append_assoc, hx, hy, Option.map_map]
  simp only [Function.comp_def, List.append_assoc]

/-- A balanced text closes the parenthesis before it. -/
theorem closes {cs : List Char} (h : Balanced cs) : Closes '(' ')' { depth := 1 } cs := by
  intro after
  have hclose : closing '(' ')' { depth := 1 } (')' :: after) = some ([], after) := rfl
  rw [h, hclose, Option.map_some, List.append_nil]

/-- A character that is no quote and no parenthesis. -/
theorem single {c : Char} (hquote : isQuote c = false) (hopen : c ≠ '(') (hclose : c ≠ ')') :
    Balanced [c] := by
  intro rest
  have hstep : Nesting.step '(' ')' { depth := 1 } c = { depth := 1 } := by
    simp [Nesting.step, hquote, hopen, hclose]
  rw [List.singleton_append, closing, hstep, if_neg (by simp)]
  rfl

theorem of_plain {cs : List Char} (h : ∀ c ∈ cs, isQuote c = false ∧ c ≠ '(' ∧ c ≠ ')') :
    Balanced cs := by
  induction cs with
  | nil => exact nil
  | cons c cs ih =>
    obtain ⟨hquote, hopen, hclose⟩ := h c (by simp)
    exact (single hquote hopen hclose).append (ih fun d hd => h d (by simp [hd]))

/-- A quoted run. -/
theorem quoted {q : Char} (hq : isQuote q = true) {value : List Char} (h : q ∉ value) :
    Balanced (q :: value ++ [q]) := by
  intro rest
  have hrun (cs : List Char) (hcs : q ∉ cs) :
      closing '(' ')' { quote := some q, depth := 1 } (cs ++ q :: rest) =
        (closing '(' ')' { depth := 1 } rest).map fun p => (cs ++ q :: p.1, p.2) := by
    induction cs with
    | nil => simp [closing, Nesting.step]
    | cons c cs ih =>
      rw [List.mem_cons, not_or] at hcs
      have hne : (c == q) = false := beq_eq_false_iff_ne.2 (Ne.symm hcs.1)
      have hstep : Nesting.step '(' ')' { quote := some q, depth := 1 } c =
          { quote := some q, depth := 1 } := by simp [Nesting.step, hne]
      rw [List.cons_append, closing, hstep, if_neg (by simp), ih hcs.2, Option.map_map]
      rfl
  have hstep : Nesting.step '(' ')' { depth := 1 } q = { quote := some q, depth := 1 } := by
    simp [Nesting.step, hq]
  have htext : q :: value ++ [q] ++ rest = q :: (value ++ q :: rest) := by simp
  rw [htext, closing, hstep, if_neg (by simp), hrun value h, Option.map_map]
  simp [Function.comp_def]

/-- A group in parentheses. -/
theorem group {inside : List Char} (h : Closes '(' ')' { depth := 1 } inside) :
    Balanced ('(' :: inside ++ [')']) := by
  intro rest
  have hstep : Nesting.step '(' ')' { depth := 1 } '(' = { depth := 1 + 1 } := rfl
  have htext : '(' :: inside ++ [')'] ++ rest = '(' :: (inside ++ ')' :: rest) := by simp
  rw [htext, closing, hstep, if_neg (by simp), h.closing_deeper (Int.le_refl 1), Option.map_map]
  simp [Function.comp_def]

end Balanced

/-- A text without quotes and parentheses closes the parenthesis before it. -/
theorem closes_of_plain {inside : List Char}
    (h : ∀ c ∈ inside, isQuote c = false ∧ c ≠ '(' ∧ c ≠ ')') :
    Closes '(' ')' { depth := 1 } inside :=
  (Balanced.of_plain h).closes

/-! ## Argument lists -/

/-- An argument list has at least one piece. -/
theorem splitArgumentsIn_ne_nil {region : Region} {cs : List Char} {pieces : List (List Char)}
    (h : splitArgumentsIn region cs = some pieces) : pieces ≠ [] := by
  cases cs with
  | nil =>
    cases region with
    | outside =>
      cases h
      simp
    | quoted q => cases h
    | group opener closer n => cases h
  | cons c cs =>
    rw [splitArgumentsIn] at h
    split at h
    · obtain ⟨ps, -, rfl⟩ := Option.map_eq_some_iff.1 h
      simp
    · obtain ⟨ps, -, rfl⟩ := Option.map_eq_some_iff.1 h
      split <;> simp

/-- The pieces of an argument list with commas between them are the list. -/
theorem join_of_splitArgumentsIn {region : Region} {cs : List Char} {pieces : List (List Char)}
    (h : splitArgumentsIn region cs = some pieces) : join [','] pieces = cs := by
  induction cs generalizing region pieces with
  | nil =>
    cases region with
    | outside =>
      cases h
      rfl
    | quoted q => cases h
    | group opener closer n => cases h
  | cons c cs ih =>
    rw [splitArgumentsIn] at h
    split at h
    · rename_i hc
      obtain ⟨ps, hps, rfl⟩ := Option.map_eq_some_iff.1 h
      rw [join_cons_of_ne_nil _ _ (splitArgumentsIn_ne_nil hps), ih hps, hc.2]
      rfl
    · obtain ⟨ps, hps, rfl⟩ := Option.map_eq_some_iff.1 h
      have := splitArgumentsIn_ne_nil hps
      rw [← ih hps]
      cases ps with
      | nil => exact absurd rfl this
      | cons piece ps => exact join_cons_head _ _ _ _

/-! ## Arguments that are not cut -/

/-- The pieces of a list with a text in front of the first. -/
def before (cs : List Char) : List (List Char) → List (List Char)
  | [] => [cs]
  | piece :: pieces => (cs ++ piece) :: pieces

theorem before_append (xs ys : List Char) (pieces : List (List Char)) :
    before (xs ++ ys) pieces = before xs (before ys pieces) := by
  cases pieces <;> simp [before]

/-- A character that is no comma of the list belongs to the first piece. -/
theorem splitArgumentsIn_cons {region : Region} {c : Char} (h : ¬(region = .outside ∧ c = ','))
    (cs : List Char) :
    splitArgumentsIn region (c :: cs) =
      (splitArgumentsIn (region.step c) cs).map (before [c]) := by
  rw [splitArgumentsIn, if_neg h]
  refine congrArg (Option.map · _) (funext fun pieces => ?_)
  cases pieces <;> rfl

/-- Inside of a quoted run a list is read up to the next quote of its kind, and then goes on. -/
theorem splitArgumentsIn_quoted (q : Char) (cs : List Char) :
    splitArgumentsIn (.quoted q) cs = (cut? q cs).bind fun p =>
      (splitArgumentsIn .outside p.2).map (before (p.1 ++ [q])) := by
  induction cs with
  | nil => rfl
  | cons c cs ih =>
    rw [splitArgumentsIn_cons (by simp), cut?]
    by_cases hc : c = q
    · subst hc
      simp [Region.step]
    · have hstep : Region.step (.quoted q) c = .quoted q := by simp [Region.step, hc]
      rw [if_neg (by simpa using hc), hstep, ih, Option.map_bind, Option.bind_map]
      refine congrArg (Option.bind _) (funext fun p => ?_)
      rw [Function.comp_apply, Function.comp_apply, Option.map_map]
      exact congrArg (Option.map · _) (funext fun pieces => (before_append [c] _ pieces).symm)

/-- Inside of a group a list is read up to the bracket that closes it, and then goes on. -/
theorem splitArgumentsIn_group (opener : Char) {closer : Char} (hcloser : isQuote closer = false)
    (n : Nesting) (cs : List Char) :
    splitArgumentsIn (.group opener closer n) cs = (closing opener closer n cs).bind fun p =>
      (splitArgumentsIn .outside p.2).map (before (p.1 ++ [closer])) := by
  induction cs generalizing n with
  | nil => rfl
  | cons c cs ih =>
    rw [splitArgumentsIn_cons (by simp), closing]
    by_cases hend : (n.quote.isNone && (n.step opener closer c).quote.isNone && c == closer &&
        (n.step opener closer c).depth == 0) = true
    · rw [if_pos hend]
      simp only [Bool.and_eq_true, beq_iff_eq] at hend
      obtain ⟨⟨⟨hquote, -⟩, rfl⟩, hdepth⟩ := hend
      have hstep : Region.step (.group opener c n) c = .outside := by
        simp [Region.step, hquote, hdepth]
      rw [hstep]
      rfl
    · have hstep : Region.step (.group opener closer n) c =
          .group opener closer (n.step opener closer c) := by
        rw [Region.step, if_neg]
        simp only [Bool.and_eq_true, beq_iff_eq] at hend ⊢
        rintro ⟨⟨hquote, rfl⟩, hdepth⟩
        refine hend ⟨⟨⟨hquote, ?_⟩, rfl⟩, hdepth⟩
        -- a bracket that is no quote leaves the runs as they are
        obtain ⟨quote, depth⟩ := n
        obtain rfl : quote = none := Option.isNone_iff_eq_none.1 hquote
        simp only [Nesting.step, hcloser, Bool.false_eq_true, if_false]
        split <;> simp
      rw [if_neg hend, hstep, ih, Option.map_bind, Option.bind_map]
      refine congrArg (Option.bind _) (funext fun p => ?_)
      rw [Function.comp_apply, Function.comp_apply, Option.map_map]
      exact congrArg (Option.map · _) (funext fun pieces => (before_append [c] _ pieces).symm)

/-- From a quote on a list is read up to the next quote of its kind. -/
theorem splitArgumentsIn_quote {q : Char} (hq : isQuote q = true) (cs : List Char) :
    splitArgumentsIn .outside (q :: cs) = (cut? q cs).bind fun p =>
      (splitArgumentsIn .outside p.2).map (before (q :: p.1 ++ [q])) := by
  have hcomma : q ≠ ',' := by
    rintro rfl
    cases hq
  have hstep : Region.step .outside q = .quoted q := by simp [Region.step, hq]
  rw [splitArgumentsIn_cons (by simp [hcomma]), hstep, splitArgumentsIn_quoted, Option.map_bind]
  refine congrArg (Option.bind _) (funext fun p => ?_)
  rw [Function.comp_apply, Option.map_map]
  exact congrArg (Option.map · _) (funext fun pieces => (before_append [q] _ pieces).symm)

/-- From an opening bracket on a list is read up to the bracket that closes it. -/
theorem splitArgumentsIn_opener {opener closer : Char} (hg : Grouping opener closer)
    (cs : List Char) :
    splitArgumentsIn .outside (opener :: cs) =
      (closing opener closer { depth := 1 } cs).bind fun p =>
        (splitArgumentsIn .outside p.2).map (before (opener :: p.1 ++ [closer])) := by
  have hstep : opener ≠ ',' ∧
      Region.step .outside opener = .group opener closer { depth := 1 } := by
    cases hg with
    | round => exact ⟨by decide, rfl⟩
    | square => exact ⟨by decide, rfl⟩
  rw [splitArgumentsIn_cons (by simp [hstep.1]), hstep.2,
    splitArgumentsIn_group opener hg.brackets.closer_plain, Option.map_bind]
  refine congrArg (Option.bind _) (funext fun p => ?_)
  rw [Function.comp_apply, Option.map_map]
  exact congrArg (Option.map · _) (funext fun pieces => (before_append [opener] _ pieces).symm)

/-- A character of a list opens a quoted run or a group, is a comma, or means nothing. -/
theorem quote_or_opener_or_comma (c : Char) :
    isQuote c = true ∨ (∃ closer, Grouping c closer) ∨ c = ',' ∨
      (isQuote c = false ∧ c ≠ '(' ∧ c ≠ '[' ∧ c ≠ ',') := by
  by_cases hround : c = '('
  · exact .inr (.inl ⟨')', hround ▸ .round⟩)
  by_cases hsquare : c = '['
  · exact .inr (.inl ⟨']', hsquare ▸ .square⟩)
  by_cases hcomma : c = ','
  · exact .inr (.inr (.inl hcomma))
  cases hquote : isQuote c with
  | true => exact .inl rfl
  | false => exact .inr (.inr (.inr ⟨rfl, hround, hsquare, hcomma⟩))

/-- Whether a text outside of quotes and groups is never cut. -/
def Uncut (cs : List Char) : Prop :=
  ∀ rest, splitArgumentsIn .outside (cs ++ rest) =
    (splitArgumentsIn .outside rest).map (before cs)

namespace Uncut

theorem append {xs ys : List Char} (hx : Uncut xs) (hy : Uncut ys) : Uncut (xs ++ ys) := by
  intro rest
  rw [List.append_assoc, hx, hy, Option.map_map]
  exact congrArg (Option.map · _) (funext fun pieces => (before_append xs ys pieces).symm)

/-- A character that means nothing in an argument list. -/
theorem single {c : Char} (hquote : isQuote c = false) (hparen : c ≠ '(') (hbracket : c ≠ '[')
    (hcomma : c ≠ ',') : Uncut [c] := by
  intro rest
  have hstep : Region.step .outside c = .outside := by
    simp [Region.step, hquote, hparen, hbracket]
  rw [List.singleton_append, splitArgumentsIn_cons (by simp [hcomma]), hstep]

/-- A quoted run. -/
theorem quoted {q : Char} (hq : isQuote q = true) {value : List Char} (h : q ∉ value) :
    Uncut (q :: value ++ [q]) := by
  intro rest
  have htext : q :: value ++ [q] ++ rest = q :: (value ++ q :: rest) := by simp
  rw [htext, splitArgumentsIn_quote hq, cut?_append_of_not_mem h, Option.bind_some]

/-- A group. -/
theorem group {opener closer : Char} (hg : Grouping opener closer) {inside : List Char}
    (h : Closes opener closer { depth := 1 } inside) : Uncut (opener :: inside ++ [closer]) := by
  intro rest
  have htext : opener :: inside ++ [closer] ++ rest = opener :: (inside ++ closer :: rest) := by
    simp
  rw [htext, splitArgumentsIn_opener hg, h.closing, Option.bind_some]

/-- A text that is not cut is the only argument. -/
theorem splitArguments_eq {cs : List Char} (h : Uncut cs) : splitArguments cs = some [cs] := by
  have := h []
  simpa [splitArguments, splitArgumentsIn, before] using this

/-- The first argument is what stands before the first comma. -/
theorem splitArguments_cons {cs : List Char} (h : Uncut cs) (rest : List Char) :
    splitArguments (cs ++ ',' :: rest) = (splitArguments rest).map (cs :: ·) := by
  have hcomma : splitArgumentsIn .outside (',' :: rest) =
      (splitArgumentsIn .outside rest).map ([] :: ·) := by
    rw [splitArgumentsIn, if_pos ⟨rfl, rfl⟩]
  rw [splitArguments, h, hcomma, Option.map_map]
  refine congrArg (Option.map · _) (funext fun pieces => ?_)
  simp [before]

end Uncut

end Chars

end BuildExpr
