import BuildExpr.Proofs.Expression.Extend
import BuildExpr.Proofs.Expression.RawParts
import Mathlib.Data.List.TakeWhile

/-!
# Chains of stages

A stage of an item list is read from its own characters alone, whatever follows them
(`StageReads.extend`), and leaves the nesting of parentheses and quotes as it was
(`StageReads.balanced`). So a text that is read up as stages (`ReadsStages`) closes no parenthesis,
and the stages of two such texts, one behind the other, are those of the first and then those of the
second (`ReadsStages.append`).
-/

namespace BuildExpr

namespace RawStage

/-- Whether a part is where a list is not well formed. -/
def isFault : RawStage → Bool
  | fault _ => true
  | _ => false

/-- Whether a part changes the entries of a list. -/
def isTransform : RawStage → Bool
  | pattern _ _ | function _ _ _ => true
  | _ => false

end RawStage

namespace Rest

variable {r value inside after : Rest} {name : Span}

/-! ## Texts that leave the nesting as it was -/

/-- Whether what stands between two rests leaves the nesting as it was. -/
def Even (r later : Rest) : Prop :=
  ∃ cs, r.chars = cs ++ later.chars ∧ Chars.Balanced cs

theorem Even.trans {a b : Rest} (h : r.Even a) (hmore : a.Even b) : r.Even b := by
  obtain ⟨xs, hxs, hx⟩ := h
  obtain ⟨ys, hys, hy⟩ := hmore
  exact ⟨xs ++ ys, by rw [hxs, hys, List.append_assoc], hx.append hy⟩

theorem even_drop (n : Nat) (cs : List Char) (hcs : r.chars.take n = cs)
    (h : ∀ c ∈ cs, isQuote c = false ∧ c ≠ '(' ∧ c ≠ ')') : r.Even (r.drop n) :=
  ⟨cs, by rw [← hcs, drop, List.take_append_drop], .of_plain h⟩

theorem even_skipBlanks (r : Rest) : r.Even r.skipBlanks :=
  ⟨_, List.takeWhile_append_dropWhile.symm,
    Chars.balanced_of_isRefPart fun _ => Chars.isRefPart_of_mem_takeWhile⟩

theorem even_name? {dash : Bool} (h : r.name? dash = some (name, after)) : r.Even after := by
  obtain ⟨cs, hr, hparts⟩ := exists_refPart_of_name? h
  exact ⟨cs, hr, Chars.balanced_of_isRefPart hparts⟩

theorem even_quoted? (hquote : r.peek?.any isQuote = true) (h : r.quoted? = some (value, after)) :
    r.Even after := by
  obtain ⟨q, hr, hq, -, -⟩ := quoted?_eq_some h
  rw [peek?, hr] at hquote
  exact ⟨q :: value.chars ++ [q], by simp [hr], .quoted hquote hq⟩

theorem even_group? (hopen : r.peek? = some '(') (h : r.group? '(' ')' = some (inside, after)) :
    r.Even after := by
  obtain ⟨c, hr, hcloses, -, -⟩ := group?_eq_some h
  rw [peek?, hr] at hopen
  obtain rfl : c = '(' := Option.some.inj hopen
  exact ⟨'(' :: inside.chars ++ [')'], by simp [hr], .group hcloses⟩

/-! ## One stage -/

/-- A stage or a separator at the front of a text, and what follows it. -/
inductive StageReads (separated : Bool) (r : Rest) : RawStage → Rest → Prop
  | pattern {cs : List Char} {value after : Rest} (arrow : r.chars = '-' :: '>' :: cs)
    (quote : (r.drop 2).skipBlanks.peek?.any isQuote = true)
    (quoted : (r.drop 2).skipBlanks.quoted? = some (value, after)) :
    StageReads separated r (.pattern (r.upTo after) value) after
  | function {cs : List Char} {name : Span} {opening arguments after : Rest}
    (arrow : r.chars = '-' :: '>' :: cs)
    (quote : (r.drop 2).skipBlanks.peek?.any isQuote = false)
    (named : (r.drop 2).skipBlanks.name? false = some (name, opening))
    (opened : opening.skipBlanks.peek? = some '(')
    (group : opening.skipBlanks.group? '(' ')' = some (arguments, after)) :
    StageReads separated r (.function (r.upTo after) name arguments) after
  | separator {cs : List Char} {value after : Rest} (comma : r.chars = ',' :: cs)
    (single : separated = false) (quote : r.next.skipBlanks.peek?.any isQuote = true)
    (quoted : r.next.skipBlanks.quoted? = some (value, after)) :
    StageReads separated r (.separator value) after

theorem stageReads_of_stage? {separated : Bool} {stage : RawStage}
    (h : r.stage? separated = some (stage, after)) (hstage : stage.isFault = false) :
    StageReads separated r stage after := by
  have hfault {fault : SyntaxFault} (h : some (RawStage.fault fault, r) = some (stage, after)) :
      StageReads separated r stage after := by
    obtain ⟨rfl, -⟩ := Prod.mk.inj (Option.some.inj h)
    cases hstage
  rw [stage?] at h
  split at h
  · cases h
  · rename_i cs arrow
    dsimp only at h
    split at h
    · rename_i quote
      split at h
      · rename_i value rest quoted
        obtain ⟨rfl, rfl⟩ := Prod.mk.inj (Option.some.inj h)
        exact .pattern arrow quote quoted
      · exact hfault h
    · rename_i quote
      split at h
      · exact hfault h
      · rename_i name opening named
        split at h
        · rename_i opened
          split at h
          · rename_i arguments rest group
            obtain ⟨rfl, rfl⟩ := Prod.mk.inj (Option.some.inj h)
            exact .function arrow (Bool.eq_false_iff.2 quote) named (beq_iff_eq.1 opened) group
          · exact hfault h
        · exact hfault h
  · rename_i cs comma
    split at h
    · exact hfault h
    · rename_i single
      dsimp only at h
      split at h
      · rename_i quote
        split at h
        · rename_i value rest quoted
          obtain ⟨rfl, rfl⟩ := Prod.mk.inj (Option.some.inj h)
          exact .separator comma (Bool.eq_false_iff.2 single) quote quoted
        · exact hfault h
      · exact hfault h
  · exact hfault h

theorem nil_of_stage?_eq_none {separated : Bool} (h : r.stage? separated = none) :
    r.chars = [] := by
  rw [stage?] at h
  split at h
  · assumption
  · dsimp only at h
    repeat' split at h
    all_goals cases h
  · split at h
    · cases h
    · dsimp only at h
      repeat' split at h
      all_goals cases h
  · cases h

namespace StageReads

variable {separated : Bool} {stage : RawStage}

theorem stage?_eq (h : StageReads separated r stage after) :
    r.stage? separated = some (stage, after) := by
  cases h with
  | pattern arrow quote quoted => simp [stage?, arrow, quote, quoted]
  | function arrow quote named opened group => simp [stage?, arrow, quote, named, opened, group]
  | separator comma single quote quoted => simp [stage?, comma, single, quote, quoted]

theorem isFault_eq (h : StageReads separated r stage after) : stage.isFault = false := by
  cases h <;> rfl

theorem tail (h : StageReads separated r stage after) : after.Tail r := (stage?_placed h.stage?_eq).2

theorem ne_nil (h : StageReads separated r stage after) : r.chars ≠ [] := by
  cases h with
  | pattern arrow quote quoted => simp [arrow]
  | function arrow quote named opened group => simp [arrow]
  | separator comma single quote quoted => simp [comma]

/-- A stage is the same with more text behind it. -/
theorem extend (h : StageReads separated r stage after) (more : List Char) :
    StageReads separated (r.extend more) stage (after.extend more) := by
  have hupTo := upTo_extend h.tail more
  have hchars {cs : List Char} (hcs : r.chars = cs) : (r.extend more).chars = cs ++ more := by
    rw [Rest.extend, hcs]
  have hdrop {cs : List Char} (arrow : r.chars = '-' :: '>' :: cs)
      (hbody : (r.drop 2).skipBlanks.chars ≠ []) :
      ((r.extend more).drop 2).skipBlanks = (r.drop 2).skipBlanks.extend more := by
    rw [drop_extend (by simp [arrow]), skipBlanks_extend hbody]
  cases h with
  | pattern arrow quote quoted =>
    have hbody := hdrop arrow (ne_nil_of_quote quote)
    rw [← hupTo]
    refine .pattern (hchars arrow) ?_ ?_
    · rw [hbody, peek?_extend (ne_nil_of_quote quote), quote]
    · rw [hbody, quoted?_extend quoted]
  | @function cs name opening arguments after arrow quote named opened group =>
    have hopening := ne_nil_of_peek? opened
    have hname : (r.drop 2).skipBlanks.chars ≠ [] := by
      obtain ⟨name, hname, hr, -⟩ := name?_eq_some named
      simp [hr, hname]
    have hafter : opening.chars ≠ [] := by
      intro hnil
      simp [skipBlanks, hnil] at hopening
    have hbody := hdrop arrow hname
    have hmore : ((r.extend more).drop 2).skipBlanks.name? false =
        some (name, opening.extend more) := by
      rw [hbody, name?_extend named hafter]
    rw [← hupTo]
    refine .function (hchars arrow) ?_ hmore ?_ ?_
    · rw [hbody, peek?_extend hname, quote]
    · rw [skipBlanks_extend hopening, peek?_extend hopening, opened]
    · rw [skipBlanks_extend hopening, group?_extend group]
  | separator comma single quote quoted =>
    have hbody : (r.extend more).next.skipBlanks = r.next.skipBlanks.extend more := by
      rw [next_extend_of_cons comma, skipBlanks_extend (ne_nil_of_quote quote)]
    refine .separator (hchars comma) single ?_ ?_
    · rw [hbody, peek?_extend (ne_nil_of_quote quote), quote]
    · rw [hbody, quoted?_extend quoted]

/-- A stage closes no parenthesis that is open before it. -/
theorem even (h : StageReads separated r stage after) : r.Even after := by
  have harrow {cs : List Char} (arrow : r.chars = '-' :: '>' :: cs) :
      r.Even (r.drop 2).skipBlanks := by
    exact (even_drop 2 ['-', '>'] (by simp [arrow]) (by simp [isQuote])).trans (even_skipBlanks _)
  cases h with
  | pattern arrow quote quoted => exact (harrow arrow).trans (even_quoted? quote quoted)
  | function arrow quote named opened group =>
    exact (harrow arrow).trans <| (even_name? named).trans <|
      (even_skipBlanks _).trans (even_group? opened group)
  | separator comma single quote quoted =>
    exact (even_drop 1 [','] (by simp [comma]) (by simp [isQuote])).trans <|
      (even_skipBlanks _).trans (even_quoted? quote quoted)

/-- A stage takes at least one character. -/
theorem length_lt (h : StageReads separated r stage after) :
    after.chars.length < r.chars.length := by
  have hskip (s : Rest) : s.skipBlanks.chars.length ≤ s.chars.length :=
    (tail_skipBlanks s).within.length_le
  cases h with
  | pattern arrow quote quoted =>
    have hrest := (tail_of_quoted? quoted).within.length_le
    have hbody := hskip (r.drop 2)
    simp only [drop, arrow, List.drop_succ_cons, List.drop_zero, List.length_cons] at hbody hrest ⊢
    omega
  | function arrow quote named opened group =>
    have hrest := ((tail_of_group? group).trans <| (tail_skipBlanks _).trans
      (tail_of_name? named)).within.length_le
    have hbody := hskip (r.drop 2)
    simp only [drop, arrow, List.drop_succ_cons, List.drop_zero, List.length_cons] at hbody hrest ⊢
    omega
  | separator comma single quote quoted =>
    have hrest := (tail_of_quoted? quoted).within.length_le
    have hbody := hskip r.next
    simp only [next, drop, comma, List.drop_succ_cons, List.drop_zero, List.length_cons]
      at hbody hrest ⊢
    omega

/-- A name ends before a stage. -/
theorem stopsName (h : StageReads separated r stage after) : Chars.StopsName r.chars := by
  intro c rest hr
  cases h with
  | pattern arrow quote quoted =>
    obtain ⟨rfl, rfl⟩ := List.cons.inj (hr.symm.trans arrow)
    exact ⟨rfl, by decide, fun _ => rfl⟩
  | function arrow quote named opened group =>
    obtain ⟨rfl, rfl⟩ := List.cons.inj (hr.symm.trans arrow)
    exact ⟨rfl, by decide, fun _ => rfl⟩
  | separator comma single quote quoted =>
    obtain ⟨rfl, rfl⟩ := List.cons.inj (hr.symm.trans comma)
    exact ⟨rfl, by decide, fun h => absurd h (by decide)⟩

end StageReads

/-! ## Chains of stages -/

/-- A text that is read up as stages and at most one separator, with blanks between them. -/
inductive ReadsStages : Bool → Rest → List RawStage → Prop
  | nil {separated : Bool} {r : Rest} (blank : r.skipBlanks.chars = []) : ReadsStages separated r []
  | cons {separated : Bool} {r after : Rest} {stage : RawStage} {stages : List RawStage}
    (first : StageReads separated r.skipBlanks stage after)
    (more : ReadsStages (separated || isSeparator stage) after stages) :
    ReadsStages separated r (stage :: stages)

theorem readsStages_of_stagesUpTo {separated : Bool} {fuel : Nat} (hfuel : r.chars.length < fuel)
    (h : ∀ stage ∈ stagesUpTo separated fuel r, stage.isFault = false) :
    ReadsStages separated r (stagesUpTo separated fuel r) := by
  induction fuel generalizing separated r with
  | zero => omega
  | succ fuel ih =>
    rw [stagesUpTo] at h ⊢
    split at h
    · rename_i hnone
      exact .nil (nil_of_stage?_eq_none hnone)
    · cases h _ List.mem_cons_self
    · rename_i stage after hne hfirst
      obtain ⟨hstage, hmore⟩ := List.forall_mem_cons.1 h
      have hreads := stageReads_of_stage? hfirst hstage
      have hblanks := (tail_skipBlanks r).within.length_le
      have hlt := hreads.length_lt
      exact .cons hreads (ih (by omega) hmore)

theorem readsStages_of_stages (h : ∀ stage ∈ r.stages, stage.isFault = false) :
    ReadsStages false r r.stages :=
  readsStages_of_stagesUpTo (Nat.lt_succ_self _) h

namespace ReadsStages

variable {separated : Bool} {stages : List RawStage}

theorem stagesUpTo_eq (h : ReadsStages separated r stages) {fuel : Nat}
    (hfuel : r.chars.length < fuel) : stagesUpTo separated fuel r = stages := by
  induction h generalizing fuel with
  | @nil separated r blank =>
    cases fuel with
    | zero => rfl
    | succ fuel => simp [stagesUpTo, stage?, blank]
  | @cons separated r after stage stages first more ih =>
    cases fuel with
    | zero => omega
    | succ fuel =>
      have hblanks := (tail_skipBlanks r).within.length_le
      have hlt := first.length_lt
      rw [stagesUpTo, first.stage?_eq]
      have hfault := first.isFault_eq
      cases stage with
      | fault fault => cases hfault
      | pattern span value => exact congrArg _ (ih (by omega))
      | function span name arguments => exact congrArg _ (ih (by omega))
      | separator value => exact congrArg _ (ih (by omega))

theorem stages_eq (h : ReadsStages false r stages) : r.stages = stages :=
  h.stagesUpTo_eq (Nat.lt_succ_self _)

/-- Blanks in front of a chain do not matter. -/
theorem of_skipBlanks_eq {r' : Rest} (h : ReadsStages separated r stages)
    (heq : r'.skipBlanks = r.skipBlanks) : ReadsStages separated r' stages := by
  cases h with
  | nil blank => exact .nil (by rw [heq, blank])
  | cons first more => exact .cons (by rwa [heq]) more

/-- The stages of two texts, one behind the other: those of the first, if it has no separator, and
those of the second. -/
theorem append (h : ReadsStages separated r stages)
    (htransform : ∀ stage ∈ stages, stage.isTransform = true) {tail : List Char}
    {more : List RawStage} (hmore : ReadsStages separated ⟨r.stop, tail⟩ more) :
    ReadsStages separated (r.extend tail) (stages ++ more) := by
  induction h with
  | @nil separated r blank =>
    refine hmore.of_skipBlanks_eq ?_
    have hall := List.dropWhile_eq_nil_iff.1 blank
    have htake : r.chars.takeWhile Chars.isAsciiBlank = r.chars := List.takeWhile_eq_self_iff.2 hall
    simp only [skipBlanks, Rest.extend, stop, List.takeWhile_append_of_pos hall,
      List.dropWhile_append_of_pos hall, Chars.byteLength_append, Nat.add_assoc]
  | @cons separated r after stage stages first rest ih =>
    obtain ⟨hstage, hstages⟩ := List.forall_mem_cons.1 htransform
    have hnone : isSeparator stage = false := by
      cases stage with
      | separator value => cases hstage
      | pattern span value => rfl
      | function span name arguments => rfl
      | fault fault => rfl
    rw [hnone, Bool.or_false] at ih
    have hstop : after.stop = r.stop := (first.tail.trans (tail_skipBlanks r)).stop_eq
    have hfirst : StageReads separated (r.extend tail).skipBlanks stage (after.extend tail) := by
      rw [skipBlanks_extend first.ne_nil]
      exact first.extend tail
    refine .cons hfirst ?_
    rw [hnone, Bool.or_false]
    exact ih hstages (by rwa [hstop])

/-- A chain closes no parenthesis that is open before it. -/
theorem balanced (h : ReadsStages separated r stages) : Chars.Balanced r.chars := by
  have heven : ∃ last : Rest, last.chars = [] ∧ r.Even last := by
    induction h with
    | nil blank => exact ⟨_, blank, even_skipBlanks _⟩
    | cons first more ih =>
      obtain ⟨last, hlast, heven⟩ := ih
      exact ⟨last, hlast, (even_skipBlanks _).trans (first.even.trans heven)⟩
  obtain ⟨last, hlast, cs, hcs, hbalanced⟩ := heven
  rw [hcs, hlast, List.append_nil]
  exact hbalanced

/-- A name ends before a chain. -/
theorem stopsName (h : ReadsStages separated r stages) : Chars.StopsName r.chars := by
  intro c rest hr
  by_cases hc : Chars.isAsciiBlank c = true
  · simp only [Chars.isAsciiBlank, Bool.or_eq_true, beq_iff_eq] at hc
    rcases hc with (((rfl | rfl) | rfl) | rfl) | rfl <;>
      exact ⟨rfl, by decide, fun h => absurd h (by decide)⟩
  · have hskip : r.skipBlanks.chars = c :: rest := by
      rw [skipBlanks, hr, List.dropWhile_cons_of_neg hc]
    cases h with
    | nil blank => cases blank.symm.trans hskip
    | cons first more => exact first.stopsName c rest hskip

end ReadsStages

end Rest

end BuildExpr
