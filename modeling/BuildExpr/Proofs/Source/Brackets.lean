import BuildExpr.Proofs.Source.Closing
import Mathlib.Data.List.Induction
import Mathlib.Data.List.Infix

/-!
# Where a bracket is closed

A text is read from left to right past its quoted runs (`Chars.Seen`). It is level where as many
opening as closing brackets were seen. The nesting that is kept while reading tells both: it is the
difference of the numbers, and an open run at the end (`Chars.nesting_cases`). So from an opening
bracket on, the search for the one that closes it ends where the text is level first
(`Chars.closing_eq_some_iff`), and the depth is positive before.
-/

namespace BuildExpr

namespace Chars

/-! ## Reading past quoted runs -/

/-- What is seen of a text that is read from left to right past its quoted runs, each of which
ends at the next quote of its kind. -/
inductive Seen : List Char → List Char → Prop
  | nil : Seen [] []
  | plain {read seen : List Char} {c : Char} :
    Seen read seen → isQuote c = false → Seen (read ++ [c]) (seen ++ [c])
  | quoted {read seen inside : List Char} {q : Char} :
    Seen read seen → isQuote q = true → q ∉ inside → Seen (read ++ q :: inside ++ [q]) seen

/-- What was read ends outside of quoted runs, and as many opening as closing brackets were seen. -/
def Level (opener closer : Char) (read : List Char) : Prop :=
  ∃ seen, Seen read seen ∧ seen.count opener = seen.count closer

/-- The nesting behind a text. -/
def nesting (opener closer : Char) (n : Nesting) (read : List Char) : Nesting :=
  read.foldl (Nesting.step opener closer) n

section

variable {opener closer : Char} {n : Nesting} {read seen : List Char} {c : Char}

theorem nesting_append (xs ys : List Char) :
    nesting opener closer n (xs ++ ys) = nesting opener closer (nesting opener closer n xs) ys :=
  List.foldl_append

theorem nesting_concat :
    nesting opener closer n (read ++ [c]) =
      (nesting opener closer n read).step opener closer c := by
  rw [nesting_append]
  rfl

/-- The depth behind a text of which so much was seen. -/
def depthOf (opener closer : Char) (seen : List Char) : Int :=
  (seen.count opener : Int) - seen.count closer

theorem depthOf_concat (hb : Brackets opener closer) :
    depthOf opener closer (seen ++ [c]) = depthOf opener closer seen +
      if c = opener then 1 else if c = closer then -1 else 0 := by
  unfold depthOf
  rw [List.count_append, List.count_append, List.count_singleton, List.count_singleton]
  by_cases hopen : c = opener
  · have hclose : c ≠ closer := hopen ▸ hb.ne
    simp [hopen, hb.ne]
    omega
  · by_cases hclose : c = closer
    · simp [hclose, Ne.symm hb.ne]
      omega
    · simp [hopen, hclose]

/-- A character outside of quoted runs changes the depth as it changes the difference of the
numbers. -/
theorem step_plain (hb : Brackets opener closer) (hc : isQuote c = false) :
    Nesting.step opener closer { depth := depthOf opener closer seen } c =
      { depth := depthOf opener closer (seen ++ [c]) } := by
  rw [depthOf_concat hb]
  by_cases hopen : c = opener
  · simp [Nesting.step, hopen, hb.opener_plain]
  · by_cases hclose : c = closer
    · simp [Nesting.step, hclose, hb.closer_plain, Ne.symm hb.ne]
      omega
    · simp [Nesting.step, hc, hopen, hclose]

theorem nesting_inside {q : Char} {inside : List Char} (hq : q ∉ inside) (depth : Int) :
    nesting opener closer { quote := some q, depth } inside = { quote := some q, depth } := by
  induction inside with
  | nil => rfl
  | cons c inside ih =>
    rw [List.mem_cons, not_or] at hq
    have hstep : Nesting.step opener closer { quote := some q, depth } c =
        { quote := some q, depth } := by simp [Nesting.step, Ne.symm hq.1]
    rw [nesting, List.foldl_cons, hstep]
    exact ih hq.2

/-- Behind a text that was read past its quoted runs none is open, and the depth is the difference
of the numbers of brackets seen. -/
theorem Seen.nesting_eq (hb : Brackets opener closer) (h : Seen read seen) :
    nesting opener closer {} read = { depth := depthOf opener closer seen } := by
  induction h with
  | nil => rfl
  | plain _ hc ih => rw [nesting_concat, ih, step_plain hb hc]
  | @quoted read seen inside q _ hq hinside ih =>
    have hopen : Nesting.step opener closer { depth := depthOf opener closer seen } q =
        { quote := some q, depth := depthOf opener closer seen } := by simp [Nesting.step, hq]
    have hrun : nesting opener closer { depth := depthOf opener closer seen } (q :: inside) =
        { quote := some q, depth := depthOf opener closer seen } := by
      rw [nesting, List.foldl_cons, hopen]
      exact nesting_inside hinside _
    rw [nesting_concat, nesting_append, ih, hrun]
    simp [Nesting.step]

/-- A text was read past its quoted runs, or one of them is still open at its end. -/
theorem nesting_cases (hb : Brackets opener closer) (read : List Char) :
    (∃ seen, Seen read seen ∧
      nesting opener closer {} read = { depth := depthOf opener closer seen }) ∨
    ∃ front q inside seen, read = front ++ q :: inside ∧ Seen front seen ∧ isQuote q = true ∧
      q ∉ inside ∧ nesting opener closer {} read =
        { quote := some q, depth := depthOf opener closer seen } := by
  induction read using List.reverseRecOn with
  | nil => exact .inl ⟨[], .nil, rfl⟩
  | append_singleton read c ih =>
    rcases ih with ⟨seen, hseen, hread⟩ | ⟨front, q, inside, seen, rfl, hseen, hq, hinside, hread⟩
    · cases hc : isQuote c with
      | true =>
        refine .inr ⟨read, c, [], seen, rfl, hseen, hc, List.not_mem_nil, ?_⟩
        rw [nesting_concat, hread]
        simp [Nesting.step, hc]
      | false =>
        exact .inl ⟨seen ++ [c], hseen.plain hc, (hseen.plain hc).nesting_eq hb⟩
    · by_cases hend : c = q
      · subst hend
        exact .inl ⟨seen, hseen.quoted hq hinside, (hseen.quoted hq hinside).nesting_eq hb⟩
      · have hnot : q ∉ inside ++ [c] := by simpa [hinside] using Ne.symm hend
        refine .inr ⟨front, q, inside ++ [c], seen, by simp, hseen, hq, hnot, ?_⟩
        rw [nesting_concat, hread]
        simp [Nesting.step, hend]

/-- A text is level exactly where no run is open and the depth is zero. -/
theorem level_iff (hb : Brackets opener closer) :
    Level opener closer read ↔ nesting opener closer {} read = {} := by
  constructor
  · rintro ⟨seen, hseen, hcount⟩
    rw [hseen.nesting_eq hb, depthOf, hcount, Int.sub_self]
  · intro h
    rcases nesting_cases hb read with ⟨seen, hseen, hread⟩ | ⟨_, q, _, _, -, -, -, -, hread⟩
    · refine ⟨seen, hseen, ?_⟩
      have hdepth : depthOf opener closer seen = 0 := congrArg Nesting.depth (hread.symm.trans h)
      unfold depthOf at hdepth
      omega
    · have hquote : some q = none := congrArg Nesting.quote (hread.symm.trans h)
      cases hquote

theorem not_level_of_depth (hb : Brackets opener closer)
    (h : 1 ≤ (nesting opener closer {} read).depth) : ¬Level opener closer read := by
  rw [level_iff hb]
  intro hzero
  rw [hzero] at h
  exact absurd h (by decide)

/-- Behind an open quote no text is level that does not close it. -/
theorem Seen.not_level_of_open (hb : Brackets opener closer) (h : Seen read seen) {q : Char}
    (hq : isQuote q = true) {inside : List Char} (hinside : q ∉ inside) :
    ¬Level opener closer (read ++ q :: inside) := by
  have hopen : Nesting.step opener closer { depth := depthOf opener closer seen } q =
      { quote := some q, depth := depthOf opener closer seen } := by simp [Nesting.step, hq]
  rw [level_iff hb, nesting_append, h.nesting_eq hb, nesting, List.foldl_cons, hopen]
  intro hlevel
  have hquote : some q = none :=
    congrArg Nesting.quote ((nesting_inside hinside _).symm.trans hlevel)
  cases hquote

/-! ## The closing bracket -/

/-- Inside of a group, the search ends behind a bracket where the nesting is back at its start, and
before that the depth is positive. When it finds nothing, the depth is positive up to the end. -/
theorem closing_cases (hb : Brackets opener closer) (hn : 1 ≤ n.depth) (cs : List Char) :
    (∃ inside after, closing opener closer n cs = some (inside, after) ∧
      cs = inside ++ closer :: after ∧ nesting opener closer n (inside ++ [closer]) = {} ∧
      ∀ part, part <+: inside → 1 ≤ (nesting opener closer n part).depth) ∨
    (closing opener closer n cs = none ∧
      ∀ part, part <+: cs → 1 ≤ (nesting opener closer n part).depth) := by
  induction cs generalizing n with
  | nil =>
    refine .inr ⟨rfl, fun part hpart => ?_⟩
    rw [List.prefix_nil.1 hpart]
    exact hn
  | cons c cs ih =>
    have hnext : ∀ {xs : List Char}, 1 ≤ (n.step opener closer c).depth →
        (∀ part, part <+: xs → 1 ≤ (nesting opener closer (n.step opener closer c) part).depth) →
        ∀ part, part <+: c :: xs → 1 ≤ (nesting opener closer n part).depth := by
      intro xs hstep hxs part hpart
      rcases List.prefix_cons_iff.1 hpart with rfl | ⟨more, rfl, hmore⟩
      · exact hn
      · exact hxs more hmore
    rw [closing]
    by_cases hend : (n.quote.isNone && (n.step opener closer c).quote.isNone && c == closer &&
        (n.step opener closer c).depth == 0) = true
    · rw [if_pos hend]
      simp only [Bool.and_eq_true, Option.isNone_iff_eq_none, beq_iff_eq] at hend
      obtain ⟨⟨⟨-, hquote⟩, rfl⟩, hdepth⟩ := hend
      refine .inl ⟨[], cs, rfl, rfl, ?_, fun part hpart => ?_⟩
      · show n.step opener c c = {}
        rw [← hquote, ← hdepth]
      · rw [List.prefix_nil.1 hpart]
        exact hn
    · have hdepth := depth_of_not_closing hb hn hend
      rw [if_neg hend]
      rcases ih hdepth with ⟨inside, after, hfound, rfl, hclosed, hinside⟩ | ⟨hnone, hall⟩
      · exact .inl ⟨c :: inside, after, by rw [hfound]; rfl, rfl, hclosed, hnext hdepth hinside⟩
      · exact .inr ⟨by rw [hnone]; rfl, hnext hdepth hall⟩

/-- Reading the opening bracket starts a group. -/
theorem closing_opener (hb : Brackets opener closer) (cs : List Char) :
    closing opener closer {} (opener :: cs) =
      (closing opener closer { depth := 1 } cs).map fun p => (opener :: p.1, p.2) := by
  have hstep : Nesting.step opener closer {} opener = { depth := 1 } := by
    simp [Nesting.step, hb.opener_plain]
  rw [closing, hstep, if_neg (by simp)]

/-- The search from an opening bracket on, with what holds of the depth up to where it ends. -/
theorem closing_opener_cases (hb : Brackets opener closer) (cs : List Char) :
    (∃ inside after, closing opener closer {} (opener :: cs) = some (inside, after) ∧
      opener :: cs = inside ++ closer :: after ∧
      nesting opener closer {} (inside ++ [closer]) = {} ∧
      ∀ part, part <+: inside → part ≠ [] → 1 ≤ (nesting opener closer {} part).depth) ∨
    (closing opener closer {} (opener :: cs) = none ∧
      ∀ part, part <+: opener :: cs → part ≠ [] →
        1 ≤ (nesting opener closer {} part).depth) := by
  have hstep : Nesting.step opener closer {} opener = { depth := 1 } := by
    simp [Nesting.step, hb.opener_plain]
  have hpart : ∀ {xs : List Char},
      (∀ part, part <+: xs → 1 ≤ (nesting opener closer { depth := 1 } part).depth) →
      ∀ part, part <+: opener :: xs → part ≠ [] →
        1 ≤ (nesting opener closer {} part).depth := by
    intro xs hxs part hpart hne
    rcases List.prefix_cons_iff.1 hpart with rfl | ⟨more, rfl, hmore⟩
    · exact absurd rfl hne
    · rw [nesting, List.foldl_cons, hstep]
      exact hxs more hmore
  rw [closing_opener hb]
  rcases closing_cases (n := { depth := 1 }) hb (Int.le_refl 1) cs with
    ⟨inside, after, hfound, rfl, hclosed, hinside⟩ | ⟨hnone, hall⟩
  · refine .inl ⟨opener :: inside, after, by rw [hfound]; rfl, rfl, ?_, hpart hinside⟩
    rw [List.cons_append, nesting, List.foldl_cons, hstep]
    exact hclosed
  · exact .inr ⟨by rw [hnone]; rfl, hpart hall⟩

/-- From an opening bracket on, the one that closes it is where the text is level first. -/
theorem closing_eq_some_iff (hb : Brackets opener closer) {cs inside after : List Char} :
    closing opener closer {} (opener :: cs) = some (inside, after) ↔
      opener :: cs = inside ++ closer :: after ∧ Level opener closer (inside ++ [closer]) ∧
        ∀ part, part <+: inside → part ≠ [] → ¬Level opener closer part := by
  constructor
  · intro h
    rcases closing_opener_cases hb cs with
      ⟨inside', after', hfound, htext, hclosed, hbefore⟩ | ⟨hnone, -⟩
    · obtain ⟨rfl, rfl⟩ := Prod.mk.inj (Option.some.inj (hfound.symm.trans h))
      exact ⟨htext, (level_iff hb).2 hclosed,
        fun part hpart hne => not_level_of_depth hb (hbefore part hpart hne)⟩
    · rw [hnone] at h
      cases h
  · rintro ⟨htext, hlevel, hfirst⟩
    have hhere : inside ++ [closer] <+: opener :: cs := ⟨after, by rw [htext]; simp⟩
    rcases closing_opener_cases hb cs with
      ⟨inside', after', hfound, htext', hclosed, hbefore⟩ | ⟨-, hall⟩
    · have hthere : inside' ++ [closer] <+: opener :: cs := ⟨after', by rw [htext']; simp⟩
      -- neither of the two places lies before the other
      have hle : inside.length ≤ inside'.length := by
        by_contra hlt
        refine hfirst _ (List.prefix_of_prefix_length_le hthere ?_ ?_) (by simp)
          ((level_iff hb).2 hclosed)
        · exact (List.prefix_append _ _).trans hhere
        · simp
          omega
      have hge : inside'.length ≤ inside.length := by
        by_contra hlt
        refine not_level_of_depth hb (hbefore _ (List.prefix_of_prefix_length_le hhere ?_ ?_)
          (by simp)) hlevel
        · exact (List.prefix_append _ _).trans hthere
        · simp
          omega
      obtain ⟨rfl, hafter⟩ := List.append_inj (htext'.symm.trans htext) (Nat.le_antisymm hge hle)
      rw [hfound, (List.cons.inj hafter).2]
    · exact absurd hlevel (not_level_of_depth hb (hall _ hhere (by simp)))

/-- From an opening bracket on, there is none that closes it when the text is level nowhere. -/
theorem closing_eq_none_iff (hb : Brackets opener closer) {cs : List Char} :
    closing opener closer {} (opener :: cs) = none ↔
      ∀ part, part <+: opener :: cs → part ≠ [] → ¬Level opener closer part := by
  constructor
  · intro h part hpart hne
    rcases closing_opener_cases hb cs with ⟨inside, after, hfound, -⟩ | ⟨-, hall⟩
    · rw [h] at hfound
      cases hfound
    · exact not_level_of_depth hb (hall part hpart hne)
  · intro h
    rcases closing_opener_cases hb cs with ⟨inside, after, -, htext, hclosed, -⟩ | ⟨hnone, -⟩
    · refine absurd ((level_iff hb).2 hclosed) (h _ ⟨after, ?_⟩ (by simp))
      rw [htext]
      simp
    · exact hnone

end

end Chars

end BuildExpr
