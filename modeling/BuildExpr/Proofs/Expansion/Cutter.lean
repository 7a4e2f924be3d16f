import BuildExpr.Expander
import BuildExpr.Proofs.Expression.Chunks

/-!
# Cutting a text into pieces

`Chars.splitOutside` as a machine that reads a text character by character: its state is the
nesting of parentheses and the open quote, and it cuts at a `;` at depth zero. Every reference that
it enters outside of quotes it passes without a cut, and it leaves the reference in the state in
which it entered it (`run_of_isReference`).
-/

namespace BuildExpr

/-- How a text is nested where it is cut: the open parentheses, and the quote that is open inside
parentheses. -/
structure Cutter where
  depth : Nat := 0
  quote : Option Char := none
  deriving DecidableEq

namespace Cutter

/-- The state after one more character. -/
def step (s : Cutter) (c : Char) : Cutter :=
  match s.quote with
  | some q => if c == q then { s with quote := none } else s
  | none =>
    if 0 < s.depth && isQuote c then { s with quote := some c }
    else if c == '(' then { s with depth := s.depth + 1 }
    else if c == ')' then { s with depth := s.depth - 1 }
    else s

/-- Whether the text is cut at a character. -/
def cuts (s : Cutter) (c : Char) : Bool := s.quote.isNone && s.depth == 0 && c == ';'

/-- The state after a text. -/
def run (s : Cutter) (cs : List Char) : Cutter := cs.foldl step s

/-- The positions of the cuts in a text that begins at `pos`. -/
def cutsFrom (s : Cutter) (pos : Nat) : List Char → List Nat
  | [] => []
  | c :: cs =>
    if s.cuts c then pos :: (s.step c).cutsFrom (pos + c.utf8Size) cs
    else (s.step c).cutsFrom (pos + c.utf8Size) cs

/-- A text that is not cut. -/
def Quiet (s : Cutter) : List Char → Prop
  | [] => True
  | c :: cs => s.cuts c = false ∧ (s.step c).Quiet cs

@[simp] theorem run_nil (s : Cutter) : s.run [] = s := rfl

@[simp] theorem run_cons (s : Cutter) (c : Char) (cs : List Char) :
    s.run (c :: cs) = (s.step c).run cs := rfl

theorem run_append (s : Cutter) (xs ys : List Char) : s.run (xs ++ ys) = (s.run xs).run ys :=
  List.foldl_append

theorem cutsFrom_append (s : Cutter) (pos : Nat) (xs ys : List Char) :
    s.cutsFrom pos (xs ++ ys) =
      s.cutsFrom pos xs ++ (s.run xs).cutsFrom (pos + Chars.byteLength xs) ys := by
  induction xs generalizing s pos with
  | nil => rfl
  | cons c xs ih =>
    simp only [List.cons_append, cutsFrom, run_cons, ih, Chars.byteLength_cons, Nat.add_assoc]
    split <;> rfl

theorem cutsFrom_eq_nil {s : Cutter} {pos : Nat} {cs : List Char} :
    s.cutsFrom pos cs = [] ↔ s.Quiet cs := by
  induction cs generalizing s pos with
  | nil => simp [cutsFrom, Quiet]
  | cons c cs ih =>
    rw [cutsFrom, Quiet]
    cases s.cuts c with
    | true => simp
    | false => simpa using ih

theorem cuts_iff {s : Cutter} {c : Char} : s.cuts c = true ↔ s = {} ∧ c = ';' := by
  obtain ⟨depth, quote⟩ := s
  simp only [cuts, Bool.and_eq_true, Option.isNone_iff_eq_none, beq_iff_eq, Cutter.mk.injEq,
    and_comm]

/-- A text is cut when some `;` of it is reached at depth zero outside of quotes. -/
theorem not_quiet_iff {s : Cutter} {cs : List Char} :
    ¬s.Quiet cs ↔ ∃ xs ys, cs = xs ++ ';' :: ys ∧ s.run xs = {} := by
  induction cs generalizing s with
  | nil => simp [Quiet]
  | cons c cs ih =>
    rw [Quiet, Classical.not_and_iff_not_or_not, Bool.not_eq_false, ih, cuts_iff]
    constructor
    · rintro (⟨rfl, rfl⟩ | ⟨xs, ys, rfl, hrun⟩)
      · exact ⟨[], cs, rfl, rfl⟩
      · exact ⟨c :: xs, ys, rfl, hrun⟩
    · rintro ⟨xs, ys, hcs, hrun⟩
      cases xs with
      | nil =>
        obtain ⟨rfl, -⟩ := List.cons.inj hcs
        exact .inl ⟨hrun, rfl⟩
      | cons x xs =>
        obtain ⟨rfl, rfl⟩ := List.cons.inj hcs
        exact .inr ⟨xs, ys, rfl, hrun⟩

/-- A cut lies in the text. -/
theorem mem_cutsFrom {s : Cutter} {pos p : Nat} {cs : List Char} (h : p ∈ s.cutsFrom pos cs) :
    pos ≤ p ∧ p < pos + Chars.byteLength cs := by
  induction cs generalizing s pos with
  | nil => simp [cutsFrom] at h
  | cons c cs ih =>
    have hsize := c.utf8Size_pos
    rw [Chars.byteLength_cons]
    rw [cutsFrom] at h
    split at h
    · rcases List.mem_cons.1 h with rfl | h
      · omega
      · have := ih h
        omega
    · have := ih h
      omega

/-! ## Pieces -/

theorem splitOutside_cons (s : Cutter) (piece : List Char) (c : Char) (cs : List Char) :
    Chars.splitOutside s.depth s.quote piece (c :: cs) =
      if s.cuts c then
        piece.reverse :: Chars.splitOutside (s.step c).depth (s.step c).quote [] cs
      else Chars.splitOutside (s.step c).depth (s.step c).quote (c :: piece) cs := by
  obtain ⟨depth, quote⟩ := s
  cases quote with
  | some q =>
    simp only [Chars.splitOutside, cuts, step, Option.isNone_some, Bool.false_and,
      Bool.false_eq_true, if_false]
    split <;> rfl
  | none =>
    have hquotes : (c == '\'' || c == '\x60' || c == '"') = isQuote c := rfl
    simp only [Chars.splitOutside, cuts, step, hquotes, Option.isNone_none, Bool.true_and]
    by_cases hquote : (0 < depth && isQuote c) = true
    · have hdepth : (depth == 0) = false := by
        simp only [Bool.and_eq_true, decide_eq_true_eq] at hquote
        exact beq_eq_false_iff_ne.2 (Nat.ne_of_gt hquote.1)
      simp [hquote, hdepth]
    · by_cases hopen : c = '('
      · subst hopen
        simp [isQuote]
      · by_cases hclose : c = ')'
        · subst hclose
          simp [isQuote]
        · simp only [hquote, hopen, hclose, beq_iff_eq, Bool.false_eq_true, if_false]
          by_cases hcut : (c == ';' && depth == 0) = true
          · obtain ⟨hc, hdepth⟩ := Bool.and_eq_true_iff.1 hcut
            obtain rfl : depth = 0 := by simpa using hdepth
            simp [hc]
          · have hcut' : (depth == 0 && c == ';') = false := by
              rw [Bool.and_comm]
              simpa using hcut
            simp [hcut, hcut']

/-- A text that is not cut lengthens the piece before it. -/
theorem splitOutside_of_quiet {s : Cutter} {xs : List Char} (h : s.Quiet xs)
    (piece ys : List Char) :
    Chars.splitOutside s.depth s.quote piece (xs ++ ys) =
      Chars.splitOutside (s.run xs).depth (s.run xs).quote (xs.reverse ++ piece) ys := by
  induction xs generalizing s piece with
  | nil => rfl
  | cons c xs ih =>
    rw [List.cons_append, splitOutside_cons, h.1, if_neg Bool.false_ne_true, ih h.2]
    simp

/-! ## References -/

/-- Inside a group the text is cut nowhere, and the state follows the nesting of the group. -/
theorem step_of_nesting {n : Nesting} (hn : 1 ≤ n.depth) (base : Nat) (c : Char) :
    step ⟨base + n.depth.toNat, n.quote⟩ c =
        ⟨base + (n.step '(' ')' c).depth.toNat, (n.step '(' ')' c).quote⟩ ∧
      cuts ⟨base + n.depth.toNat, n.quote⟩ c = false := by
  obtain ⟨quote, depth⟩ := n
  simp only at hn
  have hdepth : 0 < base + depth.toNat := by omega
  refine ⟨?_, ?_⟩
  · cases quote with
    | some q =>
      simp only [step, Nesting.step]
      split <;> rfl
    | none =>
      simp only [step, Nesting.step, hdepth, decide_true, Bool.true_and]
      split
      · rfl
      · split
        · simp only [Cutter.mk.injEq, and_true]
          omega
        · split
          · simp only [Cutter.mk.injEq, and_true]
            omega
          · rfl
  · have : (base + depth.toNat == 0) = false := beq_eq_false_iff_ne.2 (by omega)
    simp [cuts, this]

/-- The inside of a group and its closing parenthesis, read from inside the group. -/
theorem run_of_closes {n : Nesting} {body : List Char} (h : Chars.Closes '(' ')' n body)
    (hn : 1 ≤ n.depth) (base : Nat) :
    run ⟨base + n.depth.toNat, n.quote⟩ (body ++ [')']) = ⟨base, none⟩ ∧
      Quiet ⟨base + n.depth.toNat, n.quote⟩ (body ++ [')']) := by
  induction body generalizing n with
  | nil =>
    have hclosing := h []
    rw [List.nil_append, Chars.closing] at hclosing
    split at hclosing
    · rename_i hclose
      simp only [Bool.and_eq_true, Option.isNone_iff_eq_none, beq_iff_eq] at hclose
      obtain ⟨⟨⟨-, hquote⟩, -⟩, hdepth⟩ := hclose
      obtain ⟨hstep, hcuts⟩ := step_of_nesting hn base ')'
      rw [hquote, hdepth] at hstep
      exact ⟨hstep, hcuts, trivial⟩
    · simp [Chars.closing] at hclosing
  | cons c body ih =>
    obtain ⟨-, hcloses, hdepth⟩ := h.of_cons hn
    obtain ⟨hstep, hcuts⟩ := step_of_nesting hn base c
    obtain ⟨hrun, hquiet⟩ := ih hcloses hdepth
    rw [List.cons_append, run_cons, Quiet, hstep]
    exact ⟨hrun, hcuts, hquiet⟩

/-- A reference that is entered outside of quotes is not cut and leaves the state as it was. -/
theorem run_of_isReference {s : Cutter} (hs : s.quote = none) {ref : List Char}
    (h : Chars.IsReference ref) : s.run ref = s ∧ s.Quiet ref := by
  obtain ⟨depth, quote⟩ := s
  obtain rfl : quote = none := hs
  obtain ⟨c, body, hc, hcloses, rfl⟩ := h
  obtain ⟨hrun, hquiet⟩ := run_of_closes hcloses (Int.le_refl 1) depth
  have hmark : step ⟨depth, none⟩ c = ⟨depth, none⟩ ∧ cuts ⟨depth, none⟩ c = false := by
    rcases hc with rfl | rfl | rfl <;> simp [step, cuts, isQuote]
  have hopen : step ⟨depth, none⟩ '(' = ⟨depth + 1, none⟩ ∧ cuts ⟨depth, none⟩ '(' = false := by
    simp [step, cuts, isQuote]
  rw [List.cons_append, List.cons_append, run_cons, run_cons, Quiet, Quiet, hmark.1, hopen.1]
  exact ⟨hrun, hmark.2, hopen.2, hquiet⟩

end Cutter

end BuildExpr
