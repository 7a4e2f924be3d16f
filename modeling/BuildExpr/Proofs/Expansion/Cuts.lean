import BuildExpr.Proofs.Expansion.Cutter
import BuildExpr.Proofs.Expression.Coverage
import BuildExpr.Proofs.Source.Cursors

/-!
# Cuts and references

Where a text is cut into pieces, and which cuts lie inside of its references. The cutter counts
the parentheses of plain text too and opens quotes inside them, so it can come to a reference with
an open quote that the reader of the tree knows nothing of; only then a cut may lie in the
reference (`cut_in_reference_iff`).
-/

namespace BuildExpr

/-- The positions of the `;` at which a text is cut into pieces. -/
def Expander.cuts (text : String) : List Nat :=
  (Rest.pieces 0 (Chars.splitOutside 0 none [] text.toList)).dropLast.map Rest.stop

namespace Cutter

/-- The state in which the cutter comes to a position of a text. -/
def before (text : String) (pos : Nat) : Cutter := run {} (Chars.upToByte pos 0 text.toList)

/-! ## Positions of the cuts -/

theorem splitOutside_ne_nil (s : Cutter) (piece cs : List Char) :
    Chars.splitOutside s.depth s.quote piece cs ≠ [] := by
  induction cs generalizing s piece with
  | nil => simp [Chars.splitOutside]
  | cons c cs ih =>
    rw [splitOutside_cons]
    split
    · simp
    · exact ih _ _

/-- The pieces but the last end at the cuts. -/
theorem stops_splitOutside (s : Cutter) (start : Nat) (piece cs : List Char) :
    (Rest.pieces start (Chars.splitOutside s.depth s.quote piece cs)).dropLast.map Rest.stop =
      s.cutsFrom (start + Chars.byteLength piece.reverse) cs := by
  induction cs generalizing s start piece with
  | nil => simp [Chars.splitOutside, Rest.pieces, cutsFrom]
  | cons c cs ih =>
    rw [splitOutside_cons, cutsFrom]
    split
    · rename_i hcut
      obtain rfl : c = ';' := by
        simp only [cuts, Bool.and_eq_true, beq_iff_eq] at hcut
        exact hcut.2
      have hsize : (';' : Char).utf8Size = 1 := rfl
      have hmore : Rest.pieces (start + Chars.byteLength piece.reverse + 1)
          (Chars.splitOutside (s.step ';').depth (s.step ';').quote [] cs) ≠ [] := by
        have := splitOutside_ne_nil (s.step ';') [] cs
        cases hpieces : Chars.splitOutside (s.step ';').depth (s.step ';').quote [] cs with
        | nil => exact absurd hpieces this
        | cons next more => simp [Rest.pieces]
      rw [Rest.pieces, List.dropLast_cons_of_ne_nil hmore, List.map_cons, ih, hsize]
      rfl
    · rw [ih]
      simp [Nat.add_assoc]

theorem cuts_eq (text : String) : Expander.cuts text = cutsFrom {} 0 text.toList := by
  have := stops_splitOutside {} 0 [] text.toList
  simpa [Expander.cuts] using this

/-- The state behind the front of a text. -/
theorem before_eq {text : String} {xs ys : List Char} (h : text.toList = xs ++ ys) :
    before text (Chars.byteLength xs) = run {} xs := by
  have := Chars.upToByte_append 0 xs ys
  rw [Nat.zero_add] at this
  rw [before, h, this]

/-- The cuts that lie in a part of a text are those that the cutter makes in it. -/
theorem exists_cut_iff {text : String} {s : Span} (h : s.toRest.Within (Rest.ofText text)) :
    (∃ p ∈ Expander.cuts text, s.start ≤ p ∧ p < s.stop) ↔
      ¬(before text s.start).Quiet s.text.toList := by
  obtain ⟨xs, ys, htext, hpos⟩ := h
  simp only [Rest.ofText, Span.toRest_chars, Span.toRest_pos, Nat.zero_add] at htext hpos
  rw [List.append_assoc] at htext
  have hcuts : Expander.cuts text =
      cutsFrom {} 0 xs ++ ((run {} xs).cutsFrom s.start s.text.toList ++
        ((run {} xs).run s.text.toList).cutsFrom s.stop ys) := by
    rw [cuts_eq, htext, cutsFrom_append, cutsFrom_append, Nat.zero_add, ← hpos]
    rfl
  have hquiet : (before text s.start).Quiet s.text.toList ↔
      (run {} xs).cutsFrom s.start s.text.toList = [] := by
    rw [hpos, before_eq htext, cutsFrom_eq_nil]
  rw [hcuts, hquiet]
  constructor
  · rintro ⟨p, hp, hstart, hstop⟩ hnil
    rw [hnil, List.nil_append] at hp
    rcases List.mem_append.1 hp with hp | hp
    · have := (mem_cutsFrom hp).2
      omega
    · have := (mem_cutsFrom hp).1
      omega
  · intro hne
    obtain ⟨p, hp⟩ := List.exists_mem_of_ne_nil _ hne
    obtain ⟨hstart, hstop⟩ := mem_cutsFrom hp
    exact ⟨p, by simp [hp], hstart, hstop⟩

/-! ## Texts without an opening parenthesis in plain text -/

theorem run_of_no_opening {cs : List Char} (h : '(' ∉ cs) : run {} cs = {} := by
  induction cs with
  | nil => rfl
  | cons c cs ih =>
    rw [List.mem_cons, not_or] at h
    have hstep : step {} c = {} := by
      simp [step, Ne.symm h.1]
    rw [run_cons, hstep, ih h.2]

/-- Outside of its references the cutter is at depth zero if no plain text opens a parenthesis. -/
theorem before_eq_of_no_opening {options : Options} {segments : List Segment} {pos : Nat}
    {cs : List Char} (htiles : Rest.Tiles pos cs (segments.map Segment.span))
    (htold : ∀ s ∈ segments, s.Told options)
    (hopen : ∀ s, Segment.literal s ∈ segments → '(' ∉ s.text.toList) :
    ∀ s ∈ segments, ∃ xs ys, cs = xs ++ ys ∧ s.span.start = pos + Chars.byteLength xs ∧
      run {} xs = {} := by
  induction segments generalizing pos cs with
  | nil => simp
  | cons first segments ih =>
    obtain ⟨hstart, -, more, rfl, hmore⟩ := htiles
    have hfirst : run {} first.span.text.toList = {} := by
      have hreference (h : Chars.IsReference first.span.text.toList) :
          run {} first.span.text.toList = {} :=
        (run_of_isReference rfl h).1
      have htold := htold first (by simp)
      cases first with
      | literal span => exact run_of_no_opening (hopen span (by simp))
      | property ref => exact hreference htold
      | items list => exact hreference htold
      | metadata ref => exact hreference htold
    intro s hs
    rcases List.mem_cons.1 hs with rfl | hs
    · exact ⟨[], _, rfl, by simpa using hstart, rfl⟩
    · obtain ⟨xs, ys, rfl, hpos, hrun⟩ := ih hmore (fun s hs => htold s (by simp [hs]))
        (fun s hs => hopen s (by simp [hs])) s hs
      refine ⟨first.span.text.toList ++ xs, ys, by simp, ?_, ?_⟩
      · rw [hpos, Span.stop, hstart, Chars.byteLength_append, Nat.add_assoc]
      · rw [run_append, hfirst, hrun]

end Cutter

/-- A cut lies in a reference exactly when the cutter comes to a reference with a quote open and is
at depth zero at some `;` of it. If no plain text of the tree opens a parenthesis no cut does. -/
theorem cut_in_reference_iff {options : Options} {text : String} {e : Expression}
    (h : Expression.parse options text = .ok e) :
    ((∃ p ∈ Expander.cuts text, ∃ s ∈ e.segments, s.isLiteral = false ∧
        s.span.start ≤ p ∧ p < s.span.stop) ↔
      ∃ s ∈ e.segments, s.isLiteral = false ∧
        (Cutter.before text s.span.start).quote ≠ none ∧
        ∃ cs ds, s.span.text.toList = cs ++ ';' :: ds ∧
          (Cutter.before text s.span.start).run cs = { depth := 0, quote := none }) ∧
    ((∀ s, Segment.literal s ∈ e.segments → '(' ∉ s.text.toList) →
      ∀ p ∈ Expander.cuts text, ∀ s ∈ e.segments, s.isLiteral = false →
        ¬(s.span.start ≤ p ∧ p < s.span.stop)) := by
  obtain ⟨hspan, hplaced, htold⟩ := Expression.sound_parse h
  have htext : e.span.toRest = Rest.ofText text := by
    rw [hspan]
    rfl
  have hwithin {s : Segment} (hs : s ∈ e.segments) : s.span.toRest.Within (Rest.ofText text) := by
    have := hplaced.here.within s.node (List.mem_map_of_mem hs)
    rwa [TreeNode.span_node, TreeNode.span, htext] at this
  have hreference {s : Segment} (hs : s ∈ e.segments) (hliteral : s.isLiteral = false) :
      Chars.IsReference s.span.text.toList := by
    have := htold s hs
    cases s with
    | literal span => cases hliteral
    | property ref => exact this
    | items list => exact this
    | metadata ref => exact this
  constructor
  · constructor
    · rintro ⟨p, hp, s, hs, hliteral, hin⟩
      have hcut := (Cutter.exists_cut_iff (hwithin hs)).1 ⟨p, hp, hin⟩
      refine ⟨s, hs, hliteral, fun hquote => ?_, Cutter.not_quiet_iff.1 hcut⟩
      exact hcut (Cutter.run_of_isReference hquote (hreference hs hliteral)).2
    · rintro ⟨s, hs, hliteral, -, hcut⟩
      obtain ⟨p, hp, hin⟩ :=
        (Cutter.exists_cut_iff (hwithin hs)).2 (Cutter.not_quiet_iff.2 hcut)
      exact ⟨p, hp, s, hs, hliteral, hin⟩
  · intro hopen p hp s hs hliteral hin
    have htiles : Rest.Tiles 0 text.toList (e.segments.map Segment.span) := by
      have := hplaced.here.tiles e rfl
      rwa [hspan] at this
    obtain ⟨xs, ys, hxs, hpos, hrun⟩ := Cutter.before_eq_of_no_opening htiles htold hopen s hs
    have hstart : s.span.start = Chars.byteLength xs := by simpa using hpos
    have hbefore : Cutter.before text s.span.start = {} := by
      rw [hstart, Cutter.before_eq hxs, hrun]
    refine (Cutter.exists_cut_iff (hwithin hs)).1 ⟨p, hp, hin⟩ ?_
    rw [hbefore]
    exact (Cutter.run_of_isReference rfl (hreference hs hliteral)).2

theorem cut_in_reference_iff_of_list :
    ∃ e, Expression.parse .all "a;$(B.C(';'))" = .ok e ∧
      e.segments.map Segment.span = [⟨0, "a;"⟩, ⟨2, "$(B.C(';'))"⟩] ∧
      ∀ p ∈ Expander.cuts "a;$(B.C(';'))", ∀ s ∈ e.segments, s.isLiteral = false →
        ¬(s.span.start ≤ p ∧ p < s.span.stop) := by
  have hsegments : (Expression.parse .all "a;$(B.C(';'))").toOption.map
      (fun e => (e.segments.map Segment.span, e.segments.all fun s =>
        !s.isLiteral || !s.span.text.toList.contains '(')) =
        some ([⟨0, "a;"⟩, ⟨2, "$(B.C(';'))"⟩], true) := by
    decide +kernel
  cases h : Expression.parse .all "a;$(B.C(';'))" with
  | error m =>
    rw [h] at hsegments
    cases hsegments
  | ok e =>
    rw [h] at hsegments
    obtain ⟨hspans, hplain⟩ := Prod.mk.inj (Option.some.inj hsegments)
    refine ⟨e, rfl, hspans, (cut_in_reference_iff h).2 fun s hs hopen => ?_⟩
    have := List.all_eq_true.1 hplain _ hs
    simp [Segment.isLiteral, Segment.span, hopen] at this

/-- A parenthesis and an apostrophe in plain text hide the opening of the reference behind them, and
the first argument closes them both: the `;` between the apostrophes of the second is cut at. -/
theorem exists_cut_in_reference :
    ∃ e, Expression.parse .all "('$(A.Replace(')', ';'))" = .ok e ∧
      ∃ p ∈ Expander.cuts "('$(A.Replace(')', ';'))", ∃ s ∈ e.segments, s.isLiteral = false ∧
        s.span.start ≤ p ∧ p < s.span.stop := by
  have hcut : (Expression.parse .all "('$(A.Replace(')', ';'))").toOption.any (fun e =>
      (Expander.cuts "('$(A.Replace(')', ';'))").any fun p => e.segments.any fun s =>
        s.isLiteral == false && decide (s.span.start ≤ p ∧ p < s.span.stop)) = true := by
    decide +kernel
  cases h : Expression.parse .all "('$(A.Replace(')', ';'))" with
  | error m =>
    rw [h] at hcut
    cases hcut
  | ok e =>
    rw [h] at hcut
    obtain ⟨p, hp, hin⟩ := List.any_eq_true.1 hcut
    obtain ⟨s, hs, hin⟩ := List.any_eq_true.1 hin
    simp only [Bool.and_eq_true, beq_iff_eq, decide_eq_true_eq] at hin
    exact ⟨e, rfl, p, hp, s, hs, hin⟩

end BuildExpr
