import BuildExpr.Proofs.Source.Arguments
import BuildExpr.Proofs.Text.LowerForm

/-!
# Renderings of spans for developers

The escaped text of a span grows by a unit for each of its characters, which is the character itself
or an escape of seven-bit characters (`Chars.exists_shown_concat`). A byte of it that does not lie
between characters therefore lies in a wide character that is shown as itself
(`Chars.boundary_or_shownAcross`). So a span has a rendering exactly when the cut after
`Span.shownBytes` bytes meets no such character (`Span.rendered_iff`).
-/

namespace BuildExpr

namespace Chars

/-! ## Escaped texts -/

/-- Whether a text takes one byte a character. -/
def Narrow (cs : List Char) : Prop := ∀ c ∈ cs, c.utf8Size = 1

theorem narrow_hexText (n : ℕ) : Narrow (hexText n) := by
  have hdigit : ∀ digit < 16, (Nat.digitChar digit).utf8Size = 1 := by decide
  induction n using Nat.strongRecOn with
  | ind n ih =>
    rw [hexText]
    by_cases hn : n < 16
    · rw [Nat.toDigits_of_lt_base hn]
      simpa [Narrow] using hdigit n hn
    · have hn := Nat.le_of_not_lt hn
      rw [Nat.toDigits_of_base_le (by decide) hn]
      intro c hc
      rcases List.mem_append.1 hc with hc | hc
      · exact ih (n / 16) (Nat.div_lt_self (by omega) (by decide)) c hc
      · rw [List.mem_singleton.1 hc]
        exact hdigit _ (Nat.mod_lt n (by decide))

theorem narrow_codeEscape (c : Char) : Narrow (codeEscape c) := by
  have hends : Narrow ['\\', 'u', '\x7b'] ∧ Narrow ['\x7d'] := by
    simp only [Narrow, List.forall_mem_cons]
    exact ⟨⟨rfl, rfl, rfl, by simp⟩, rfl, by simp⟩
  intro d hd
  rw [codeEscape, List.mem_append, List.mem_append] at hd
  rcases hd with (hd | hd) | hd
  · exact hends.1 d hd
  · exact narrow_hexText _ d hd
  · exact hends.2 d hd

/-- A character is shown as itself or by an escape. -/
theorem shownChar_cases {quote : Char → Bool} (hquote : ∀ q, quote q = true → q.utf8Size = 1)
    (extending : Bool) (c : Char) :
    shownChar quote extending c = [c] ∨ Narrow (shownChar quote extending c) := by
  have hpair {d : Char} (hd : d.utf8Size = 1) : Narrow ['\\', d] := by
    intro e he
    rcases List.mem_pair.1 he with rfl | rfl
    · rfl
    · exact hd
  rw [shownChar]
  split_ifs with h0 ht hr hn hmark hextends hprintable
  · exact .inr (hpair rfl)
  · exact .inr (hpair rfl)
  · exact .inr (hpair rfl)
  · exact .inr (hpair rfl)
  · refine .inr (hpair ?_)
    rcases Bool.or_eq_true_iff.1 hmark with hslash | hc
    · rw [beq_iff_eq.1 hslash]
      rfl
    · exact hquote c hc
  · exact .inr (narrow_codeEscape c)
  · exact .inl rfl
  · exact .inr (narrow_codeEscape c)

/-- What a character adds to an escaped text does not depend on what follows: the character itself,
or an escape. -/
theorem exists_shown_concat (before : List Char) (c : Char) :
    ∃ unit, (∀ after, ∃ more, shown (before ++ c :: after) = shown before ++ unit ++ more) ∧
      shown (before ++ [c]) = shown before ++ unit ∧ (unit = [c] ∨ Narrow unit) := by
  have hquote : ∀ q : Char, (q == '"' || q == '\'') = true → q.utf8Size = 1 := by
    intro q hq
    rcases Bool.or_eq_true_iff.1 hq with hq | hq <;> rw [beq_iff_eq.1 hq] <;> rfl
  refine ⟨shownChar (fun q => q == '"' || q == '\'') before.isEmpty c, fun after => ?_, ?_,
    shownChar_cases hquote _ c⟩
  · cases before with
    | nil => exact ⟨_, rfl⟩
    | cons b before =>
      refine ⟨after.flatMap (shownChar (fun q => q == '"' || q == '\'') false), ?_⟩
      simp [shown]
  · cases before with
    | nil => simp [shown]
    | cons b before => simp [shown]

/-! ## Bytes between characters -/

/-- Whether byte `n` of a text lies between two of its characters, or at one of its ends. -/
def Boundary (n : ℕ) (cs : List Char) : Prop :=
  ∃ front after, cs = front ++ after ∧ byteLength front = n

variable {n : ℕ} {cs : List Char}

theorem Boundary.append (h : Boundary n cs) (more : List Char) : Boundary n (cs ++ more) := by
  obtain ⟨front, after, rfl, hfront⟩ := h
  exact ⟨front, after ++ more, List.append_assoc .., hfront⟩

theorem takeBytes?_eq_none_iff : takeBytes? n cs = none ↔ ¬Boundary n cs := by
  rw [← not_iff_not, not_not]
  constructor
  · intro h
    obtain ⟨front, hfront⟩ := Option.ne_none_iff_exists'.1 h
    obtain ⟨after, htext, hlength⟩ := Cursor.takeBytes?_eq_some hfront
    exact ⟨front, after, htext, hlength⟩
  · rintro ⟨front, after, rfl, rfl⟩
    rw [Rest.takeBytes?_append]
    exact Option.some_ne_none front

theorem Narrow.boundary (h : Narrow cs) (hn : n ≤ byteLength cs) : Boundary n cs := by
  induction cs generalizing n with
  | nil => exact ⟨[], [], rfl, (Nat.le_zero.1 hn).symm⟩
  | cons c cs ih =>
    obtain ⟨hc, hcs⟩ := List.forall_mem_cons.1 h
    cases n with
    | zero => exact ⟨[], c :: cs, rfl, rfl⟩
    | succ n =>
      rw [byteLength_cons, hc] at hn
      obtain ⟨front, after, rfl, hfront⟩ := ih hcs (n := n) (by omega)
      exact ⟨c :: front, after, rfl, by rw [byteLength_cons, hc, hfront, Nat.add_comm]⟩

/-- A byte inside a character is no boundary. -/
theorem not_boundary {before after : List Char} {c : Char} (hbefore : byteLength before < n)
    (hafter : n < byteLength before + c.utf8Size) : ¬Boundary n (before ++ c :: after) := by
  rintro ⟨front, more, htext, rfl⟩
  rcases List.append_eq_append_iff.1 htext with ⟨part, rfl, hpart⟩ | ⟨part, rfl, -⟩
  · -- the front goes on behind `before`, so it has the whole character
    cases part with
    | nil => simp at hbefore
    | cons d part =>
      obtain ⟨rfl, -⟩ := List.cons.inj hpart
      simp only [byteLength_append, byteLength_cons] at hafter
      omega
  · simp only [byteLength_append] at hbefore
    omega

/-- A character of a text that its escaped form shows as itself, over byte `n` of that form. -/
def ShownAcross (n : ℕ) (cs : List Char) : Prop :=
  ∃ before c after, cs = before ++ c :: after ∧ shown (before ++ [c]) = shown before ++ [c] ∧
    byteLength (shown before) < n ∧ n < byteLength (shown before) + c.utf8Size

/-- A byte of an escaped text that is no boundary lies in a character that is shown as itself. -/
theorem boundary_or_shownAcross (hn : n ≤ byteLength (shown cs)) :
    Boundary n (shown cs) ∨ ShownAcross n cs := by
  induction cs using List.reverseRecOn with
  | nil => exact .inl ⟨[], [], rfl, (Nat.le_zero.1 hn).symm⟩
  | append_singleton cs c ih =>
    obtain ⟨unit, -, hunit, hcases⟩ := exists_shown_concat cs c
    by_cases hle : n ≤ byteLength (shown cs)
    · rcases ih hle with hboundary | ⟨before, d, after, rfl, hcut⟩
      · exact .inl (hunit ▸ hboundary.append unit)
      · exact .inr ⟨before, d, after ++ [c], by simp, hcut⟩
    · have hlt := Nat.lt_of_not_le hle
      rw [hunit, byteLength_append] at hn
      by_cases hend : n = byteLength (shown cs) + byteLength unit
      · exact .inl ⟨shown (cs ++ [c]), [], by simp, by rw [hunit, byteLength_append, hend]⟩
      rcases hcases with rfl | hnarrow
      · have hsize : byteLength [c] = c.utf8Size := by simp
        exact .inr ⟨cs, c, [], rfl, hunit, hlt, by omega⟩
      · obtain ⟨front, after, rfl, hfront⟩ :=
          hnarrow.boundary (n := n - byteLength (shown cs)) (by omega)
        refine .inl ⟨shown cs ++ front, after, by rw [hunit, List.append_assoc], ?_⟩
        rw [byteLength_append, hfront]
        omega

theorem ShownAcross.not_boundary (h : ShownAcross n cs) : ¬Boundary n (shown cs) := by
  obtain ⟨before, c, after, rfl, hself, hbefore, hafter⟩ := h
  obtain ⟨unit, hmore, hunit, -⟩ := exists_shown_concat before c
  obtain ⟨more, hshown⟩ := hmore after
  obtain rfl : [c] = unit := List.append_cancel_left (hself.symm.trans hunit)
  rw [hshown, List.append_assoc]
  exact Chars.not_boundary hbefore hafter

theorem ShownAcross.lt (h : ShownAcross n cs) : n < byteLength (shown cs) := by
  obtain ⟨before, c, after, rfl, hself, hbefore, hafter⟩ := h
  obtain ⟨unit, hmore, hunit, -⟩ := exists_shown_concat before c
  obtain ⟨more, hshown⟩ := hmore after
  obtain rfl : [c] = unit := List.append_cancel_left (hself.symm.trans hunit)
  rw [hshown]
  simp only [byteLength_append, byteLength_cons, byteLength_nil]
  omega

end Chars

namespace Span

open Chars

theorem show?_eq_none_iff (s : Span) :
    s.show? = none ↔ shownBytes < byteLength (shown s.text.toList) ∧
      ¬Boundary shownBytes (shown s.text.toList) := by
  simp only [show?]
  split
  case isTrue hle => simp [Nat.not_lt.2 hle]
  case isFalse hlt =>
    rw [Option.map_eq_none_iff, takeBytes?_eq_none_iff]
    exact ⟨fun h => ⟨Nat.lt_of_not_le hlt, h⟩, And.right⟩

/-- A span has a rendering, and the byte of its escaped text at which a longer one is cut is a
boundary, exactly when that byte is not inside a character that is shown as itself. -/
theorem rendered_iff (s : Span) :
    ((∃ rendering, s.show? = some rendering) ↔ ¬ShownAcross shownBytes s.text.toList) ∧
      ((shownBytes < byteLength (shown s.text.toList) →
        Boundary shownBytes (shown s.text.toList)) ↔ ¬ShownAcross shownBytes s.text.toList) := by
  have hboundary : (shownBytes < byteLength (shown s.text.toList) →
      Boundary shownBytes (shown s.text.toList)) ↔ ¬ShownAcross shownBytes s.text.toList := by
    constructor
    · exact fun h hcut => hcut.not_boundary (h hcut.lt)
    · exact fun hcut hlt => (boundary_or_shownAcross (Nat.le_of_lt hlt)).resolve_right hcut
  refine ⟨?_, hboundary⟩
  rw [← hboundary, ← Option.ne_none_iff_exists', ne_eq, show?_eq_none_iff, not_and, not_not]

/-- Fifteen tabs are shown in 30 bytes, so the cut is inside the wide character behind them, and
this text has no rendering. -/
theorem exists_span_not_rendered :
    ∃ source start stop s, slice? source start stop = some s ∧ s.show? = none ∧
      shownBytes < byteLength (shown s.text.toList) ∧
      ¬Boundary shownBytes (shown s.text.toList) := by
  let tabs := List.replicate 15 '\t'
  let source := String.ofList (tabs ++ ['中'])
  have hwide : Text.isPrintable '中' = true := by
    rw [Text.isPrintable, Text.has_eq_any]
    decide +kernel
  have hacross : ShownAcross shownBytes (ofText source).text.toList := by
    rw [ofText, String.toList_ofList]
    refine ⟨tabs, '中', [], rfl, ?_, by decide, by decide⟩
    simp [tabs, shown, shownChar, hwide, List.replicate_succ]
  have hslice : slice? source 0 18 = some (ofText source) := by decide +kernel
  have hnone := (show?_eq_none_iff (ofText source)).2 ⟨hacross.lt, hacross.not_boundary⟩
  exact ⟨source, 0, 18, _, hslice, hnone, hacross.lt, hacross.not_boundary⟩

end Span

end BuildExpr
