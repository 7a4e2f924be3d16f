import BuildExpr.Proofs.Source.Closing
import BuildExpr.Source.Rest

/-!
# Parts of a source text

`Rest.Within` says that a piece of text is the part of another between two of its characters,
at the byte where that part begins; `Rest.Tail` that it is the end of another. Every reading step
yields parts of what it reads: names, groups, quoted runs, trimmed texts, the pieces of an
argument list. A span within a text lies between characters (`Rest.Within.slice?`).
-/

namespace BuildExpr

namespace Span

/-- The text of a span with its position. -/
def toRest (s : Span) : Rest := ⟨s.start, s.text.toList⟩

@[simp] theorem toRest_pos (s : Span) : s.toRest.pos = s.start := rfl

@[simp] theorem toRest_chars (s : Span) : s.toRest.chars = s.text.toList := rfl

@[simp] theorem toRest_mk (start : Nat) (cs : List Char) :
    toRest ⟨start, String.ofList cs⟩ = ⟨start, cs⟩ := by
  simp [toRest]

end Span

namespace Rest

@[simp] theorem toRest_span (r : Rest) : r.span.toRest = r := by
  simp [span]

/-- The position after the last byte. -/
def stop (r : Rest) : Nat := r.pos + Chars.byteLength r.chars

/-- A part of a text: what lies between two of its characters. -/
def Within (inner outer : Rest) : Prop :=
  ∃ before after, outer.chars = before ++ inner.chars ++ after ∧
    inner.pos = outer.pos + Chars.byteLength before

/-- A part of a text that neither begins nor ends where the text does. -/
def Inside (inner outer : Rest) : Prop :=
  ∃ before after, before ≠ [] ∧ after ≠ [] ∧ outer.chars = before ++ inner.chars ++ after ∧
    inner.pos = outer.pos + Chars.byteLength before

/-- The end of a text from one of its characters on. -/
def Tail (later r : Rest) : Prop :=
  ∃ before, r.chars = before ++ later.chars ∧ later.pos = r.pos + Chars.byteLength before

theorem Within.refl (r : Rest) : r.Within r := ⟨[], [], by simp, by simp⟩

theorem Within.trans {a b c : Rest} (hab : a.Within b) (hbc : b.Within c) : a.Within c := by
  obtain ⟨xs, ys, hb, hpos⟩ := hab
  obtain ⟨us, vs, hc, hpos'⟩ := hbc
  refine ⟨us ++ xs, ys ++ vs, by simp [hc, hb], ?_⟩
  rw [hpos, hpos', Chars.byteLength_append, Nat.add_assoc]

theorem Inside.within {a b : Rest} (h : a.Inside b) : a.Within b :=
  let ⟨xs, ys, _, _, hb, hpos⟩ := h
  ⟨xs, ys, hb, hpos⟩

theorem Within.trans_inside {a b c : Rest} (hab : a.Within b) (hbc : b.Inside c) :
    a.Inside c := by
  obtain ⟨xs, ys, hb, hpos⟩ := hab
  obtain ⟨us, vs, hu, hv, hc, hpos'⟩ := hbc
  refine ⟨us ++ xs, ys ++ vs, by simp [hu], by simp [hv], by simp [hc, hb], ?_⟩
  rw [hpos, hpos', Chars.byteLength_append, Nat.add_assoc]

theorem Tail.refl (r : Rest) : r.Tail r := ⟨[], by simp, by simp⟩

theorem Tail.trans {a b c : Rest} (hab : a.Tail b) (hbc : b.Tail c) : a.Tail c := by
  obtain ⟨xs, hb, hpos⟩ := hab
  obtain ⟨us, hc, hpos'⟩ := hbc
  refine ⟨us ++ xs, by simp [hc, hb], ?_⟩
  rw [hpos, hpos', Chars.byteLength_append, Nat.add_assoc]

theorem Tail.within {a b : Rest} (h : a.Tail b) : a.Within b :=
  let ⟨xs, hb, hpos⟩ := h
  ⟨xs, [], by simp [hb], hpos⟩

/-- A part is no longer than the text. -/
theorem Within.length_le {a b : Rest} (h : a.Within b) : a.chars.length ≤ b.chars.length := by
  obtain ⟨xs, ys, hb, -⟩ := h
  simp only [hb, List.length_append]
  omega

theorem Within.isInfix {a b : Rest} (h : a.Within b) : a.chars <:+: b.chars := by
  obtain ⟨xs, ys, hb, -⟩ := h
  exact ⟨xs, ys, hb.symm⟩

/-! ## Positions -/

theorem Within.pos_le {a b : Rest} (h : a.Within b) : b.pos ≤ a.pos := by
  obtain ⟨xs, ys, -, hpos⟩ := h
  omega

theorem Within.stop_le {a b : Rest} (h : a.Within b) : a.stop ≤ b.stop := by
  obtain ⟨xs, ys, hb, hpos⟩ := h
  simp only [stop, hb, hpos, Chars.byteLength_append]
  omega

theorem Tail.stop_eq {r after : Rest} (h : after.Tail r) : after.stop = r.stop := by
  obtain ⟨cs, hcs, hpos⟩ := h
  simp only [stop, hcs, hpos, Chars.byteLength_append]
  omega

theorem byteLength_pos {cs : List Char} (h : cs ≠ []) : 0 < Chars.byteLength cs := by
  cases cs with
  | nil => exact absurd rfl h
  | cons c cs =>
    have := c.utf8Size_pos
    rw [Chars.byteLength_cons]
    omega

theorem Inside.lt_pos {a b : Rest} (h : a.Inside b) : b.pos < a.pos := by
  obtain ⟨xs, ys, hx, -, -, hpos⟩ := h
  have := byteLength_pos hx
  omega

theorem Inside.stop_lt {a b : Rest} (h : a.Inside b) : a.stop < b.stop := by
  obtain ⟨xs, ys, -, hy, hb, hpos⟩ := h
  have := byteLength_pos hy
  simp only [stop, hb, hpos, Chars.byteLength_append]
  omega

/-! ## Characters and bytes -/

theorem dropBytes?_append (xs ys : List Char) :
    Chars.dropBytes? (Chars.byteLength xs) (xs ++ ys) = some ys := by
  induction xs with
  | nil =>
    cases ys <;> rfl
  | cons c xs ih =>
    obtain ⟨n, hn⟩ : ∃ n, Chars.byteLength (c :: xs) = n + 1 :=
      ⟨_, (Nat.succ_pred_eq_of_pos (byteLength_pos (by simp))).symm⟩
    have hsize : Chars.byteLength xs = n + 1 - c.utf8Size := by
      rw [← hn, Chars.byteLength_cons]
      omega
    rw [hn, List.cons_append, Chars.dropBytes?, if_pos, ← hsize, ih]
    rw [← hn, Chars.byteLength_cons]
    omega

theorem takeBytes?_append (xs ys : List Char) :
    Chars.takeBytes? (Chars.byteLength xs) (xs ++ ys) = some xs := by
  induction xs with
  | nil =>
    cases ys <;> rfl
  | cons c xs ih =>
    obtain ⟨n, hn⟩ : ∃ n, Chars.byteLength (c :: xs) = n + 1 :=
      ⟨_, (Nat.succ_pred_eq_of_pos (byteLength_pos (by simp))).symm⟩
    have hsize : Chars.byteLength xs = n + 1 - c.utf8Size := by
      rw [← hn, Chars.byteLength_cons]
      omega
    rw [hn, List.cons_append, Chars.takeBytes?, if_pos, ← hsize, ih]
    · rfl
    · rw [← hn, Chars.byteLength_cons]
      omega

/-- Both ends of a part of a text lie between characters of the text, and what lies between them
is the part. -/
theorem Within.slice? {s : Span} {text : String} (h : s.toRest.Within (ofText text)) :
    Span.slice? text s.start s.stop = some s := by
  obtain ⟨xs, ys, htext, hpos⟩ := h
  simp only [ofText, Span.toRest_chars, Span.toRest_pos, Nat.zero_add] at htext hpos
  have hdrop : Chars.dropBytes? s.start text.toList = some (s.text.toList ++ ys) := by
    rw [htext, hpos, List.append_assoc, dropBytes?_append]
  have htake : Chars.takeBytes? (s.stop - s.start) (s.text.toList ++ ys) =
      some s.text.toList := by
    rw [Span.stop, Nat.add_sub_cancel_left, takeBytes?_append]
  simp [Span.slice?, hdrop, htake]

/-! ## Reading steps -/

theorem tail_drop (r : Rest) (n : Nat) : (r.drop n).Tail r :=
  ⟨r.chars.take n, by simp [drop], rfl⟩

theorem tail_next (r : Rest) : r.next.Tail r := tail_drop r 1

theorem tail_skipBlanks (r : Rest) : r.skipBlanks.Tail r :=
  ⟨_, List.takeWhile_append_dropWhile.symm, rfl⟩

theorem within_trimmed (r : Rest) : r.trimmed.Within r := by
  obtain ⟨us, hus⟩ : ∃ us, Chars.trimStart r.chars = Chars.trim r.chars ++ us := by
    refine ⟨((Chars.trimStart r.chars).reverse.takeWhile Chars.isBlank).reverse, ?_⟩
    rw [Chars.trim, Chars.trimEnd, Chars.dropEndWhile, ← List.reverse_append,
      List.takeWhile_append_dropWhile, List.reverse_reverse]
  refine ⟨r.chars.takeWhile Chars.isBlank, us, ?_, rfl⟩
  rw [trimmed, List.append_assoc, ← hus, Chars.trimStart, List.takeWhile_append_dropWhile]

theorem nameTail_append (dash : Bool) (cs : List Char) :
    (Chars.nameTail dash cs).1 ++ (Chars.nameTail dash cs).2 = cs := by
  induction cs with
  | nil => rfl
  | cons c cs ih =>
    rw [Chars.nameTail]
    split
    · simpa using ih
    · rfl

/-- A name is the front of a text, and what follows it the end. -/
theorem name?_eq_some {dash : Bool} {r after : Rest} {name : Span}
    (h : r.name? dash = some (name, after)) :
    ∃ cs, cs ≠ [] ∧ r.chars = cs ++ after.chars ∧ name = ⟨r.pos, String.ofList cs⟩ ∧
      after.pos = r.pos + Chars.byteLength cs := by
  obtain ⟨⟨cs, rest⟩, hcs, he⟩ := Option.map_eq_some_iff.1 h
  obtain ⟨rfl, rfl⟩ := Prod.mk.inj he
  cases hr : r.chars with
  | nil => simp [hr, Chars.name?] at hcs
  | cons c more =>
    rw [hr, Chars.name?] at hcs
    split at hcs
    · obtain ⟨rfl, rfl⟩ := Prod.mk.inj (Option.some.inj hcs)
      exact ⟨_, by simp, by simp [nameTail_append], rfl, rfl⟩
    · cases hcs

theorem tail_of_name? {dash : Bool} {r after : Rest} {name : Span}
    (h : r.name? dash = some (name, after)) : after.Tail r := by
  obtain ⟨cs, -, hr, -, hpos⟩ := name?_eq_some h
  exact ⟨cs, hr, hpos⟩

theorem within_of_name? {dash : Bool} {r after : Rest} {name : Span}
    (h : r.name? dash = some (name, after)) : name.toRest.Within r := by
  obtain ⟨cs, -, hr, rfl, -⟩ := name?_eq_some h
  exact ⟨[], after.chars, by simp [hr], by simp⟩

/-- A group is its opening character, its inside and its closing bracket. -/
theorem group?_eq_some {opener closer : Char} {r inside after : Rest}
    (h : r.group? opener closer = some (inside, after)) :
    ∃ c, r.chars = c :: inside.chars ++ closer :: after.chars ∧
      Chars.Closes opener closer { depth := 1 } inside.chars ∧
      inside.pos = r.pos + c.utf8Size ∧
      after.pos = inside.pos + Chars.byteLength inside.chars + closer.utf8Size := by
  cases hr : r.chars with
  | nil => simp [group?, hr] at h
  | cons c cs =>
    simp only [group?, hr] at h
    obtain ⟨⟨inner, rest⟩, hi, he⟩ := Option.map_eq_some_iff.1 h
    obtain ⟨rfl, rfl⟩ := Prod.mk.inj he
    obtain ⟨rfl, hcloses⟩ := Chars.closing_eq_some hi
    exact ⟨c, rfl, hcloses, rfl, rfl⟩

/-- A quoted run is its quote, its inside and its quote again. -/
theorem quoted?_eq_some {r inside after : Rest} (h : r.quoted? = some (inside, after)) :
    ∃ q, r.chars = q :: inside.chars ++ q :: after.chars ∧ q ∉ inside.chars ∧
      inside.pos = r.pos + q.utf8Size ∧
      after.pos = inside.pos + Chars.byteLength inside.chars + q.utf8Size := by
  cases hr : r.chars with
  | nil => simp [quoted?, hr] at h
  | cons q cs =>
    simp only [quoted?, hr] at h
    obtain ⟨⟨inner, rest⟩, hi, he⟩ := Option.map_eq_some_iff.1 h
    obtain ⟨rfl, rfl⟩ := Prod.mk.inj he
    have hcs := Chars.eq_of_cut?_eq_some hi
    exact ⟨q, by rw [hcs]; rfl, Chars.not_mem_of_cut?_eq_some hi, rfl, rfl⟩

/-- The inside of a text between its first character and a later one. -/
theorem inside_of_eq {r inside after : Rest} {c d : Char}
    (h : r.chars = c :: inside.chars ++ d :: after.chars)
    (hpos : inside.pos = r.pos + c.utf8Size) : inside.Inside r :=
  ⟨[c], d :: after.chars, by simp, by simp, by simpa using h, by simp [hpos]⟩

theorem tail_of_eq {r inside after : Rest} {c d : Char}
    (h : r.chars = c :: inside.chars ++ d :: after.chars)
    (hpos : inside.pos = r.pos + c.utf8Size)
    (hafter : after.pos = inside.pos + Chars.byteLength inside.chars + d.utf8Size) :
    after.Tail r := by
  refine ⟨c :: inside.chars ++ [d], by simp [h], ?_⟩
  simp only [hafter, hpos, Chars.byteLength_append, Chars.byteLength_cons,
    Chars.byteLength_nil]
  omega

theorem tail_of_group? {opener closer : Char} {r inside after : Rest}
    (h : r.group? opener closer = some (inside, after)) : after.Tail r :=
  let ⟨_, hr, _, hpos, hafter⟩ := group?_eq_some h
  tail_of_eq hr hpos hafter

theorem inside_of_group? {opener closer : Char} {r inside after : Rest}
    (h : r.group? opener closer = some (inside, after)) : inside.Inside r :=
  let ⟨_, hr, _, hpos, _⟩ := group?_eq_some h
  inside_of_eq hr hpos

theorem tail_of_quoted? {r inside after : Rest} (h : r.quoted? = some (inside, after)) :
    after.Tail r :=
  let ⟨_, hr, _, hpos, hafter⟩ := quoted?_eq_some h
  tail_of_eq hr hpos hafter

theorem inside_of_quoted? {r inside after : Rest} (h : r.quoted? = some (inside, after)) :
    inside.Inside r :=
  let ⟨_, hr, _, hpos, _⟩ := quoted?_eq_some h
  inside_of_eq hr hpos

/-- The inside of a text that is one quoted run. -/
def quotedWhole? (r : Rest) : Option Rest :=
  if r.peek?.any isQuote then
    match r.quoted? with
    | some (inside, after) => if after.isEmpty then some inside else none
    | none => none
  else none

theorem inside_of_quotedWhole? {r inside : Rest} (h : r.quotedWhole? = some inside) :
    inside.Inside r := by
  rw [quotedWhole?] at h
  split at h
  · split at h
    · rename_i hquoted
      split at h
      · obtain rfl := Option.some.inj h
        exact inside_of_quoted? hquoted
      · cases h
    · cases h
  · cases h

/-! ## The text between two rests -/

/-- What lies between a rest and a later one. -/
theorem upTo_eq {r later : Rest} {cs : List Char} (h : r.chars = cs ++ later.chars) :
    r.upTo later = ⟨r.pos, String.ofList cs⟩ := by
  simp [upTo, h]

theorem upTo_within {r later : Rest} (h : later.Tail r) :
    (r.upTo later).toRest.Within r := by
  obtain ⟨cs, hcs, -⟩ := h
  rw [upTo_eq hcs]
  exact ⟨[], later.chars, by simp [hcs], by simp⟩

/-- What lies between two rests holds what lies between two others in between. -/
theorem within_upTo {r a b later : Rest} (ha : a.Tail r) (hb : b.Tail a) (hl : later.Tail b) :
    (a.upTo b).toRest.Within (r.upTo later).toRest := by
  obtain ⟨xs, hxs, hapos⟩ := ha
  obtain ⟨ys, hys, hbpos⟩ := hb
  obtain ⟨zs, hzs, -⟩ := hl
  have hr : r.chars = (xs ++ ys ++ zs) ++ later.chars := by simp [hxs, hys, hzs]
  rw [upTo_eq hr, upTo_eq hys]
  exact ⟨xs, zs, by simp, by simp [hapos]⟩

theorem name_eq_upTo {dash : Bool} {r after : Rest} {name : Span}
    (h : r.name? dash = some (name, after)) : name = r.upTo after := by
  obtain ⟨cs, -, hr, rfl, -⟩ := name?_eq_some h
  exact (upTo_eq hr).symm

theorem inside_upTo_of_eq {r inside after : Rest} {c d : Char}
    (h : r.chars = c :: inside.chars ++ d :: after.chars)
    (hpos : inside.pos = r.pos + c.utf8Size) : inside.Inside (r.upTo after).toRest := by
  have hr : r.chars = (c :: inside.chars ++ [d]) ++ after.chars := by simp [h]
  rw [upTo_eq hr, Span.toRest_mk]
  exact ⟨[c], [d], by simp, by simp, by simp, by simp [hpos]⟩

theorem inside_upTo_of_group? {opener closer : Char} {r inside after : Rest}
    (h : r.group? opener closer = some (inside, after)) :
    inside.Inside (r.upTo after).toRest :=
  let ⟨_, hr, _, hpos, _⟩ := group?_eq_some h
  inside_upTo_of_eq hr hpos

theorem inside_upTo_of_quoted? {r inside after : Rest} (h : r.quoted? = some (inside, after)) :
    inside.Inside (r.upTo after).toRest :=
  let ⟨_, hr, _, hpos, _⟩ := quoted?_eq_some h
  inside_upTo_of_eq hr hpos

/-! ## The pieces of an argument list -/

theorem within_of_mem_pieces {pos : Nat} {pieces : List (List Char)} {r : Rest}
    (h : r ∈ Rest.pieces pos pieces) : r.Within ⟨pos, Chars.join [','] pieces⟩ := by
  induction pieces generalizing pos with
  | nil => simp [Rest.pieces] at h
  | cons piece more ih =>
    rw [Rest.pieces, List.mem_cons] at h
    cases more with
    | nil =>
      rcases h with rfl | h
      · exact Within.refl _
      · simp [Rest.pieces] at h
    | cons next more =>
      have hjoin := Chars.join_cons_of_ne_nil [','] piece (List.cons_ne_nil next more)
      rcases h with rfl | h
      · exact ⟨[], ',' :: Chars.join [','] (next :: more), by simp [hjoin], by simp⟩
      · refine (ih h).trans ⟨piece ++ [','], [], by simp [hjoin], ?_⟩
        simp only [Chars.byteLength_append, Chars.byteLength_cons, Chars.byteLength_nil]
        rw [Nat.add_assoc]
        rfl

theorem within_of_mem_splitArguments {r piece : Rest} {pieces : List Rest}
    (h : r.splitArguments = some pieces) (hp : piece ∈ pieces) : piece.Within r := by
  obtain ⟨texts, ht, rfl⟩ := Option.map_eq_some_iff.1 h
  have := within_of_mem_pieces hp
  rwa [Chars.join_of_splitArgumentsIn ht] at this

end Rest

end BuildExpr
