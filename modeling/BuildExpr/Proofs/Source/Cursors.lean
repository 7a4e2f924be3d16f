import BuildExpr.Proofs.Source.Brackets
import BuildExpr.Proofs.Source.Within
import BuildExpr.Proofs.Text.Utf8
import BuildExpr.Source.Cursor

/-!
# Cursors and rests

A range of a source that lies between characters is a rest, and a cursor at its front reads what the
rest does. Its bytes are those of the characters of the rest, none of which but the characters of
seven bits has a byte that is a bracket or a quote, so the search for a closing bracket is the same
in both (`Cursor.group?_eq`). By positions it finds the first at which the brackets are level
(`Cursor.closing?_eq_some_iff`).
-/

namespace BuildExpr

/-! ## Characters and their bytes -/

namespace Chars

/-- The bytes of a text, each as the character of its number. -/
def bytes (cs : List Char) : List Char := (Utf8.encode cs).map Char.ofUInt8

theorem bytes_eq_flatMap (cs : List Char) :
    bytes cs = cs.flatMap fun c => (String.utf8EncodeChar c).map Char.ofUInt8 := by
  rw [bytes, Utf8.encode_eq_flatMap, List.map_flatMap]

@[simp] theorem bytes_nil : bytes [] = [] := by rw [bytes, Utf8.encode_nil, List.map_nil]

theorem bytes_cons (c : Char) (cs : List Char) :
    bytes (c :: cs) = (String.utf8EncodeChar c).map Char.ofUInt8 ++ bytes cs := by
  rw [bytes_eq_flatMap, bytes_eq_flatMap, List.flatMap_cons]

/-- A character of seven bits is the one of its byte. -/
theorem ofUInt8_toUInt8 {c : Char} (hc : c.toNat < 128) : Char.ofUInt8 c.toUInt8 = c := by
  apply Char.ext
  apply UInt32.toNat_inj.1
  show (UInt8.ofNat c.toNat).toUInt32.toNat = c.toNat
  rw [UInt8.toNat_toUInt32, UInt8.toNat_ofNat_of_lt' (Nat.lt_trans hc (by decide))]

theorem bytes_cons_of_lt {c : Char} (hc : c.toNat < 128) (cs : List Char) :
    bytes (c :: cs) = c :: bytes cs := by
  have hbyte : Char.ofUInt8 (UInt8.ofNat c.toNat) = c := ofUInt8_toUInt8 hc
  rw [bytes_cons, Utf8.utf8EncodeChar_of_lt hc, List.map_singleton, hbyte, List.singleton_append]

theorem length_bytes (cs : List Char) : (bytes cs).length = byteLength cs := by
  induction cs with
  | nil => simp
  | cons c cs ih =>
    rw [bytes_cons, List.length_append, List.length_map, String.length_utf8EncodeChar, ih,
      byteLength_cons]

theorem length_encode (cs : List Char) : (Utf8.encode cs).length = byteLength cs := by
  rw [← length_bytes, bytes, List.length_map]

theorem fromByte_append (pos : Nat) (xs ys : List Char) :
    fromByte (pos + byteLength xs) pos (xs ++ ys) = (pos + byteLength xs, ys) := by
  induction xs generalizing pos with
  | nil => cases ys <;> simp [fromByte]
  | cons x xs ih =>
    have := x.utf8Size_pos
    rw [List.cons_append, fromByte, if_neg, byteLength_cons, ← Nat.add_assoc, ih]
    rw [byteLength_cons]
    omega

theorem upToByte_append (pos : Nat) (xs ys : List Char) :
    upToByte (pos + byteLength xs) pos (xs ++ ys) = xs := by
  induction xs generalizing pos with
  | nil =>
    cases ys with
    | nil => rfl
    | cons y ys =>
      have := y.utf8Size_pos
      rw [List.nil_append, upToByte, if_neg]
      simp only [byteLength_nil]
      omega
  | cons x xs ih =>
    rw [List.cons_append, upToByte, if_pos, byteLength_cons, ← Nat.add_assoc, ih]
    simp only [byteLength_cons]
    omega

/-! ## Groups in bytes -/

theorem lt_of_isQuote {q : Char} (hq : isQuote q = true) : q.toNat < 128 := by
  simp only [isQuote, Bool.or_eq_true, beq_iff_eq] at hq
  rcases hq with (rfl | rfl) | rfl <;> decide

theorem Grouping.lt {opener closer : Char} (hg : Grouping opener closer) :
    opener.toNat < 128 ∧ closer.toNat < 128 := by
  cases hg with
  | round => decide
  | square => decide

theorem Grouping.utf8Size_eq {opener closer : Char} (hg : Grouping opener closer) :
    opener.utf8Size = 1 ∧ closer.utf8Size = 1 := by
  cases hg with
  | round => decide
  | square => decide

section

variable {opener closer : Char} {n : Nesting}

/-- A character beyond seven bits leaves the nesting as it is. -/
theorem step_of_wide (hg : Grouping opener closer) (hn : ∀ q ∈ n.quote, isQuote q = true)
    {c : Char} (hc : 128 ≤ c.toNat) : n.step opener closer c = n ∧ c ≠ closer := by
  have hne : ∀ {d : Char}, d.toNat < 128 → c ≠ d := by
    rintro d hd rfl
    omega
  refine ⟨?_, hne hg.lt.2⟩
  obtain ⟨quote, depth⟩ := n
  cases quote with
  | some q => simp [Nesting.step, hne (lt_of_isQuote (hn q rfl))]
  | none =>
    have hquote : isQuote c = false := Bool.eq_false_iff.2 fun hq => hne (lt_of_isQuote hq) rfl
    simp [Nesting.step, hquote, hne hg.lt.1, hne hg.lt.2]

theorem quote_step (hn : ∀ q ∈ n.quote, isQuote q = true) (c : Char) :
    ∀ q ∈ (n.step opener closer c).quote, isQuote q = true := by
  obtain ⟨quote, depth⟩ := n
  cases quote with
  | some q =>
    simp only [Nesting.step]
    split
    · simp
    · exact hn
  | none =>
    simp only [Nesting.step]
    split
    case isTrue hc => simpa using hc
    case isFalse => split <;> [skip; split] <;> simp

/-- Characters that leave the nesting as it is belong to the inside of a group. -/
theorem closing_append_of_step {part : List Char}
    (hpart : ∀ c ∈ part, n.step opener closer c = n ∧ c ≠ closer) (cs : List Char) :
    closing opener closer n (part ++ cs) =
      (closing opener closer n cs).map fun p => (part ++ p.1, p.2) := by
  induction part with
  | nil => simp
  | cons c part ih =>
    obtain ⟨⟨hstep, hne⟩, hpart⟩ := List.forall_mem_cons.1 hpart
    rw [List.cons_append, closing, hstep, if_neg (by simp [hne]), ih hpart, Option.map_map]
    rfl

/-- A group ends in the bytes of a text where it does in its characters. -/
theorem closing_bytes (hg : Grouping opener closer) (hn : ∀ q ∈ n.quote, isQuote q = true)
    (cs : List Char) :
    closing opener closer n (bytes cs) =
      (closing opener closer n cs).map fun p => (bytes p.1, bytes p.2) := by
  induction cs generalizing n with
  | nil => simp [closing]
  | cons c cs ih =>
    by_cases hc : c.toNat < 128
    · rw [bytes_cons_of_lt hc, closing, closing]
      split
      · simp
      · rw [ih (quote_step hn c), Option.map_map, Option.map_map]
        refine congrArg (Option.map · _) (funext fun p => ?_)
        simp [bytes_cons_of_lt hc]
    · have hwide : 128 ≤ c.toNat := Nat.le_of_not_lt hc
      obtain ⟨hstep, hne⟩ := step_of_wide hg hn hwide
      have hbytes : ∀ d ∈ (String.utf8EncodeChar c).map Char.ofUInt8,
          n.step opener closer d = n ∧ d ≠ closer := by
        intro d hd
        obtain ⟨b, hb, rfl⟩ := List.mem_map.1 hd
        apply step_of_wide hg hn
        have hbyte : (Char.ofUInt8 b).toNat = b.toNat := UInt8.toNat_toUInt32 b
        rw [hbyte]
        exact Utf8.le_of_mem_utf8EncodeChar hwide hb
      rw [bytes_cons, closing_append_of_step hbytes, ih hn, closing, hstep, if_neg (by simp [hne]),
        Option.map_map, Option.map_map]
      refine congrArg (Option.map · _) (funext fun p => ?_)
      simp [bytes_cons]

end

end Chars

/-! ## Ranges between characters -/

namespace Cursor

variable {source : String} {r : Rest}

theorem restAt_of_within (h : r.Within (.ofText source)) (pos : Nat) :
    (⟨source, pos, r.stop⟩ : Cursor).restAt r.pos = r := by
  obtain ⟨xs, ys, htext, hpos⟩ := h
  simp only [Rest.ofText, Nat.zero_add] at htext hpos
  have hfrom : Chars.fromByte r.pos 0 source.toList = (r.pos, r.chars ++ ys) := by
    rw [htext, hpos, List.append_assoc]
    have := Chars.fromByte_append 0 xs (r.chars ++ ys)
    rwa [Nat.zero_add] at this
  rw [restAt, hfrom]
  show (⟨r.pos, Chars.upToByte r.stop r.pos (r.chars ++ ys)⟩ : Rest) = r
  rw [Rest.stop, Chars.upToByte_append]

theorem bytesAt_of_within (h : r.Within (.ofText source)) (pos : Nat) :
    (⟨source, pos, r.stop⟩ : Cursor).bytesAt r.pos = Chars.bytes r.chars := by
  obtain ⟨xs, ys, htext, hpos⟩ := h
  simp only [Rest.ofText, Nat.zero_add] at htext hpos
  have hsource : source.toUTF8.toList = Utf8.encode source.toList := by
    rw [Utf8.encode, String.ofList_toList]
  have hbytes : Utf8.encode source.toList =
      Utf8.encode xs ++ Utf8.encode r.chars ++ Utf8.encode ys := by
    simp only [htext, Utf8.encode_eq_flatMap, List.flatMap_append]
  have hstart : (Utf8.encode xs).length = r.pos := by rw [Chars.length_encode, hpos]
  have hstop : (Utf8.encode xs ++ Utf8.encode r.chars).length = r.stop := by
    rw [List.length_append, hstart, Chars.length_encode, Rest.stop]
  show ((source.toUTF8.toList.take r.stop).drop r.pos).map Char.ofUInt8 = _
  rw [hsource, hbytes, List.take_left' hstop, List.drop_left' hstart, Chars.bytes]

/-- The group at the front of a part of a source, found by the positions of its brackets. -/
def group? (source : String) (opener closer : Char) (r : Rest) : Option (Rest × Rest) :=
  ((ofRange source r.pos r.stop).closing? opener.toUInt8 closer.toUInt8 r.pos).map fun close =>
    ((ofRange source r.pos close).restAt (r.pos + 1),
      (ofRange source r.pos r.stop).restAt (close + 1))

theorem closing?_of_within {opener closer : Char} (hg : Chars.Grouping opener closer)
    (h : r.Within (.ofText source)) {cs : List Char} (hchars : r.chars = opener :: cs) (pos : Nat) :
    (ofRange source pos r.stop).closing? opener.toUInt8 closer.toUInt8 r.pos =
      (Chars.closing opener closer { depth := 1 } cs).map fun p =>
        r.pos + (Chars.byteLength p.1 + 1) := by
  rw [closing?, ofRange, bytesAt_of_within h, hchars, Chars.ofUInt8_toUInt8 hg.lt.1,
    Chars.ofUInt8_toUInt8 hg.lt.2, Chars.closing_bytes hg (by simp),
    Chars.closing_opener hg.brackets, Option.map_map, Option.map_map]
  refine congrArg (Option.map · _) (funext fun p => ?_)
  simp [Chars.bytes_cons_of_lt hg.lt.1, Chars.length_bytes]

/-- At an opening bracket the group that is found by positions is the group of the rest. -/
theorem group?_eq {opener closer : Char} (hg : Chars.Grouping opener closer)
    (h : r.Within (.ofText source)) (hopen : r.peek? = some opener) :
    group? source opener closer r = r.group? opener closer := by
  cases hchars : r.chars with
  | nil => simp [Rest.peek?, hchars] at hopen
  | cons c cs =>
    obtain rfl : c = opener := by simpa [Rest.peek?, hchars] using hopen
    rw [group?, closing?_of_within hg h hchars]
    cases hclosing : Chars.closing c closer { depth := 1 } cs with
    | none => simp [Rest.group?, hchars, hclosing]
    | some p =>
      obtain ⟨inside, after⟩ := p
      have hgroup : r.group? c closer = some
          (⟨r.pos + c.utf8Size, inside⟩,
            ⟨r.pos + c.utf8Size + Chars.byteLength inside + closer.utf8Size, after⟩) := by
        simp [Rest.group?, hchars, hclosing]
      obtain ⟨hopener, hcloser⟩ := hg.utf8Size_eq
      have hinside := restAt_of_within ((Rest.inside_of_group? hgroup).within.trans h) r.pos
      have hafter := restAt_of_within ((Rest.tail_of_group? hgroup).within.trans h) r.pos
      rw [(Rest.tail_of_group? hgroup).stop_eq] at hafter
      rw [hgroup, Option.map_some, Option.map_some]
      simp only [Rest.stop, hopener, hcloser] at hinside hafter ⊢
      have hclose : r.pos + (Chars.byteLength inside + 1) =
          r.pos + 1 + Chars.byteLength inside := by omega
      rw [ofRange, ofRange, hclose, hinside, hafter]

/-! ## Positions -/

variable {k : Cursor} {opener closer : UInt8} {pos : Nat}

/-- From `pos` to the byte at `j` as many opening as closing brackets are seen past quoted runs, and
none of these is open behind that byte. -/
structure LevelAt (k : Cursor) (opener closer : UInt8) (pos j : Nat) : Prop where
  pos_le : pos ≤ j
  lt : j < pos + (k.bytesAt pos).length
  level : Chars.Level (.ofUInt8 opener) (.ofUInt8 closer) ((k.bytesAt pos).take (j + 1 - pos))

/-- Reading from `pos` on comes to a quoted run that does not end in the range, before the brackets
are level anywhere. -/
def RunsOut (k : Cursor) (opener closer : UInt8) (pos : Nat) : Prop :=
  ∃ read seen q rest, k.bytesAt pos = read ++ q :: rest ∧ Chars.Seen read seen ∧
    isQuote q = true ∧ q ∉ rest ∧ ∀ j, k.LevelAt opener closer pos j → pos + read.length ≤ j

/-- The brackets are the two characters of different bytes, of which the first stands at `pos`. -/
structure Opens (k : Cursor) (opener closer : UInt8) (pos : Nat) : Prop where
  brackets : Chars.Brackets (.ofUInt8 opener) (.ofUInt8 closer)
  head : (k.bytesAt pos).head? = some (.ofUInt8 opener)

theorem Opens.exists_cons (h : k.Opens opener closer pos) :
    ∃ cs, k.bytesAt pos = .ofUInt8 opener :: cs :=
  List.head?_eq_some_iff.1 h.head

/-- An opening bracket at the front of a part of a source stands at its position. -/
theorem opens_of_peek? {source : String} {r : Rest} {opener closer : Char}
    (hg : Chars.Grouping opener closer) (h : r.Within (.ofText source))
    (hopen : r.peek? = some opener) :
    (ofRange source r.pos r.stop).Opens opener.toUInt8 closer.toUInt8 r.pos := by
  obtain ⟨cs, hchars⟩ := List.head?_eq_some_iff.1 hopen
  constructor
  · rw [Chars.ofUInt8_toUInt8 hg.lt.1, Chars.ofUInt8_toUInt8 hg.lt.2]
    exact hg.brackets
  · rw [ofRange, bytesAt_of_within h, hchars, Chars.bytes_cons_of_lt hg.lt.1, List.head?_cons,
      Chars.ofUInt8_toUInt8 hg.lt.1]

theorem LevelAt.take_ne_nil {j : Nat} (h : k.LevelAt opener closer pos j) :
    (k.bytesAt pos).take (j + 1 - pos) ≠ [] := by
  obtain ⟨hpos, hlt, -⟩ := h
  apply List.ne_nil_of_length_pos
  rw [List.length_take]
  omega

theorem levelAt_of_closing? (h : k.Opens opener closer pos) {j : Nat}
    (hj : k.closing? opener closer pos = some j) :
    k.LevelAt opener closer pos j ∧ ∀ i, k.LevelAt opener closer pos i → j ≤ i := by
  obtain ⟨cs, hbytes⟩ := h.exists_cons
  obtain ⟨⟨inside, after⟩, hclosing, hend⟩ := Option.map_eq_some_iff.1 hj
  have hend : pos + inside.length = j := hend
  subst hend
  rw [hbytes, Chars.closing_eq_some_iff h.brackets, ← hbytes] at hclosing
  obtain ⟨htext, hlevel, hfirst⟩ := hclosing
  have hwhole : (k.bytesAt pos).take (pos + inside.length + 1 - pos) =
      inside ++ [.ofUInt8 closer] := by
    have htext' : k.bytesAt pos = (inside ++ [.ofUInt8 closer]) ++ after := by
      rw [htext, List.append_assoc, List.singleton_append]
    have hlength : (inside ++ [Char.ofUInt8 closer]).length = pos + inside.length + 1 - pos := by
      rw [List.length_append, List.length_singleton]
      omega
    rw [htext', List.take_left' hlength]
  refine ⟨⟨Nat.le_add_right _ _, ?_, by rw [hwhole]; exact hlevel⟩, fun i hi => ?_⟩
  · rw [htext, List.length_append, List.length_cons]
    omega
  · by_contra hlt
    have hle : i + 1 - pos ≤ inside.length := by omega
    have hpart : (k.bytesAt pos).take (i + 1 - pos) <+: inside := by
      rw [htext, List.take_append_of_le_length hle]
      exact List.take_prefix _ _
    exact hfirst _ hpart hi.take_ne_nil hi.level

theorem not_levelAt_of_closing? (h : k.Opens opener closer pos)
    (hnone : k.closing? opener closer pos = none) (j : Nat) : ¬k.LevelAt opener closer pos j := by
  intro hj
  obtain ⟨cs, hbytes⟩ := h.exists_cons
  rw [closing?, Option.map_eq_none_iff, hbytes, Chars.closing_eq_none_iff h.brackets, ← hbytes]
    at hnone
  exact hnone _ (List.take_prefix _ _) hj.take_ne_nil hj.level

/-- The closing bracket is where the brackets are level first. -/
theorem closing?_eq_some_iff (h : k.Opens opener closer pos) {j : Nat} :
    k.closing? opener closer pos = some j ↔
      k.LevelAt opener closer pos j ∧ ∀ i, k.LevelAt opener closer pos i → j ≤ i := by
  constructor
  · exact levelAt_of_closing? h
  · rintro ⟨hlevel, hfirst⟩
    cases hfound : k.closing? opener closer pos with
    | some i =>
      obtain ⟨hi, hle⟩ := levelAt_of_closing? h hfound
      rw [Nat.le_antisymm (hle j hlevel) (hfirst i hi)]
    | none => exact absurd hlevel (not_levelAt_of_closing? h hfound j)

/-- Where a quoted run does not end, the brackets are level nowhere. -/
theorem RunsOut.not_levelAt (h : k.Opens opener closer pos) (hruns : k.RunsOut opener closer pos)
    (j : Nat) : ¬k.LevelAt opener closer pos j := by
  intro hj
  obtain ⟨read, seen, q, rest, hbytes, hseen, hq, hrest, hreached⟩ := hruns
  have hle := hreached j hj
  obtain ⟨n, hn⟩ : ∃ n, j + 1 - pos = read.length + (n + 1) := ⟨j - pos - read.length, by omega⟩
  have htake : (k.bytesAt pos).take (j + 1 - pos) = read ++ q :: rest.take n := by
    rw [hbytes, hn, List.take_length_add_append, List.take_succ_cons]
  refine hseen.not_level_of_open h.brackets hq (fun hmem => ?_) (htake ▸ hj.level)
  exact hrest (List.mem_of_mem_take hmem)

/-- There is no closing bracket when a quoted run does not end or the brackets are level nowhere. -/
theorem closing?_eq_none_iff (h : k.Opens opener closer pos) :
    k.closing? opener closer pos = none ↔
      k.RunsOut opener closer pos ∨ ¬∃ j, k.LevelAt opener closer pos j := by
  constructor
  · intro hnone
    exact .inr (not_exists.2 (not_levelAt_of_closing? h hnone))
  · intro hnowhere
    have hlevel : ∀ j, ¬k.LevelAt opener closer pos j := by
      rcases hnowhere with hruns | hlevel
      · exact hruns.not_levelAt h
      · exact not_exists.1 hlevel
    cases hfound : k.closing? opener closer pos with
    | none => rfl
    | some j => exact absurd (levelAt_of_closing? h hfound).1 (hlevel j)

/-- Up to the closing bracket, or to the end when there is none, the depth is never negative. -/
theorem depth_nonneg (h : k.Opens opener closer pos) {part : List Char}
    (hpart : part <+: k.bytesAt pos)
    (hread : ∀ j, k.closing? opener closer pos = some j → part.length ≤ j + 1 - pos) :
    0 ≤ (Chars.nesting (.ofUInt8 opener) (.ofUInt8 closer) {} part).depth := by
  obtain ⟨cs, hbytes⟩ := h.exists_cons
  by_cases hne : part = []
  · subst hne
    exact Int.le_refl 0
  · rw [hbytes] at hpart
    rcases Chars.closing_opener_cases h.brackets cs with
      ⟨inside, after, hfound, htext, hclosed, hbefore⟩ | ⟨-, hall⟩
    · have hlength := hread (pos + inside.length) (by rw [closing?, hbytes, hfound]; rfl)
      have hwhole : inside ++ [.ofUInt8 closer] <+: .ofUInt8 opener :: cs :=
        ⟨after, by rw [htext, List.append_assoc, List.singleton_append]⟩
      have hprefix : part <+: inside ++ [.ofUInt8 closer] := by
        apply List.prefix_of_prefix_length_le hpart hwhole
        rw [List.length_append, List.length_singleton]
        omega
      rcases List.prefix_concat_iff.1 hprefix with rfl | hinside
      · exact Int.le_of_eq (congrArg Nesting.depth hclosed).symm
      · have := hbefore part hinside hne
        omega
    · have := hall part hpart hne
      omega

end Cursor

end BuildExpr
