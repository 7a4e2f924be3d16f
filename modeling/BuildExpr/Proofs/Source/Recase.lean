import BuildExpr.Proofs.Source.Within
import BuildExpr.Proofs.Text.LetterCase
import Mathlib.Data.List.DropRight

/-!
# A text in letters of other case

A `Recasing` gives each letter of a text one of its two cases, which may depend on where the letter
stands. None of the characters that reading looks for is a letter, so the steps of `Rest` take the
same parts of a text whatever its case is: each step has one lemma, named for it.
-/

namespace BuildExpr

/-- A case for every letter, by the byte where it stands. -/
structure Recasing where
  char : Nat → Char → Char
  toLower_char : ∀ pos c, (char pos c).toLower = c.toLower

namespace Recasing

variable (g : Recasing)

/-- The characters from a byte on in their new case. -/
def chars : Nat → List Char → List Char
  | _, [] => []
  | pos, c :: cs => g.char pos c :: chars (pos + c.utf8Size) cs

@[simp] theorem chars_nil (pos : Nat) : g.chars pos [] = [] := rfl

@[simp] theorem chars_cons (pos : Nat) (c : Char) (cs : List Char) :
    g.chars pos (c :: cs) = g.char pos c :: g.chars (pos + c.utf8Size) cs := rfl

/-! ## Characters -/

theorem caseless_char {α : Type} {f : Char → α} (hf : Chars.Caseless f) (pos : Nat) (c : Char) :
    f (g.char pos c) = f c :=
  hf.eq_of_toLower (g.toLower_char pos c)

@[simp] theorem utf8Size_char (pos : Nat) (c : Char) : (g.char pos c).utf8Size = c.utf8Size :=
  g.caseless_char Chars.caseless_utf8Size pos c

@[simp] theorem isQuote_char (pos : Nat) (c : Char) : isQuote (g.char pos c) = isQuote c :=
  g.caseless_char Chars.caseless_isQuote pos c

theorem char_beq {d : Char} (hd : d.isAlpha = false) (pos : Nat) (c : Char) :
    (g.char pos c == d) = (c == d) :=
  g.caseless_char (Chars.caseless_beq hd) pos c

theorem char_of_not_isAlpha {d : Char} (hd : d.isAlpha = false) (pos : Nat) : g.char pos d = d :=
  Chars.eq_of_toLower_eq hd (g.toLower_char pos d)

/-! ## Lists of characters -/

@[simp] theorem length_chars (pos : Nat) (cs : List Char) :
    (g.chars pos cs).length = cs.length := by
  induction cs generalizing pos with
  | nil => rfl
  | cons c cs ih => rw [chars_cons, List.length_cons, ih, List.length_cons]

@[simp] theorem byteLength_chars (pos : Nat) (cs : List Char) :
    Chars.byteLength (g.chars pos cs) = Chars.byteLength cs := by
  induction cs generalizing pos with
  | nil => rfl
  | cons c cs ih => simp only [chars_cons, Chars.byteLength_cons, utf8Size_char, ih]

@[simp] theorem isEmpty_chars (pos : Nat) (cs : List Char) :
    (g.chars pos cs).isEmpty = cs.isEmpty := by
  cases cs <;> rfl

theorem map_toLower_chars (pos : Nat) (cs : List Char) :
    (g.chars pos cs).map Char.toLower = cs.map Char.toLower := by
  induction cs generalizing pos with
  | nil => rfl
  | cons c cs ih => rw [chars_cons, List.map_cons, List.map_cons, g.toLower_char, ih]

theorem any_chars {p : Char → Bool} (hp : Chars.Caseless p) (pos : Nat) (cs : List Char) :
    (g.chars pos cs).any p = cs.any p := by
  induction cs generalizing pos with
  | nil => rfl
  | cons c cs ih => rw [chars_cons, List.any_cons, List.any_cons, g.caseless_char hp, ih]

theorem contains_chars {d : Char} (hd : d.isAlpha = false) (pos : Nat) (cs : List Char) :
    (g.chars pos cs).contains d = cs.contains d := by
  have hany (cs : List Char) : cs.contains d = cs.any (· == d) := by
    rw [List.contains_eq_any_beq]
    congr 1
    funext c
    exact Bool.beq_comm
  rw [hany, hany, g.any_chars (Chars.caseless_beq hd)]

theorem chars_beq {ds : List Char} (hds : ds.any Char.isAlpha = false) (pos : Nat)
    (cs : List Char) : (g.chars pos cs == ds) = (cs == ds) := by
  induction cs generalizing pos ds with
  | nil => rfl
  | cons c cs ih =>
    cases ds with
    | nil => rfl
    | cons d ds =>
      obtain ⟨hd, hds⟩ := Bool.or_eq_false_iff.1 hds
      rw [chars_cons, List.cons_beq_cons, List.cons_beq_cons, g.char_beq hd, ih hds]

theorem chars_append (pos : Nat) (xs ys : List Char) :
    g.chars pos (xs ++ ys) = g.chars pos xs ++ g.chars (pos + Chars.byteLength xs) ys := by
  induction xs generalizing pos with
  | nil => rfl
  | cons c xs ih =>
    rw [List.cons_append, chars_cons, ih, chars_cons, List.cons_append, Chars.byteLength_cons,
      Nat.add_assoc]

theorem take_chars (n pos : Nat) (cs : List Char) :
    (g.chars pos cs).take n = g.chars pos (cs.take n) := by
  induction cs generalizing n pos with
  | nil => simp
  | cons c cs ih =>
    cases n with
    | zero => rfl
    | succ n => simp only [chars_cons, List.take_succ_cons, ih]

theorem drop_chars (n pos : Nat) (cs : List Char) :
    (g.chars pos cs).drop n = g.chars (pos + Chars.byteLength (cs.take n)) (cs.drop n) := by
  induction cs generalizing n pos with
  | nil => simp
  | cons c cs ih =>
    cases n with
    | zero => rfl
    | succ n =>
      simp only [chars_cons, List.drop_succ_cons, List.take_succ_cons, Chars.byteLength_cons, ih,
        Nat.add_assoc]

theorem takeWhile_chars {p : Char → Bool} (hp : Chars.Caseless p) (pos : Nat) (cs : List Char) :
    (g.chars pos cs).takeWhile p = g.chars pos (cs.takeWhile p) := by
  induction cs generalizing pos with
  | nil => rfl
  | cons c cs ih =>
    simp only [chars_cons, List.takeWhile_cons, g.caseless_char hp, ih]
    split <;> rfl

theorem dropWhile_chars {p : Char → Bool} (hp : Chars.Caseless p) (pos : Nat) (cs : List Char) :
    (g.chars pos cs).dropWhile p =
      g.chars (pos + Chars.byteLength (cs.takeWhile p)) (cs.dropWhile p) := by
  induction cs generalizing pos with
  | nil => rfl
  | cons c cs ih =>
    simp only [chars_cons, List.takeWhile_cons, List.dropWhile_cons, g.caseless_char hp, ih]
    split
    · rw [Chars.byteLength_cons, Nat.add_assoc]
    · rfl

theorem trimEnd_chars (pos : Nat) (cs : List Char) :
    Chars.trimEnd (g.chars pos cs) = g.chars pos (Chars.trimEnd cs) := by
  have hend (cs : List Char) : Chars.trimEnd cs = cs.rdropWhile Chars.isBlank := rfl
  rw [hend, hend]
  induction cs using List.reverseRecOn with
  | nil => rfl
  | append_singleton cs c ih =>
    rw [chars_append, chars_cons, chars_nil, List.rdropWhile_concat, List.rdropWhile_concat,
      g.caseless_char Chars.caseless_isBlank, ih]
    split
    · rfl
    · rw [chars_append, chars_cons, chars_nil]

theorem trim_chars (pos : Nat) (cs : List Char) :
    Chars.trim (g.chars pos cs) =
      g.chars (pos + Chars.byteLength (cs.takeWhile Chars.isBlank)) (Chars.trim cs) := by
  rw [Chars.trim, Chars.trimStart, g.dropWhile_chars Chars.caseless_isBlank, trimEnd_chars]
  rfl

/-! ## Names, groups and quoted runs -/

theorem nameTail_chars (dash : Bool) (pos : Nat) (cs : List Char) :
    Chars.nameTail dash (g.chars pos cs) =
      (g.chars pos (Chars.nameTail dash cs).1,
        g.chars (pos + Chars.byteLength (Chars.nameTail dash cs).1)
          (Chars.nameTail dash cs).2) := by
  induction cs generalizing pos with
  | nil => rfl
  | cons c cs ih =>
    have hnext : ((g.chars (pos + c.utf8Size) cs).head? != some '>') =
        (cs.head? != some '>') := by
      cases cs with
      | nil => rfl
      | cons d cs =>
        exact congrArg (! ·) (g.char_beq (d := '>') rfl (pos + c.utf8Size) d)
    simp only [chars_cons, Chars.nameTail, hnext, g.caseless_char Chars.caseless_isWord,
      g.char_beq (d := '-') rfl, ih]
    split
    · simp only [chars_cons, Chars.byteLength_cons, Nat.add_assoc]
    · rfl

theorem name?_chars (dash : Bool) (pos : Nat) (cs : List Char) :
    Chars.name? dash (g.chars pos cs) =
      (Chars.name? dash cs).map fun p =>
        (g.chars pos p.1, g.chars (pos + Chars.byteLength p.1) p.2) := by
  cases cs with
  | nil => rfl
  | cons c cs =>
    simp only [chars_cons, Chars.name?, g.caseless_char Chars.caseless_isAlpha,
      g.char_beq (d := '_') rfl, nameTail_chars]
    split
    · simp only [Option.map_some, chars_cons, Chars.byteLength_cons, Nat.add_assoc]
    · rfl

theorem cut?_chars {q : Char} (hq : q.isAlpha = false) (pos : Nat) (cs : List Char) :
    Chars.cut? q (g.chars pos cs) =
      (Chars.cut? q cs).map fun p =>
        (g.chars pos p.1, g.chars (pos + Chars.byteLength p.1 + q.utf8Size) p.2) := by
  induction cs generalizing pos with
  | nil => rfl
  | cons c cs ih =>
    simp only [chars_cons, Chars.cut?, g.char_beq hq, ih]
    split
    · rename_i hc
      obtain rfl : c = q := beq_iff_eq.1 hc
      rfl
    · simp only [Option.map_map]
      congr 1
      funext p
      simp only [Function.comp_apply, chars_cons, Chars.byteLength_cons, Nat.add_assoc]

end Recasing

/-- Whether the open quote of a position, if any, is no letter. -/
def Nesting.Plain (n : Nesting) : Prop := ∀ q ∈ n.quote, q.isAlpha = false

/-- Whether the quotes and brackets that a region is in are no letters. -/
def Chars.Region.Plain : Chars.Region → Prop
  | .outside => True
  | .quoted q => q.isAlpha = false
  | .group opener closer n => opener.isAlpha = false ∧ closer.isAlpha = false ∧ n.Plain

theorem Chars.Region.plain_outside : Region.outside.Plain := trivial

theorem isAlpha_of_isQuote {c : Char} (h : isQuote c = true) : c.isAlpha = false := by
  simp only [isQuote, Bool.or_eq_true, beq_iff_eq] at h
  rcases h with (rfl | rfl) | rfl <;> rfl

theorem Nesting.Plain.step {opener closer : Char} {n : Nesting} (h : n.Plain) (c : Char) :
    (n.step opener closer c).Plain := by
  obtain ⟨quote, depth⟩ := n
  cases quote with
  | some q =>
    simp only [Nesting.step]
    split
    · simp [Plain]
    · exact h
  | none =>
    simp only [Nesting.step]
    split
    · rename_i hquote
      rintro _ ⟨⟩
      exact isAlpha_of_isQuote hquote
    · split
      · simp [Plain]
      · split <;> simp [Plain]

theorem Chars.Region.Plain.step {region : Chars.Region} (h : region.Plain) (c : Char) :
    (region.step c).Plain := by
  cases region with
  | outside =>
    simp only [Region.step]
    split
    · rename_i hquote
      exact isAlpha_of_isQuote hquote
    · split
      · exact ⟨rfl, rfl, by simp [Nesting.Plain]⟩
      · split
        · exact ⟨rfl, rfl, by simp [Nesting.Plain]⟩
        · trivial
  | quoted q =>
    simp only [Region.step]
    split
    · trivial
    · exact h
  | group opener closer n =>
    simp only [Region.step]
    split
    · trivial
    · exact ⟨h.1, h.2.1, h.2.2.step c⟩

namespace Recasing

variable (g : Recasing)

theorem step_char {opener closer : Char} (hopener : opener.isAlpha = false)
    (hcloser : closer.isAlpha = false) {n : Nesting} (hn : n.Plain) (pos : Nat) (c : Char) :
    n.step opener closer (g.char pos c) = n.step opener closer c := by
  obtain ⟨quote, depth⟩ := n
  cases quote with
  | some q =>
    simp only [Nesting.step, g.char_beq (hn q rfl)]
  | none =>
    simp only [Nesting.step, isQuote_char, g.char_beq hopener, g.char_beq hcloser]
    by_cases hquote : isQuote c = true
    · rw [g.char_of_not_isAlpha (isAlpha_of_isQuote hquote)]
    · simp only [hquote, Bool.false_eq_true, if_false]

theorem closing_chars {opener closer : Char} (hopener : opener.isAlpha = false)
    (hcloser : closer.isAlpha = false) {n : Nesting} (hn : n.Plain) (pos : Nat)
    (cs : List Char) :
    Chars.closing opener closer n (g.chars pos cs) =
      (Chars.closing opener closer n cs).map fun p =>
        (g.chars pos p.1, g.chars (pos + Chars.byteLength p.1 + closer.utf8Size) p.2) := by
  induction cs generalizing pos n with
  | nil => rfl
  | cons c cs ih =>
    simp only [chars_cons, Chars.closing, g.step_char hopener hcloser hn, g.char_beq hcloser,
      ih (hn.step c)]
    split
    · rename_i hc
      simp only [Bool.and_eq_true, beq_iff_eq] at hc
      obtain rfl : c = closer := hc.1.2
      rfl
    · simp only [Option.map_map]
      congr 1
      funext p
      simp only [Function.comp_apply, chars_cons, Chars.byteLength_cons, Nat.add_assoc]

theorem regionStep_char {region : Chars.Region} (h : region.Plain) (pos : Nat) (c : Char) :
    region.step (g.char pos c) = region.step c := by
  cases region with
  | outside =>
    simp only [Chars.Region.step, isQuote_char, g.char_beq (d := '(') rfl,
      g.char_beq (d := '[') rfl]
    by_cases hquote : isQuote c = true
    · rw [g.char_of_not_isAlpha (isAlpha_of_isQuote hquote)]
    · simp only [hquote, Bool.false_eq_true, if_false]
  | quoted q => simp only [Chars.Region.step, g.char_beq (d := q) h]
  | group opener closer n =>
    simp only [Chars.Region.step, g.step_char h.1 h.2.1 h.2.2, g.char_beq h.2.1]

/-- The pieces of an argument list in their new case, when each is separated from the next by one
byte. -/
def pieces : Nat → List (List Char) → List (List Char)
  | _, [] => []
  | pos, piece :: more =>
    g.chars pos piece :: pieces (pos + Chars.byteLength piece + 1) more

theorem splitArgumentsIn_chars {region : Chars.Region} (h : region.Plain) (pos : Nat)
    (cs : List Char) :
    Chars.splitArgumentsIn region (g.chars pos cs) =
      (Chars.splitArgumentsIn region cs).map (g.pieces pos) := by
  induction cs generalizing pos region with
  | nil =>
    cases region <;> rfl
  | cons c cs ih =>
    have hcomma : g.char pos c = ',' ↔ c = ',' := by
      simpa using congrArg (· = true) (g.char_beq (d := ',') rfl pos c)
    simp only [chars_cons, Chars.splitArgumentsIn, hcomma, g.regionStep_char h,
      ih (h.step c), ih Chars.Region.plain_outside]
    split
    · rename_i hc
      obtain rfl : c = ',' := hc.2
      simp only [Option.map_map]
      rfl
    · simp only [Option.map_map]
      congr 1
      funext texts
      cases texts with
      | nil => rfl
      | cons piece more =>
        simp only [Function.comp_apply, pieces, chars_cons, Chars.byteLength_cons, Nat.add_assoc]

end Recasing

/-! ## Spans -/

namespace Span

/-- The same piece of a text in its new case. -/
def recase (g : Recasing) (s : Span) : Span :=
  ⟨s.start, String.ofList (g.chars s.start s.text.toList)⟩

variable (g : Recasing) (s : Span)

@[simp] theorem recase_start : (s.recase g).start = s.start := rfl

theorem recase_stop : (s.recase g).stop = s.stop := by
  simp [recase, stop]

theorem sameName_recase : Text.SameName s.text (s.recase g).text := by
  simp [Text.SameName, Text.eqIgnoreCase_iff, recase, g.map_toLower_chars]

end Span

/-! ## Reading steps -/

namespace Rest

/-- The same text in its new case. -/
def recase (g : Recasing) (r : Rest) : Rest := ⟨r.pos, g.chars r.pos r.chars⟩

variable (g : Recasing) (r : Rest)

@[simp] theorem recase_pos : (r.recase g).pos = r.pos := rfl

@[simp] theorem recase_chars : (r.recase g).chars = g.chars r.pos r.chars := rfl

@[simp] theorem recase_isEmpty : (r.recase g).isEmpty = r.isEmpty := by
  simp [isEmpty]

theorem recase_peek?_beq {d : Char} (hd : d.isAlpha = false) :
    ((r.recase g).peek? == some d) = (r.peek? == some d) := by
  obtain ⟨pos, cs⟩ := r
  cases cs with
  | nil => rfl
  | cons c cs => simpa [peek?] using g.char_beq hd pos c

theorem recase_peek?_eq_iff {d : Char} (hd : d.isAlpha = false) :
    (r.recase g).peek? = some d ↔ r.peek? = some d := by
  simpa using congrArg (· = true) (r.recase_peek?_beq g hd)

theorem recase_peek?_any :
    (r.recase g).peek?.any isQuote = r.peek?.any isQuote := by
  obtain ⟨pos, cs⟩ := r
  cases cs with
  | nil => rfl
  | cons c cs => simp [peek?]

@[simp] theorem span_recase : (r.recase g).span = r.span.recase g := by
  simp [span, Span.recase]

@[simp] theorem toRest_recase (s : Span) : (s.recase g).toRest = s.toRest.recase g := by
  simp [Span.recase, recase]

@[simp] theorem drop_recase (n : Nat) : (r.recase g).drop n = (r.drop n).recase g := by
  simp [drop, recase, g.take_chars, g.drop_chars]

@[simp] theorem next_recase : (r.recase g).next = r.next.recase g := drop_recase g r 1

@[simp] theorem skipBlanks_recase : (r.recase g).skipBlanks = r.skipBlanks.recase g := by
  simp [skipBlanks, recase, g.takeWhile_chars Chars.caseless_isAsciiBlank,
    g.dropWhile_chars Chars.caseless_isAsciiBlank]

@[simp] theorem upTo_recase (later : Rest) :
    (r.recase g).upTo (later.recase g) = (r.upTo later).recase g := by
  simp [upTo, Span.recase, g.take_chars]

@[simp] theorem trimmed_recase : (r.recase g).trimmed = r.trimmed.recase g := by
  simp [trimmed, recase, g.takeWhile_chars Chars.caseless_isBlank, g.trim_chars]

@[simp] theorem name?_recase (dash : Bool) :
    (r.recase g).name? dash = (r.name? dash).map (Prod.map (Span.recase g) (recase g)) := by
  simp only [name?, recase_chars, recase_pos, g.name?_chars, Option.map_map]
  congr 1
  funext p
  simp [Span.recase, recase]

theorem group?_recase {opener closer : Char} (hopener : opener.isAlpha = false)
    (hcloser : closer.isAlpha = false) :
    (r.recase g).group? opener closer =
      (r.group? opener closer).map (Prod.map (recase g) (recase g)) := by
  obtain ⟨pos, cs⟩ := r
  cases cs with
  | nil => rfl
  | cons c cs =>
    have hn : ({ depth := 1 } : Nesting).Plain := by simp [Nesting.Plain]
    simp only [group?, recase_chars, recase_pos, g.chars_cons, g.utf8Size_char,
      g.closing_chars hopener hcloser hn, Option.map_map]
    congr 1
    funext p
    simp [recase]

theorem quoted?_recase (h : r.peek?.any isQuote = true) :
    (r.recase g).quoted? = r.quoted?.map (Prod.map (recase g) (recase g)) := by
  obtain ⟨pos, cs⟩ := r
  cases cs with
  | nil => rfl
  | cons c cs =>
    have hc : c.isAlpha = false := isAlpha_of_isQuote (by simpa [peek?] using h)
    simp only [quoted?, recase_chars, recase_pos, g.chars_cons, g.char_of_not_isAlpha hc,
      g.cut?_chars hc, Option.map_map]
    congr 1
    funext p
    simp [recase]

theorem pieces_recase (pos : Nat) (texts : List (List Char)) :
    Rest.pieces pos (g.pieces pos texts) = (Rest.pieces pos texts).map (recase g) := by
  induction texts generalizing pos with
  | nil => rfl
  | cons piece more ih =>
    simp only [Recasing.pieces, Rest.pieces, g.byteLength_chars, ih, List.map_cons]
    rfl

@[simp] theorem splitArguments_recase :
    (r.recase g).splitArguments = r.splitArguments.map (List.map (recase g)) := by
  simp only [splitArguments, Chars.splitArguments, recase_chars, recase_pos,
    g.splitArgumentsIn_chars Chars.Region.plain_outside, Option.map_map]
  congr 1
  funext texts
  exact pieces_recase g r.pos texts

/-- A part of a text is a part of it in every case. -/
theorem Within.recase {a b : Rest} (h : a.Within b) : (a.recase g).Within (b.recase g) := by
  obtain ⟨before, after, hb, hpos⟩ := h
  refine ⟨g.chars b.pos before, g.chars (a.pos + Chars.byteLength a.chars) after, ?_, ?_⟩
  · simp only [recase_chars, hb, g.chars_append, hpos, Chars.byteLength_append, Nat.add_assoc]
  · rw [recase_pos, recase_pos, g.byteLength_chars, hpos]

end Rest

end BuildExpr
