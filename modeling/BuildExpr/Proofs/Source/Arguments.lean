import BuildExpr.Proofs.Source.Cursors
import Mathlib.Data.List.Chain

/-!
# The pieces of an argument list

How an argument list is cut is read off its text (`Chars.Splits`). Its quoted runs and its groups
are passed over, and every comma that is left cuts. A group counts the brackets of its own kind only
and ends where it is level first, whatever follows, so a piece that is cut again stays whole
(`Cursor.argument_list_partitioned`).
-/

namespace BuildExpr

namespace Chars

/-! ## Inside and outside -/

/-- From its opening bracket on, a group is level first at its closing bracket. -/
def Encloses (opener closer : Char) (inside : List Char) : Prop :=
  Level opener closer (opener :: inside ++ [closer]) ∧
    ∀ part, part <+: opener :: inside → part ≠ [] → ¬Level opener closer part

/-- A text that is read from left to right ends outside of all quoted runs, parentheses and square
brackets. Closing brackets that close nothing are plain text. -/
inductive Outside : List Char → Prop
  | nil : Outside []
  | plain {c : Char} {cs : List Char} :
    isQuote c = false → c ≠ '(' → c ≠ '[' → Outside cs → Outside (c :: cs)
  | quoted {q : Char} {inside cs : List Char} :
    isQuote q = true → q ∉ inside → Outside cs → Outside (q :: inside ++ q :: cs)
  | group {opener closer : Char} {inside cs : List Char} :
    Grouping opener closer → Encloses opener closer inside → Outside cs →
      Outside (opener :: inside ++ closer :: cs)

/-- A text and the pieces that it is cut into. -/
inductive Splits : List Char → List (List Char) → Prop
  | nil : Splits [] [[]]
  | comma {cs : List Char} {pieces : List (List Char)} :
    Splits cs pieces → Splits (',' :: cs) ([] :: pieces)
  | plain {c : Char} {cs : List Char} {pieces : List (List Char)} :
    isQuote c = false → c ≠ '(' → c ≠ '[' → c ≠ ',' → Splits cs pieces →
      Splits (c :: cs) (before [c] pieces)
  | quoted {q : Char} {inside cs : List Char} {pieces : List (List Char)} :
    isQuote q = true → q ∉ inside → Splits cs pieces →
      Splits (q :: inside ++ q :: cs) (before (q :: inside ++ [q]) pieces)
  | group {opener closer : Char} {inside cs : List Char} {pieces : List (List Char)} :
    Grouping opener closer → Encloses opener closer inside → Splits cs pieces →
      Splits (opener :: inside ++ closer :: cs) (before (opener :: inside ++ [closer]) pieces)

/-- The search for a closing bracket finds it where the group is level first. -/
theorem encloses_iff {opener closer : Char} (hb : Brackets opener closer) {inside : List Char} :
    Encloses opener closer inside ↔ Closes opener closer { depth := 1 } inside := by
  have hclosing (after : List Char) :
      closing opener closer {} (opener :: (inside ++ closer :: after)) =
        some (opener :: inside, after) ↔
      closing opener closer { depth := 1 } (inside ++ closer :: after) = some (inside, after) := by
    rw [closing_opener hb, Option.map_eq_some_iff]
    constructor
    · rintro ⟨⟨inner, rest⟩, hfound, heq⟩
      obtain ⟨hinner, rfl⟩ := Prod.mk.inj heq
      obtain rfl : inner = inside := (List.cons.inj hinner).2
      exact hfound
    · intro hfound
      exact ⟨(inside, after), hfound, rfl⟩
  constructor
  · intro h after
    rw [← hclosing, closing_eq_some_iff hb]
    exact ⟨rfl, h⟩
  · intro h
    have hfound := (hclosing []).2 (h [])
    rw [closing_eq_some_iff hb] at hfound
    exact hfound.2

/-! ## How a list is cut -/

section

variable {xs ys cs : List Char} {pieces front back : List (List Char)}

theorem before_append_left (hfront : front ≠ []) (back : List (List Char)) :
    before cs (front ++ back) = before cs front ++ back := by
  cases front with
  | nil => exact absurd rfl hfront
  | cons piece front => rfl

theorem Splits.ne_nil (h : Splits cs pieces) : pieces ≠ [] := by
  have hbefore (xs : List Char) (pieces : List (List Char)) : before xs pieces ≠ [] := by
    cases pieces <;> simp [before]
  cases h with
  | nil => simp
  | comma => simp
  | plain => exact hbefore _ _
  | quoted => exact hbefore _ _
  | group => exact hbefore _ _

theorem splits_of_splitArguments (h : splitArguments cs = some pieces) : Splits cs pieces := by
  -- what is left behind a run or a group may be much shorter
  induction hn : cs.length using Nat.strong_induction_on generalizing cs pieces with
  | _ n ih =>
    subst hn
    cases cs with
    | nil =>
      obtain rfl : [[]] = pieces := Option.some.inj h
      exact .nil
    | cons c cs =>
      unfold splitArguments at h ih
      rcases quote_or_opener_or_comma c with hq | ⟨closer, hg⟩ | rfl | ⟨hq, hround, hsquare, hcomma⟩
      · rw [splitArgumentsIn_quote hq, Option.bind_eq_some_iff] at h
        obtain ⟨⟨inside, after⟩, hcut, h⟩ := h
        obtain ⟨more, hmore, rfl⟩ := Option.map_eq_some_iff.1 h
        obtain rfl := eq_of_cut?_eq_some hcut
        exact .quoted hq (not_mem_of_cut?_eq_some hcut) (ih _ (by simp; omega) hmore rfl)
      · rw [splitArgumentsIn_opener hg, Option.bind_eq_some_iff] at h
        obtain ⟨⟨inside, after⟩, hclosing, h⟩ := h
        obtain ⟨more, hmore, rfl⟩ := Option.map_eq_some_iff.1 h
        obtain ⟨rfl, hcloses⟩ := closing_eq_some hclosing
        exact .group hg ((encloses_iff hg.brackets).2 hcloses) (ih _ (by simp; omega) hmore rfl)
      · rw [splitArgumentsIn, if_pos ⟨rfl, rfl⟩] at h
        obtain ⟨more, hmore, rfl⟩ := Option.map_eq_some_iff.1 h
        exact .comma (ih _ (by simp) hmore rfl)
      · rw [← List.singleton_append, Uncut.single hq hround hsquare hcomma] at h
        obtain ⟨more, hmore, rfl⟩ := Option.map_eq_some_iff.1 h
        exact .plain hq hround hsquare hcomma (ih _ (by simp) hmore rfl)

theorem Splits.splitArguments_eq (h : Splits cs pieces) : splitArguments cs = some pieces := by
  unfold splitArguments
  induction h with
  | nil => rfl
  | comma _ ih => rw [splitArgumentsIn, if_pos ⟨rfl, rfl⟩, ih, Option.map_some]
  | plain hquote hround hsquare hcomma _ ih =>
    rw [← List.singleton_append, Uncut.single hquote hround hsquare hcomma, ih, Option.map_some]
  | quoted hq hinside _ ih =>
    rw [List.cons_append, splitArgumentsIn_quote hq, cut?_append_of_not_mem hinside,
      Option.bind_some, ih, Option.map_some]
  | group hg hinside _ ih =>
    rw [List.cons_append, splitArgumentsIn_opener hg,
      ((encloses_iff hg.brackets).1 hinside).closing, Option.bind_some, ih, Option.map_some]

/-- Behind a list that was cut, a comma starts the next one. -/
theorem Splits.splitArguments_append (h : Splits xs front) (ys : List Char) :
    splitArguments (xs ++ ',' :: ys) = (splitArguments ys).map (front ++ ·) := by
  have huncut {part xs : List Char} {front : List (List Char)} (hpart : Uncut part)
      (hfront : front ≠ []) (ih : splitArgumentsIn .outside (xs ++ ',' :: ys) =
        (splitArgumentsIn .outside ys).map (front ++ ·)) :
      splitArgumentsIn .outside (part ++ (xs ++ ',' :: ys)) =
        (splitArgumentsIn .outside ys).map (before part front ++ ·) := by
    rw [hpart, ih, Option.map_map]
    exact congrArg (Option.map · _) (funext fun back => before_append_left hfront back)
  unfold splitArguments
  induction h with
  | nil => rw [List.nil_append, splitArgumentsIn, if_pos ⟨rfl, rfl⟩]; rfl
  | comma _ ih =>
    rw [List.cons_append, splitArgumentsIn, if_pos ⟨rfl, rfl⟩, ih, Option.map_map]
    rfl
  | plain hquote hround hsquare hcomma hcs ih =>
    exact huncut (.single hquote hround hsquare hcomma) hcs.ne_nil ih
  | quoted hq hinside hcs ih =>
    have := huncut (.quoted hq hinside) hcs.ne_nil ih
    simpa using this
  | group hg hinside hcs ih =>
    have := huncut (.group hg ((encloses_iff hg.brackets).1 hinside)) hcs.ne_nil ih
    simpa using this

/-- A text that is cut ends outside of all runs and groups. -/
theorem Splits.outside (h : Splits cs pieces) : Outside cs := by
  induction h with
  | nil => exact .nil
  | comma _ ih => exact ih.plain rfl (by decide) (by decide)
  | plain hquote hround hsquare _ _ ih => exact ih.plain hquote hround hsquare
  | quoted hq hinside _ ih => exact ih.quoted hq hinside
  | group hg hinside _ ih => exact ih.group hg hinside

theorem Outside.exists_splits (h : Outside cs) : ∃ pieces, Splits cs pieces := by
  induction h with
  | nil => exact ⟨_, .nil⟩
  | @plain c cs hquote hround hsquare _ ih =>
    obtain ⟨pieces, hpieces⟩ := ih
    by_cases hcomma : c = ','
    · subst hcomma
      exact ⟨_, hpieces.comma⟩
    · exact ⟨_, hpieces.plain hquote hround hsquare hcomma⟩
  | quoted hq hinside _ ih =>
    obtain ⟨pieces, hpieces⟩ := ih
    exact ⟨_, hpieces.quoted hq hinside⟩
  | group hg hinside _ ih =>
    obtain ⟨pieces, hpieces⟩ := ih
    exact ⟨_, hpieces.group hg hinside⟩

theorem Outside.append (hx : Outside xs) (hy : Outside ys) : Outside (xs ++ ys) := by
  induction hx with
  | nil => exact hy
  | plain hquote hround hsquare _ ih => exact ih.plain hquote hround hsquare
  | quoted hq hinside _ ih =>
    rw [List.append_assoc, List.cons_append]
    exact ih.quoted hq hinside
  | group hg hinside _ ih =>
    rw [List.append_assoc, List.cons_append]
    exact ih.group hg hinside

theorem Uncut.nil : Uncut [] := by
  intro rest
  rw [List.nil_append]
  cases hrest : splitArgumentsIn .outside rest with
  | none => rfl
  | some pieces =>
    cases pieces with
    | nil => exact absurd rfl (splitArgumentsIn_ne_nil hrest)
    | cons piece pieces => rfl

/-- Each piece is one argument, whatever stands before and behind it. -/
theorem Splits.uncut (h : Splits cs pieces) : ∀ piece ∈ pieces, Uncut piece := by
  have hbefore {part : List Char} (hpart : Uncut part) {pieces : List (List Char)}
      (hne : pieces ≠ []) (hpieces : ∀ piece ∈ pieces, Uncut piece) :
      ∀ piece ∈ before part pieces, Uncut piece := by
    cases pieces with
    | nil => exact absurd rfl hne
    | cons first pieces =>
      obtain ⟨hfirst, hmore⟩ := List.forall_mem_cons.1 hpieces
      exact List.forall_mem_cons.2 ⟨hpart.append hfirst, hmore⟩
  induction h with
  | nil => simpa using Uncut.nil
  | comma _ ih => exact List.forall_mem_cons.2 ⟨.nil, ih⟩
  | plain hquote hround hsquare hcomma hcs ih =>
    exact hbefore (.single hquote hround hsquare hcomma) hcs.ne_nil ih
  | quoted hq hinside hcs ih => exact hbefore (.quoted hq hinside) hcs.ne_nil ih
  | group hg hinside hcs ih =>
    exact hbefore (.group hg ((encloses_iff hg.brackets).1 hinside)) hcs.ne_nil ih

theorem join_append (hfront : front ≠ []) (hback : back ≠ []) :
    join [','] (front ++ back) = join [','] front ++ ',' :: join [','] back := by
  induction front with
  | nil => exact absurd rfl hfront
  | cons piece front ih =>
    cases front with
    | nil => rw [List.singleton_append, join_cons_of_ne_nil _ _ hback]; simp [join]
    | cons next front =>
      rw [List.cons_append, join_cons_of_ne_nil _ _ (by simp), ih (List.cons_ne_nil next front),
        join_cons_of_ne_nil _ _ (List.cons_ne_nil next front)]
      simp

/-- The front of a list up to one of its cuts ends outside of all runs and groups. -/
theorem Splits.outside_front (h : Splits cs (front ++ back)) : Outside (join [','] front) := by
  have hpieces : ∀ piece ∈ front, Outside piece := by
    intro piece hpiece
    have huncut : Uncut piece := h.uncut piece (List.mem_append_left _ hpiece)
    exact (splits_of_splitArguments huncut.splitArguments_eq).outside
  clear h
  induction front with
  | nil => exact .nil
  | cons piece front ih =>
    obtain ⟨hpiece, hmore⟩ := List.forall_mem_cons.1 hpieces
    cases front with
    | nil => exact hpiece
    | cons next front =>
      rw [join_cons_of_ne_nil _ _ (List.cons_ne_nil next front), List.append_assoc]
      exact hpiece.append ((ih hmore).plain rfl (by decide) (by decide))

/-- A comma cuts a list exactly when the text before it ends outside of all runs and groups. -/
theorem Splits.outside_iff (h : Splits (xs ++ ',' :: ys) pieces) :
    Outside xs ↔ ∃ front back, pieces = front ++ back ∧ front ≠ [] ∧ back ≠ [] ∧
      join [','] front = xs := by
  constructor
  · intro hxs
    obtain ⟨front, hfront⟩ := hxs.exists_splits
    have hpieces := h.splitArguments_eq
    rw [hfront.splitArguments_append, Option.map_eq_some_iff] at hpieces
    obtain ⟨back, hback, rfl⟩ := hpieces
    exact ⟨front, back, rfl, hfront.ne_nil, (splits_of_splitArguments hback).ne_nil,
      join_of_splitArgumentsIn hfront.splitArguments_eq⟩
  · rintro ⟨front, back, rfl, -, -, rfl⟩
    exact h.outside_front

end

end Chars

/-! ## Where the pieces lie -/

namespace Rest

theorem map_chars_pieces (pos : Nat) (texts : List (List Char)) :
    (pieces pos texts).map Rest.chars = texts := by
  induction texts generalizing pos with
  | nil => rfl
  | cons text texts ih => rw [pieces, List.map_cons, ih]

theorem pieces_append {front : List (List Char)} (hfront : front ≠ []) (pos : Nat)
    (back : List (List Char)) :
    pieces pos (front ++ back) =
      pieces pos front ++ pieces (pos + Chars.byteLength (Chars.join [','] front) + 1) back := by
  induction front generalizing pos with
  | nil => exact absurd rfl hfront
  | cons text front ih =>
    rw [List.cons_append, pieces, pieces, List.cons_append]
    cases front with
    | nil => rfl
    | cons next front =>
      have hcomma : (',' : Char).utf8Size = 1 := rfl
      have hjoin := Chars.join_cons_of_ne_nil [','] text (List.cons_ne_nil next front)
      have hpos : pos + Chars.byteLength (Chars.join [','] (text :: next :: front)) =
          pos + Chars.byteLength text + 1 +
            Chars.byteLength (Chars.join [','] (next :: front)) := by
        rw [hjoin]
        simp only [Chars.byteLength_append, Chars.byteLength_cons, Chars.byteLength_nil, hcomma]
        omega
      rw [ih (List.cons_ne_nil next front), hpos]

/-- The last piece ends where the list does. -/
theorem getLast?_pieces {texts : List (List Char)} (h : texts ≠ []) (pos : Nat) :
    (pieces pos texts).getLast?.map stop =
      some (pos + Chars.byteLength (Chars.join [','] texts)) := by
  rcases List.eq_nil_or_concat texts with rfl | ⟨front, last, rfl⟩
  · exact absurd rfl h
  · rw [List.concat_eq_append]
    cases front with
    | nil => rfl
    | cons text front =>
      have hne : text :: front ≠ [] := List.cons_ne_nil text front
      have hcomma : (',' : Char).utf8Size = 1 := rfl
      have hlast (pos : Nat) : pieces pos [last] = [⟨pos, last⟩] := rfl
      rw [pieces_append hne, hlast, Chars.join_concat _ hne, List.getLast?_concat,
        Option.map_some, stop]
      simp only [Chars.byteLength_append, Chars.byteLength_cons, Chars.byteLength_nil, hcomma]
      congr 1
      omega

/-- Between two pieces there is one byte, that of the comma. -/
theorem isChain_pieces (pos : Nat) (texts : List (List Char)) :
    (pieces pos texts).IsChain fun r next => r.stop + 1 = next.pos := by
  induction texts generalizing pos with
  | nil => exact .nil
  | cons text texts ih =>
    cases texts with
    | nil => exact .singleton _
    | cons next texts => exact (ih _).cons_cons rfl

/-- Adjacent pieces are where the texts are taken apart, and the first of them ends behind the texts
in front. -/
theorem exists_adjacent_pieces_iff (pos : Nat) (texts : List (List Char)) (n : Nat) :
    (∃ r next, [r, next] <:+: pieces pos texts ∧ r.stop = n) ↔
      ∃ front back, texts = front ++ back ∧ front ≠ [] ∧ back ≠ [] ∧
        pos + Chars.byteLength (Chars.join [','] front) = n := by
  constructor
  · rintro ⟨r, next, ⟨before, after, hinfix⟩, rfl⟩
    have hcut : before ++ [r, next] ++ after = (before ++ [r]) ++ next :: after := by simp
    have htexts := (map_chars_pieces pos texts).symm
    rw [hcut] at hinfix
    rw [← hinfix, List.map_append] at htexts
    subst htexts
    have hne : (before ++ [r]).map Rest.chars ≠ [] := by simp
    have hlength : (before ++ [r]).length =
        (pieces pos ((before ++ [r]).map Rest.chars)).length := by
      have := congrArg List.length (map_chars_pieces pos ((before ++ [r]).map Rest.chars))
      rw [List.length_map, List.length_map] at this
      exact this.symm
    rw [pieces_append hne] at hinfix
    obtain ⟨hfront, -⟩ := List.append_inj hinfix hlength
    have hlast := getLast?_pieces hne pos
    rw [← hfront, List.getLast?_concat, Option.map_some] at hlast
    exact ⟨_, _, rfl, hne, by simp, (Option.some.inj hlast).symm⟩
  · rintro ⟨front, back, rfl, hfront, hback, rfl⟩
    have hlast := getLast?_pieces hfront pos
    obtain ⟨r, hr, hstop⟩ := Option.map_eq_some_iff.1 hlast
    obtain ⟨before, hbefore⟩ := List.getLast?_eq_some_iff.1 hr
    cases back with
    | nil => exact absurd rfl hback
    | cons text back =>
      obtain ⟨next, after, hafter⟩ : ∃ next after, pieces (pos +
          Chars.byteLength (Chars.join [','] front) + 1) (text :: back) = next :: after :=
        ⟨_, _, rfl⟩
      refine ⟨r, next, ⟨before, after, ?_⟩, hstop⟩
      rw [pieces_append hfront, hbefore, hafter]
      simp

end Rest

namespace Cursor

theorem dropBytes?_eq_some {n : Nat} {cs after : List Char}
    (h : Chars.dropBytes? n cs = some after) :
    ∃ front, cs = front ++ after ∧ Chars.byteLength front = n := by
  induction cs generalizing n with
  | nil =>
    cases n with
    | zero =>
      obtain rfl : [] = after := Option.some.inj h
      exact ⟨[], rfl, rfl⟩
    | succ n => cases h
  | cons c cs ih =>
    cases n with
    | zero =>
      obtain rfl : c :: cs = after := Option.some.inj h
      exact ⟨[], rfl, rfl⟩
    | succ n =>
      rw [Chars.dropBytes?] at h
      split at h
      · obtain ⟨front, rfl, hfront⟩ := ih h
        exact ⟨c :: front, rfl, by rw [Chars.byteLength_cons, hfront]; omega⟩
      · cases h

theorem takeBytes?_eq_some {n : Nat} {cs front : List Char}
    (h : Chars.takeBytes? n cs = some front) :
    ∃ after, cs = front ++ after ∧ Chars.byteLength front = n := by
  induction cs generalizing n front with
  | nil =>
    cases n with
    | zero =>
      obtain rfl : [] = front := Option.some.inj h
      exact ⟨[], rfl, rfl⟩
    | succ n => cases h
  | cons c cs ih =>
    cases n with
    | zero =>
      obtain rfl : [] = front := Option.some.inj h
      exact ⟨c :: cs, rfl, rfl⟩
    | succ n =>
      rw [Chars.takeBytes?] at h
      split at h
      · obtain ⟨more, hmore, rfl⟩ := Option.map_eq_some_iff.1 h
        obtain ⟨after, rfl, hfront⟩ := ih hmore
        exact ⟨after, rfl, by rw [Chars.byteLength_cons, hfront]; omega⟩
      · cases h

/-- A range that has a text lies between characters. -/
theorem within_of_slice? {source : String} {start stop : Nat} {s : Span}
    (h : Span.slice? source start stop = some s) (hle : start ≤ stop) :
    s.start = start ∧ s.stop = stop ∧ s.toRest.Within (.ofText source) := by
  obtain ⟨cs, hdrop, h⟩ := Option.bind_eq_some_iff.1 h
  obtain ⟨piece, htake, h⟩ := Option.bind_eq_some_iff.1 h
  obtain rfl : ⟨start, String.ofList piece⟩ = s := Option.some.inj h
  obtain ⟨front, hsource, hfront⟩ := dropBytes?_eq_some hdrop
  obtain ⟨after, rfl, hpiece⟩ := takeBytes?_eq_some htake
  refine ⟨rfl, ?_, front, after, ?_, ?_⟩
  · rw [Span.stop, String.toList_ofList, hpiece]
    exact Nat.add_sub_cancel' hle
  · rw [Rest.ofText, hsource, Span.toRest_mk, List.append_assoc]
  · rw [Rest.ofText, Span.toRest_mk, hfront, Nat.zero_add]

variable {k : Cursor} {start stop : Nat} {whole : Span}

theorem splitArguments?_eq (hwhole : Span.slice? k.source start stop = some whole)
    (hle : start ≤ stop) :
    k.splitArguments? start stop = whole.toRest.splitArguments.map (List.map Rest.span) := by
  obtain ⟨rfl, rfl, hwithin⟩ := within_of_slice? hwhole hle
  rw [splitArguments?]
  exact congrArg (fun r => r.splitArguments.map (List.map Rest.span))
    (restAt_of_within hwithin k.pos)

/-- The pieces of a range are those of its text, one behind the other. -/
theorem exists_texts {pieces : List Span} (hle : start ≤ stop)
    (hwhole : Span.slice? k.source start stop = some whole)
    (h : k.splitArguments? start stop = some pieces) :
    ∃ texts, Chars.splitArguments whole.text.toList = some texts ∧
      pieces = (Rest.pieces start texts).map Rest.span := by
  rw [splitArguments?_eq hwhole hle] at h
  obtain ⟨rests, hrests, rfl⟩ := Option.map_eq_some_iff.1 h
  obtain ⟨texts, htexts, rfl⟩ := Option.map_eq_some_iff.1 hrests
  obtain ⟨rfl, -, -⟩ := within_of_slice? hwhole hle
  exact ⟨texts, htexts, rfl⟩

/-- A piece of a range is a range of its own, and it is the only piece of that. -/
theorem splitArguments?_piece (hle : start ≤ stop)
    (hwhole : Span.slice? k.source start stop = some whole) {texts : List (List Char)}
    (htexts : Chars.splitArguments whole.text.toList = some texts) {r : Rest}
    (hr : r ∈ Rest.pieces start texts) :
    Span.slice? k.source r.span.start r.span.stop = some r.span ∧
      k.splitArguments? r.span.start r.span.stop = some [r.span] := by
  obtain ⟨rfl, -, hwithin⟩ := within_of_slice? hwhole hle
  have hsplit : whole.toRest.splitArguments = some (Rest.pieces whole.start texts) := by
    rw [Rest.splitArguments, Span.toRest_chars, htexts, Option.map_some, Span.toRest_pos]
  have hpiece : r.span.toRest.Within (.ofText k.source) := by
    rw [Rest.toRest_span]
    exact (Rest.within_of_mem_splitArguments hsplit hr).trans hwithin
  have hslice := hpiece.slice?
  have huncut : Chars.Uncut r.chars := by
    apply (Chars.splits_of_splitArguments htexts).uncut
    rw [← Rest.map_chars_pieces whole.start texts]
    exact List.mem_map_of_mem hr
  refine ⟨hslice, ?_⟩
  rw [splitArguments?_eq hslice (Nat.le_add_right _ _), Rest.toRest_span, Rest.splitArguments,
    huncut.splitArguments_eq]
  rfl

theorem map_toList_pieces (start : Nat) (texts : List (List Char)) :
    ((Rest.pieces start texts).map Rest.span).map (fun p => p.text.toList) = texts := by
  rw [List.map_map]
  exact (congrArg (List.map · _) (funext fun r => String.toList_ofList)).trans
    (Rest.map_chars_pieces start texts)

/-- A comma of a list is the end of a piece with another behind it exactly when the text before it
ends outside of all runs and groups. -/
theorem infix_pieces_iff {xs ys : List Char} {texts : List (List Char)} (start : Nat)
    (h : Chars.splitArguments (xs ++ ',' :: ys) = some texts) :
    (∃ p next, [p, next] <:+: (Rest.pieces start texts).map Rest.span ∧
      p.stop = start + Chars.byteLength xs) ↔ Chars.Outside xs := by
  have hspan (r : Rest) : r.span.stop = r.stop := by
    rw [Span.stop, Rest.span, String.toList_ofList, Rest.stop]
  have hspans : (∃ p next, [p, next] <:+: (Rest.pieces start texts).map Rest.span ∧
      p.stop = start + Chars.byteLength xs) ↔
      ∃ r next, [r, next] <:+: Rest.pieces start texts ∧
        r.stop = start + Chars.byteLength xs := by
    constructor
    · rintro ⟨p, next, hinfix, hstop⟩
      obtain ⟨rests, hrests, hmap⟩ := List.infix_map_iff.1 hinfix
      obtain ⟨r, more, rfl, rfl, hmore⟩ := List.map_eq_cons_iff.1 hmap.symm
      obtain ⟨r', rests, rfl, rfl, hnil⟩ := List.map_eq_cons_iff.1 hmore
      obtain rfl := List.map_eq_nil_iff.1 hnil
      exact ⟨r, r', hrests, (hspan r).symm.trans hstop⟩
    · rintro ⟨r, next, hinfix, hstop⟩
      exact ⟨r.span, next.span, hinfix.map Rest.span, (hspan r).trans hstop⟩
  rw [hspans, Rest.exists_adjacent_pieces_iff, (Chars.splits_of_splitArguments h).outside_iff]
  constructor
  · rintro ⟨front, back, rfl, hfront, hback, hlength⟩
    refine ⟨front, back, rfl, hfront, hback, ?_⟩
    -- both texts are the front of the list up to the same byte
    have hjoin := Chars.join_of_splitArgumentsIn h
    rw [Chars.join_append hfront hback] at hjoin
    have htake := Rest.takeBytes?_append xs (',' :: ys)
    rw [← hjoin, ← Nat.add_left_cancel hlength, Rest.takeBytes?_append] at htake
    exact Option.some.inj htake
  · rintro ⟨front, back, rfl, hfront, hback, rfl⟩
    exact ⟨front, back, rfl, hfront, hback, rfl⟩

/-- A cut argument list is partitioned. The texts of its pieces with commas between them are the
text of the list; the pieces follow each other from its start to its end, each is the text between
its own ends and is cut no further; and a comma is where a piece ends and the next begins exactly
when the text before it ends outside of all quoted runs, parentheses and square brackets. -/
theorem argument_list_partitioned (k : Cursor) {start stop : Nat} {whole : Span}
    {pieces : List Span} (hle : start ≤ stop)
    (hwhole : Span.slice? k.source start stop = some whole)
    (h : k.splitArguments? start stop = some pieces) :
    Chars.join [','] (pieces.map fun p => p.text.toList) = whole.text.toList ∧
    (pieces.head?.map Span.start = some start ∧ pieces.getLast?.map Span.stop = some stop ∧
      pieces.IsChain fun p next => p.stop + 1 = next.start) ∧
    (∀ p ∈ pieces, Span.slice? k.source p.start p.stop = some p ∧
      k.splitArguments? p.start p.stop = some [p]) ∧
    ∀ xs ys, whole.text.toList = xs ++ ',' :: ys →
      ((∃ p next, [p, next] <:+: pieces ∧ p.stop = start + Chars.byteLength xs) ↔
        Chars.Outside xs) := by
  obtain ⟨texts, htexts, rfl⟩ := exists_texts hle hwhole h
  have hjoin : Chars.join [','] texts = whole.text.toList := Chars.join_of_splitArgumentsIn htexts
  have hne : texts ≠ [] := Chars.splitArgumentsIn_ne_nil htexts
  have hstop : Span.stop ∘ Rest.span = Rest.stop := by
    funext r
    rw [Function.comp_apply, Span.stop, Rest.span, String.toList_ofList, Rest.stop]
  refine ⟨by rw [map_toList_pieces, hjoin], ⟨?_, ?_, ?_⟩, ?_, fun xs ys hxs => ?_⟩
  · cases texts with
    | nil => exact absurd rfl hne
    | cons text texts => rfl
  · obtain ⟨rfl, rfl, -⟩ := within_of_slice? hwhole hle
    rw [List.getLast?_map, Option.map_map, hstop, Rest.getLast?_pieces hne, hjoin, Span.stop]
  · rw [List.isChain_map]
    refine (Rest.isChain_pieces start texts).imp fun r next hnext => ?_
    rw [← Function.comp_apply (f := Span.stop), hstop]
    exact hnext
  · intro p hp
    obtain ⟨r, hr, rfl⟩ := List.mem_map.1 hp
    exact splitArguments?_piece hle hwhole htexts hr
  · rw [hxs] at htexts
    exact infix_pieces_iff start htexts

/-- A bracket of the other kind does not count inside of a group, nor does one that closes nothing,
and a comma in quotes does not cut. -/
theorem argument_list_partitioned_of_overlapping :
    let k := ofRange "f(a(b[),c],'d,e',g)" 0 19
    k.splitArguments? 2 18 =
        some [⟨2, "a(b[)"⟩, ⟨8, "c]"⟩, ⟨11, "'d,e'"⟩, ⟨17, "g"⟩] ∧
      k.splitArguments? 2 7 = some [⟨2, "a(b[)"⟩] ∧
      Chars.Outside "a(b[),c]".toList ∧ ¬Chars.Outside "a(b[),c],'d".toList := by
  intro k
  have hwhole : Span.slice? k.source 2 18 = some ⟨2, "a(b[),c],'d,e',g"⟩ := by decide +kernel
  have hpieces : k.splitArguments? 2 18 =
      some [⟨2, "a(b[)"⟩, ⟨8, "c]"⟩, ⟨11, "'d,e'"⟩, ⟨17, "g"⟩] := by decide +kernel
  obtain ⟨-, -, hagain, hcomma⟩ := argument_list_partitioned k (by decide) hwhole hpieces
  refine ⟨hpieces, (hagain ⟨2, "a(b[)"⟩ (by simp)).2, ?_, ?_⟩
  · apply (hcomma _ "'d,e',g".toList (by decide +kernel)).1
    exact ⟨⟨8, "c]"⟩, ⟨11, "'d,e'"⟩, ⟨[_], [_], rfl⟩, by decide +kernel⟩
  · rw [← hcomma _ "e',g".toList (by decide +kernel)]
    rintro ⟨p, next, hinfix, hstop⟩
    have hp := hinfix.subset (List.mem_cons_self ..)
    simp only [List.mem_cons, List.not_mem_nil, or_false] at hp
    rcases hp with rfl | rfl | rfl | rfl <;> exact absurd hstop (by decide +kernel)

end Cursor

end BuildExpr
