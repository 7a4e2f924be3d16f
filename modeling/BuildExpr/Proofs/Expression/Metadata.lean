import BuildExpr.Expression.Chunk
import BuildExpr.Proofs.Source.Within
import Mathlib.Data.Option.Basic

/-!
# Metadata references

What stands between `%(` and the next `)` decides whether a text begins with a metadata reference
(`read?_of_close`), and what follows that `)` does not matter. The inside of one holds names, blanks
and at most one point, hence no quote, parenthesis or `;` (`isRefPart_of_inner?`).
-/

namespace BuildExpr

namespace Chars

/-- A character that the inside of a metadata reference may have. -/
def isRefPart (c : Char) : Bool := isWord c || isAsciiBlank c || c == '-' || c == '.'

theorem isRefPart_of_mem_nameTail {dash : Bool} {cs : List Char} {c : Char}
    (h : c ∈ (nameTail dash cs).1) : isRefPart c = true := by
  induction cs with
  | nil => simp [nameTail] at h
  | cons d cs ih =>
    rw [nameTail] at h
    split at h
    · rename_i hd
      rcases List.mem_cons.1 h with rfl | h
      · simp only [Bool.or_eq_true, Bool.and_eq_true] at hd
        rcases hd with hd | hd
        · simp [isRefPart, hd]
        · simp [isRefPart, hd.1.2]
      · exact ih h
    · simp at h

theorem isRefPart_of_mem_name? {dash : Bool} {cs name rest : List Char}
    (h : name? dash cs = some (name, rest)) {c : Char} (hc : c ∈ name) : isRefPart c = true := by
  cases cs with
  | nil => simp [name?] at h
  | cons d cs =>
    rw [name?] at h
    split at h
    · rename_i hd
      obtain ⟨rfl, -⟩ := Prod.mk.inj (Option.some.inj h)
      rcases List.mem_cons.1 hc with rfl | hc
      · simp only [Bool.or_eq_true] at hd
        rcases hd with hd | hd
        · simp [isRefPart, isWord, Char.isAlphanum, hd]
        · simp [isRefPart, isWord, hd]
      · exact isRefPart_of_mem_nameTail hc
    · cases h

/-- A name and what follows it. -/
theorem eq_of_name? {dash : Bool} {cs name rest : List Char}
    (h : name? dash cs = some (name, rest)) : cs = name ++ rest := by
  cases cs with
  | nil => cases h
  | cons c cs =>
    rw [name?] at h
    split at h
    · obtain ⟨rfl, rfl⟩ := Prod.mk.inj (Option.some.inj h)
      rw [List.cons_append, Rest.nameTail_append]
    · cases h

theorem isRefPart_of_mem_takeWhile {cs : List Char} {c : Char}
    (h : c ∈ cs.takeWhile isAsciiBlank) : isRefPart c = true := by
  have := List.all_eq_true.1 (List.all_takeWhile (l := cs) (p := isAsciiBlank)) c h
  simp [isRefPart, this]

/-! ## Reading up to a closing parenthesis -/

theorem nameTail_append_close (dash : Bool) (xs rest : List Char) :
    nameTail dash (xs ++ ')' :: rest) =
      ((nameTail dash xs).1, (nameTail dash xs).2 ++ ')' :: rest) := by
  induction xs with
  | nil =>
    have hclose : isWord ')' = false := rfl
    simp [nameTail, hclose]
  | cons c xs ih =>
    have hhead : ((xs ++ ')' :: rest).head? != some '>') = (xs.head? != some '>') := by
      cases xs <;> rfl
    rw [List.cons_append, nameTail, nameTail, hhead, ih]
    split <;> rfl

theorem name?_append_close (dash : Bool) (xs rest : List Char) :
    name? dash (xs ++ ')' :: rest) =
      (name? dash xs).map fun p => (p.1, p.2 ++ ')' :: rest) := by
  cases xs with
  | nil => rfl
  | cons c xs =>
    rw [List.cons_append, name?, name?, nameTail_append_close]
    split <;> rfl

end Chars

namespace Rest

/-- A text with another behind it. -/
def extend (r : Rest) (tail : List Char) : Rest := ⟨r.pos, r.chars ++ tail⟩

theorem name?_extend_close (r : Rest) (dash : Bool) (rest : List Char) :
    (r.extend (')' :: rest)).name? dash =
      (r.name? dash).map fun p => (p.1, p.2.extend (')' :: rest)) := by
  simp only [name?, extend, Chars.name?_append_close, Option.map_map]
  rfl

theorem skipBlanks_extend_close (r : Rest) (rest : List Char) :
    (r.extend (')' :: rest)).skipBlanks = r.skipBlanks.extend (')' :: rest) := by
  have htake : (r.chars ++ ')' :: rest).takeWhile Chars.isAsciiBlank =
      r.chars.takeWhile Chars.isAsciiBlank := by
    induction r.chars with
    | nil => rfl
    | cons c cs ih =>
      rw [List.cons_append, List.takeWhile_cons, List.takeWhile_cons, ih]
  have hdrop : (r.chars ++ ')' :: rest).dropWhile Chars.isAsciiBlank =
      r.chars.dropWhile Chars.isAsciiBlank ++ ')' :: rest := by
    induction r.chars with
    | nil => rfl
    | cons c cs ih =>
      rw [List.cons_append, List.dropWhile_cons, List.dropWhile_cons, ih]
      split <;> rfl
  simp only [skipBlanks, extend, htake, hdrop]

theorem peek?_extend_of_nil {r : Rest} (h : r.chars = []) (c : Char) (tail : List Char) :
    (r.extend (c :: tail)).peek? = some c := by
  simp [extend, peek?, h]

theorem peek?_extend_of_cons {r : Rest} {c : Char} {cs : List Char} (h : r.chars = c :: cs)
    (tail : List Char) : (r.extend tail).peek? = some c := by
  simp [extend, peek?, h]

theorem next_extend_of_cons {r : Rest} {c : Char} {cs : List Char} (h : r.chars = c :: cs)
    (tail : List Char) : (r.extend tail).next = r.next.extend tail := by
  simp [next, drop, extend, h]

/-- The characters of a name are parts of a reference. -/
theorem exists_refPart_of_name? {r after : Rest} {dash : Bool} {name : Span}
    (h : r.name? dash = some (name, after)) :
    ∃ cs, r.chars = cs ++ after.chars ∧ ∀ c ∈ cs, Chars.isRefPart c = true := by
  obtain ⟨⟨cs, rest⟩, hcs, he⟩ := Option.map_eq_some_iff.1 h
  obtain ⟨-, rfl⟩ := Prod.mk.inj he
  exact ⟨cs, Chars.eq_of_name? hcs, fun _ => Chars.isRefPart_of_mem_name? hcs⟩

/-- What follows a name and the blanks around it is the end of a text. -/
theorem tail_of_blank_name {r after : Rest} {dash : Bool} {name : Span}
    (h : r.skipBlanks.name? dash = some (name, after)) : after.skipBlanks.Tail r :=
  (tail_skipBlanks _).trans <| (tail_of_name? h).trans (tail_skipBlanks _)

end Rest

namespace MetadataRef

/-- Reads the inside of a metadata reference: a name, or two names with a point between. -/
def inner? (r : Rest) : Option (Option Span × Span) := do
  let (first, afterFirst) ← r.skipBlanks.name? true
  match afterFirst.skipBlanks.chars with
  | [] => some (none, first)
  | c :: _ =>
    if c == '.' then do
      let (second, afterSecond) ← afterFirst.skipBlanks.next.skipBlanks.name? true
      if afterSecond.skipBlanks.isEmpty then some (some first, second) else none
    else none

/-- The reference with an inside and the parts that were read of it. -/
def ofInner (pos : Nat) (inside : List Char) (parts : Option Span × Span) : MetadataRef where
  span := ⟨pos, String.ofList ('%' :: '(' :: inside ++ [')'])⟩
  itemType := parts.1
  name := parts.2

/-- The last step of reading a reference, at the end `last` of its inside: a `)` has to be next,
so the inside has to be read up. -/
theorem guard_close {pos : Nat} {inside : List Char} (h : ')' ∉ inside) (rest : List Char)
    {last : Rest} (hlast : last.Tail ⟨pos + 2, inside⟩) (itemType : Option Span) (name : Span) :
    ((guard ((last.extend (')' :: rest)).peek? = some ')') : Option Unit).bind fun _ =>
        some (MetadataRef.mk ((⟨pos, '%' :: '(' :: (inside ++ ')' :: rest)⟩ : Rest).upTo
          (last.extend (')' :: rest)).next) itemType name, (last.extend (')' :: rest)).next)) =
      if last.isEmpty then
        some (ofInner pos inside (itemType, name),
          ⟨pos + 3 + Chars.byteLength inside, rest⟩)
      else none := by
  obtain ⟨before, hbefore, hpos⟩ := hlast
  obtain ⟨lastPos, cs⟩ := last
  simp only at hbefore hpos
  cases cs with
  | nil =>
    rw [List.append_nil] at hbefore
    subst hbefore
    have hnext : ((⟨lastPos, []⟩ : Rest).extend (')' :: rest)).next =
        ⟨pos + 3 + Chars.byteLength inside, rest⟩ := by
      simp only [Rest.next, Rest.drop, Rest.extend, List.nil_append, List.take_succ_cons,
        List.take_zero, List.drop_succ_cons, List.drop_zero, Chars.byteLength_cons,
        Chars.byteLength_nil, hpos, Rest.mk.injEq, and_true]
      have : (')' : Char).utf8Size = 1 := rfl
      omega
    have hspan : (⟨pos, '%' :: '(' :: (inside ++ ')' :: rest)⟩ : Rest).upTo
        ⟨pos + 3 + Chars.byteLength inside, rest⟩ =
          ⟨pos, String.ofList ('%' :: '(' :: inside ++ [')'])⟩ :=
      Rest.upTo_eq (by simp)
    rw [hnext, hspan]
    rfl
  | cons c cs =>
    have hc : c ≠ ')' := by
      rintro rfl
      exact h (by simp [hbefore])
    simp [Rest.extend, Rest.peek?, Rest.isEmpty, hc, guard]

/-- A text with a `)` in it begins with a metadata reference when what stands between `%(` and
the first `)` is the inside of one. -/
theorem read?_of_close (pos : Nat) (inside rest : List Char) (h : ')' ∉ inside) :
    read? ⟨pos, '%' :: '(' :: inside ++ ')' :: rest⟩ =
      (inner? ⟨pos + 2, inside⟩).map fun parts =>
        (ofInner pos inside parts, ⟨pos + 3 + Chars.byteLength inside, rest⟩) := by
  have hdrop : (⟨pos, '%' :: '(' :: inside ++ ')' :: rest⟩ : Rest).drop 2 =
      (⟨pos + 2, inside⟩ : Rest).extend (')' :: rest) := rfl
  simp only [read?, inner?, hdrop, Rest.skipBlanks_extend_close, Rest.name?_extend_close]
  cases hfirst : (⟨pos + 2, inside⟩ : Rest).skipBlanks.name? true with
  | none => simp
  | some p =>
    obtain ⟨first, after⟩ := p
    have hafter := Rest.tail_of_blank_name hfirst
    simp only [List.cons_append, List.take_succ_cons, List.take_zero, BEq.rfl, guard, if_true,
      Option.map_some, Option.pure_def, Option.bind_eq_bind, Option.bind_some,
      Rest.skipBlanks_extend_close]
    cases hcs : after.skipBlanks.chars with
    | nil =>
      have hclose := guard_close h rest hafter none first
      rw [if_pos (by simp [Rest.isEmpty, hcs])] at hclose
      rw [if_neg (by simp [Rest.peek?_extend_of_nil hcs])]
      simpa [guard] using hclose
    | cons c cs =>
      have hpeek := Rest.peek?_extend_of_cons hcs (')' :: rest)
      by_cases hc : c = '.'
      · rw [if_pos (by simp [hpeek, hc]), Rest.next_extend_of_cons hcs,
          Rest.skipBlanks_extend_close, Rest.name?_extend_close]
        cases hsecond : after.skipBlanks.next.skipBlanks.name? true with
        | none => simp [hc]
        | some p =>
          obtain ⟨second, more⟩ := p
          have hclose := guard_close h rest ((Rest.tail_of_blank_name hsecond).trans
            ((Rest.tail_next _).trans hafter)) (some first) second
          simpa [guard, hc, Rest.skipBlanks_extend_close] using hclose
      · have hclose := guard_close h rest hafter none first
        rw [if_neg (by simp [Rest.isEmpty, hcs])] at hclose
        rw [if_neg (by simp [hpeek, hc])]
        simpa [guard, hc] using hclose

theorem of_guard {p : Prop} [Decidable p] {u : Unit} (h : (guard p : Option Unit) = some u) :
    p := by
  unfold guard at h
  split at h
  · assumption
  · cases h

/-- A metadata reference begins with `%(`, and a `)` follows. -/
theorem close_mem_of_read? {r after : Rest} {m : MetadataRef} (h : read? r = some (m, after)) :
    r.chars.take 2 = ['%', '('] ∧ ')' ∈ r.chars.drop 2 := by
  have hmem {last : Rest} (hlast : last.Tail (r.drop 2)) (hpeek : last.peek? = some ')') :
      ')' ∈ r.chars.drop 2 := by
    obtain ⟨before, hbefore, -⟩ := hlast
    obtain ⟨cs, hcs⟩ : ∃ cs, last.chars = ')' :: cs := List.head?_eq_some_iff.1 hpeek
    have : r.chars.drop 2 = before ++ ')' :: cs := by rw [← hcs, ← hbefore]; rfl
    simp [this]
  simp only [read?, Option.bind_eq_bind] at h
  obtain ⟨_, htake, h⟩ := Option.bind_eq_some_iff.1 h
  obtain ⟨⟨first, afterFirst⟩, hfirst, h⟩ := Option.bind_eq_some_iff.1 h
  refine ⟨by simpa using of_guard htake, ?_⟩
  have hafter : afterFirst.skipBlanks.Tail (r.drop 2) := Rest.tail_of_blank_name hfirst
  dsimp only at h
  split at h
  · obtain ⟨⟨second, afterSecond⟩, hsecond, h⟩ := Option.bind_eq_some_iff.1 h
    obtain ⟨_, hlast, h⟩ := Option.bind_eq_some_iff.1 h
    obtain rfl := Option.some.inj hlast
    obtain ⟨_, hpeek, -⟩ := Option.bind_eq_some_iff.1 h
    refine hmem ?_ (by simpa using of_guard hpeek)
    exact (Rest.tail_of_blank_name hsecond).trans ((Rest.tail_next _).trans hafter)
  · obtain ⟨_, hlast, h⟩ := Option.bind_eq_some_iff.1 h
    obtain rfl := Option.some.inj hlast
    obtain ⟨_, hpeek, -⟩ := Option.bind_eq_some_iff.1 h
    exact hmem hafter (by simpa using of_guard hpeek)

/-- A metadata reference at the front of a text ends at the first `)`, and its parts are those of
its inside. -/
theorem read?_eq_some {r after : Rest} {m : MetadataRef} (h : read? r = some (m, after)) :
    ∃ inside parts, ')' ∉ inside ∧ r.chars = '%' :: '(' :: inside ++ ')' :: after.chars ∧
      inner? ⟨r.pos + 2, inside⟩ = some parts ∧ m = ofInner r.pos inside parts ∧
      after.pos = r.pos + 3 + Chars.byteLength inside := by
  obtain ⟨htake, hmem⟩ := close_mem_of_read? h
  obtain ⟨inside, rest, hdrop, hinside⟩ := List.eq_append_cons_of_mem hmem
  have hr : r.chars = '%' :: '(' :: inside ++ ')' :: rest := by
    rw [← List.take_append_drop 2 r.chars, htake, hdrop]
    rfl
  have hread := read?_of_close r.pos inside rest hinside
  rw [← hr, h] at hread
  obtain ⟨parts, hparts, he⟩ := Option.map_eq_some_iff.1 hread.symm
  obtain ⟨rfl, rfl⟩ := Prod.mk.inj he
  exact ⟨inside, parts, hinside, hr, hparts, rfl, rfl⟩

/-- Blanks and a name at the front of a text are parts of a reference, and what follows them. -/
theorem isRefPart_of_tail {r r' : Rest} {name : Span} {after : Rest}
    (h : r.skipBlanks.name? true = some (name, after)) (hr : r' = after.skipBlanks)
    (htail : ∀ c ∈ r'.chars, Chars.isRefPart c = true) :
    ∀ c ∈ r.chars, Chars.isRefPart c = true := by
  intro c hc
  rw [← List.takeWhile_append_dropWhile (p := Chars.isAsciiBlank) (l := r.chars),
    List.mem_append] at hc
  rcases hc with hc | hc
  · exact Chars.isRefPart_of_mem_takeWhile hc
  · obtain ⟨cs, hcs, hname⟩ := Rest.exists_refPart_of_name? h
    have hc' : c ∈ cs ++ after.chars := by
      rw [← hcs]
      exact hc
    rcases List.mem_append.1 hc' with hc | hc
    · exact hname c hc
    · rw [← List.takeWhile_append_dropWhile (p := Chars.isAsciiBlank) (l := after.chars),
        List.mem_append] at hc
      rcases hc with hc | hc
      · exact Chars.isRefPart_of_mem_takeWhile hc
      · exact htail c (by rw [hr]; exact hc)

/-- The inside of a metadata reference holds names, blanks and a point. -/
theorem isRefPart_of_inner? {r : Rest} {parts : Option Span × Span} (h : inner? r = some parts) :
    ∀ c ∈ r.chars, Chars.isRefPart c = true := by
  obtain ⟨⟨first, after⟩, hfirst, h⟩ := Option.bind_eq_some_iff.1 h
  refine isRefPart_of_tail hfirst rfl ?_
  dsimp only at h
  cases hcs : after.skipBlanks.chars with
  | nil => simp
  | cons c cs =>
    rw [hcs] at h
    dsimp only at h
    split at h
    · rename_i hc
      obtain ⟨⟨second, more⟩, hsecond, h⟩ := Option.bind_eq_some_iff.1 h
      dsimp only at h
      split at h
      · rename_i hempty
        have hnext : ∀ d ∈ after.skipBlanks.next.chars, Chars.isRefPart d = true :=
          isRefPart_of_tail hsecond rfl (by simp_all [Rest.isEmpty])
        intro d hd
        rcases List.mem_cons.1 hd with rfl | hd
        · rw [beq_iff_eq.1 hc]
          rfl
        · exact hnext d (by simpa [Rest.next, Rest.drop, hcs] using hd)
      · cases h
    · cases h

/-- A metadata reference that is not ended by a text is not ended behind a `;` either. -/
theorem read?_append_eq_none {pos : Nat} {cs : List Char} (h : read? ⟨pos, cs⟩ = none)
    (rest : List Char) : read? ⟨pos, cs ++ ';' :: rest⟩ = none := by
  cases hread : read? ⟨pos, cs ++ ';' :: rest⟩ with
  | none => rfl
  | some p =>
    obtain ⟨inside, parts, hclose, hcs, hparts, -, -⟩ := read?_eq_some hread
    have hsemicolon : ';' ∉ '%' :: '(' :: inside := by
      intro hmem
      rcases List.mem_cons.1 hmem with hc | hmem
      · exact absurd hc (by decide)
      rcases List.mem_cons.1 hmem with hc | hmem
      · exact absurd hc (by decide)
      · exact absurd (isRefPart_of_inner? hparts ';' hmem) (by decide)
    -- the reference ends in `cs`, since its inside has no `;`
    obtain ⟨more, rfl⟩ : ∃ more, cs = '%' :: '(' :: inside ++ ')' :: more := by
      rcases List.append_eq_append_iff.1 hcs with ⟨more, hinside, hmore⟩ | ⟨more, rfl, hmore⟩
      · cases more with
        | nil => exact absurd (List.cons.inj hmore).1 (by decide)
        | cons c more =>
          obtain ⟨rfl, -⟩ := List.cons.inj hmore
          exact absurd (by rw [hinside]; simp) hsemicolon
      · cases more with
        | nil => exact absurd (List.cons.inj hmore).1 (by decide)
        | cons c more =>
          obtain ⟨rfl, -⟩ := List.cons.inj hmore
          exact ⟨more, rfl⟩
    rw [read?_of_close pos inside more hclose, hparts] at h
    cases h

/-- The names of a metadata reference lie in its inside. -/
theorem within_of_inner? {r : Rest} {itemType : Option Span} {name : Span}
    (h : inner? r = some (itemType, name)) :
    name.toRest.Within r ∧ ∀ type ∈ itemType, type.toRest.Within r := by
  obtain ⟨⟨first, after⟩, hfirst, h⟩ := Option.bind_eq_some_iff.1 h
  have hblanks := Rest.tail_skipBlanks r
  have hfirst' : first.toRest.Within r := (Rest.within_of_name? hfirst).trans hblanks.within
  dsimp only at h
  split at h
  · obtain ⟨rfl, rfl⟩ := Prod.mk.inj (Option.some.inj h)
    exact ⟨hfirst', by simp⟩
  · split at h
    · obtain ⟨⟨second, more⟩, hsecond, h⟩ := Option.bind_eq_some_iff.1 h
      dsimp only at h
      split at h
      · obtain ⟨rfl, rfl⟩ := Prod.mk.inj (Option.some.inj h)
        refine ⟨?_, by simpa using hfirst'⟩
        have hnext : after.skipBlanks.next.skipBlanks.Tail r :=
          (Rest.tail_skipBlanks _).trans <| (Rest.tail_next _).trans <|
            (Rest.tail_skipBlanks _).trans <| (Rest.tail_of_name? hfirst).trans hblanks
        exact (Rest.within_of_name? hsecond).trans hnext.within
      · cases h
    · cases h

end MetadataRef

end BuildExpr
