import BuildExpr.Proofs.Expression.ListGrammar

/-!
# The grammar of metadata references

A metadata reference is written as a name between `%(` and `)`, or as two names with a point between
them, with blanks around each (`MetadataRef.Written`). A name is a letter or an underscore and the
letters, digits, underscores and dashes behind it, where a `>` may not follow a dash
(`Chars.IsName`). The reader accepts the texts that are written so, and its answer has their names
with the positions they stand at (`MetadataRef.inner?_eq_some_iff`).
-/

namespace BuildExpr

namespace Chars

/-- The letters, digits, underscores and dashes that go on with a name, with `after` behind them:
no `>` follows a dash. -/
def IsNameTail (after cs : List Char) : Prop :=
  ∀ front c back, cs = front ++ c :: back →
    isWord c = true ∨ (c = '-' ∧ (back ++ after).head? ≠ some '>')

/-- A name with `after` behind it: a letter or an underscore and what goes on with it. -/
def IsName (after : List Char) : List Char → Prop
  | [] => False
  | c :: cs => (c.isAlpha = true ∨ c = '_') ∧ IsNameTail after cs

theorem isNameTail_cons {after cs : List Char} {c : Char} :
    IsNameTail after (c :: cs) ↔
      (isWord c = true ∨ (c = '-' ∧ (cs ++ after).head? ≠ some '>')) ∧ IsNameTail after cs := by
  constructor
  · intro h
    exact ⟨h [] c cs rfl, fun front d back hcs => h (c :: front) d back (by rw [hcs]; rfl)⟩
  · rintro ⟨hc, hcs⟩ front d back heq
    cases front with
    | nil =>
      obtain ⟨rfl, rfl⟩ := List.cons.inj heq
      exact hc
    | cons e front =>
      obtain ⟨-, rfl⟩ := List.cons.inj heq
      exact hcs front d back rfl

/-- Of the text behind a name only matters whether a `>` begins it. -/
theorem isName_iff_of_head {after : List Char} (h : after.head? ≠ some '>') {name : List Char} :
    IsName after name ↔ IsName [] name := by
  have htail (cs : List Char) : IsNameTail after cs ↔ IsNameTail [] cs := by
    induction cs with
    | nil => simp [IsNameTail]
    | cons c cs ih =>
      rw [isNameTail_cons, isNameTail_cons, ih]
      cases cs <;> simp [h]
  cases name with
  | nil => rfl
  | cons c cs => rw [IsName, IsName, htail]

theorem nameTail_eq_nil_iff {cs : List Char} : (nameTail true cs).2 = [] ↔ IsNameTail [] cs := by
  induction cs with
  | nil => simp [nameTail, IsNameTail]
  | cons c cs ih =>
    have hgoes : (isWord c || (true && c == '-' && cs.head? != some '>')) = true ↔
        isWord c = true ∨ (c = '-' ∧ (cs ++ []).head? ≠ some '>') := by
      simp
    rw [isNameTail_cons, ← ih, nameTail, ← hgoes]
    split
    · rename_i hc
      exact ⟨fun h => ⟨hc, h⟩, And.right⟩
    · rename_i hc
      exact ⟨fun h => (List.cons_ne_nil _ _ h).elim, fun h => absurd h.1 hc⟩

/-- The names that are read up to their end. -/
theorem name?_self_iff {name : List Char} : name? true name = some (name, []) ↔ IsName [] name := by
  cases name with
  | nil => simp [name?, IsName]
  | cons c cs =>
    have hself : nameTail true cs = (cs, []) ↔ (nameTail true cs).2 = [] := by
      refine ⟨fun h => by rw [h], fun h => Prod.ext ?_ h⟩
      have happend := Rest.nameTail_append true cs
      rwa [h, List.append_nil] at happend
    have hfirst : (c.isAlpha || c == '_') = true ↔ c.isAlpha = true ∨ c = '_' := by simp
    rw [IsName, name?, ← nameTail_eq_nil_iff, ← hself, ← hfirst]
    split
    · rename_i hc
      simp [hc, Prod.ext_iff]
    · rename_i hc
      exact ⟨fun h => (by cases h), fun h => absurd h.1 hc⟩

/-- In front of blanks and another character than `>` a name is one that is read up to its end. -/
theorem Gap.isName_iff {gap name : List Char} {c : Char} (hgap : Gap gap) (hc : c ≠ '>') :
    IsName (gap ++ [c]) name ↔ name? true name = some (name, []) := by
  have hhead : (gap ++ [c]).head? ≠ some '>' := by
    cases gap with
    | nil => simpa using hc
    | cons d gap =>
      rintro ⟨⟩
      exact absurd (hgap '>' (by simp)) (by decide)
  rw [isName_iff_of_head hhead, name?_self_iff]

theorem Gap.stops {gap : List Char} (hgap : Gap gap) : StopsName gap := by
  have hnil : StopsName [] := fun _ _ h => by cases h
  simpa using hgap.stopsName hnil

end Chars

namespace Rest

theorem skipBlanks_of_gap {gap : List Char} (hgap : Chars.Gap gap) (pos : Nat) :
    (⟨pos, gap⟩ : Rest).skipBlanks.chars = [] :=
  List.dropWhile_eq_nil_iff.2 hgap

theorem skipBlanks_point {gap : List Char} (hgap : Chars.Gap gap) (pos : Nat) (cs : List Char) :
    (⟨pos, gap ++ '.' :: cs⟩ : Rest).skipBlanks = ⟨pos + Chars.byteLength gap, '.' :: cs⟩ := by
  refine skipBlanks_gap hgap ?_ pos
  rintro c ⟨rfl⟩
  rfl

/-- Reads a name with blanks in front. -/
theorem blankName_of_written {lead name rest : List Char} (hlead : Chars.Gap lead)
    (hname : Chars.name? true name = some (name, [])) (hrest : Chars.StopsName rest) (pos : Nat) :
    (⟨pos, lead ++ (name ++ rest)⟩ : Rest).skipBlanks.name? true =
      some (⟨pos + Chars.byteLength lead, String.ofList name⟩,
        ⟨pos + Chars.byteLength (lead ++ name), rest⟩) := by
  rw [skipBlanks_gap hlead (fun _ => Chars.not_blank_of_name? hname), name?,
    Chars.name?_append_stop hrest hname, Chars.byteLength_append, ← Nat.add_assoc]
  rfl

/-- What is read as a name with blanks in front is written as one. -/
theorem written_of_blankName {r after : Rest} {name : Span}
    (h : r.skipBlanks.name? true = some (name, after)) :
    ∃ lead cs, Chars.Gap lead ∧ Chars.name? true cs = some (cs, []) ∧
      r.chars = lead ++ (cs ++ after.chars) ∧
      name = ⟨r.pos + Chars.byteLength lead, String.ofList cs⟩ ∧
      after.pos = r.pos + Chars.byteLength (lead ++ cs) := by
  obtain ⟨lead, hlead, hr, hpos⟩ := exists_gap r
  obtain ⟨cs, -, hcs, rfl, hafter⟩ := name?_eq_some h
  obtain ⟨word, hword, -, htext⟩ := written_of_name? h
  obtain rfl : cs = word := String.ofList_injective htext
  refine ⟨lead, cs, hlead, hword, by rw [hr, hcs], by rw [hpos], ?_⟩
  rw [hafter, hpos, Chars.byteLength_append, Nat.add_assoc]

end Rest

namespace MetadataRef

/-- What stands between the parentheses of a metadata reference, at a position, and the names that
it holds: one, or the item type and the name behind a point, with blanks around them. -/
inductive Inside (pos : Nat) : Option Span × Span → List Char → Prop
  | bare {lead name trail : List Char} (blank : Chars.Gap lead)
    (named : Chars.IsName (trail ++ [')']) name) (blank' : Chars.Gap trail) :
    Inside pos (none, ⟨pos + Chars.byteLength lead, String.ofList name⟩) (lead ++ (name ++ trail))
  | qualified {lead type before after name trail : List Char} (blank : Chars.Gap lead)
    (typed : Chars.IsName (before ++ ['.']) type) (beforePoint : Chars.Gap before)
    (afterPoint : Chars.Gap after) (named : Chars.IsName (trail ++ [')']) name)
    (blank' : Chars.Gap trail) :
    Inside pos
      (some ⟨pos + Chars.byteLength lead, String.ofList type⟩,
        ⟨pos + Chars.byteLength (lead ++ (type ++ (before ++ '.' :: after))), String.ofList name⟩)
      (lead ++ (type ++ (before ++ '.' :: (after ++ (name ++ trail)))))

theorem byteLength_to_name (lead type before after : List Char) :
    Chars.byteLength (lead ++ (type ++ (before ++ '.' :: after))) =
      Chars.byteLength (lead ++ type) + Chars.byteLength before + 1 + Chars.byteLength after := by
  have hpoint : ('.' : Char).utf8Size = 1 := rfl
  simp only [Chars.byteLength_append, Chars.byteLength_cons, hpoint]
  omega

theorem inner?_of_inside {pos : Nat} {parts : Option Span × Span} {inside : List Char}
    (h : Inside pos parts inside) : inner? ⟨pos, inside⟩ = some parts := by
  cases h with
  | @bare lead name trail blank named blank' =>
    rw [blank'.isName_iff (by decide)] at named
    simp only [inner?, Rest.blankName_of_written blank named blank'.stops, Option.bind_eq_bind,
      Option.bind_some, Rest.skipBlanks_of_gap blank']
  | @qualified lead type before after name trail blank typed beforePoint afterPoint named blank' =>
    rw [blank'.isName_iff (by decide)] at named
    rw [beforePoint.isName_iff (by decide)] at typed
    have hstop := beforePoint.stopsName (Chars.stopsName_point (after ++ (name ++ trail)))
    have hnext (pos : Nat) (cs : List Char) : (⟨pos, '.' :: cs⟩ : Rest).next = ⟨pos + 1, cs⟩ := rfl
    have hend (pos : Nat) : (⟨pos, trail⟩ : Rest).skipBlanks.isEmpty = true :=
      List.isEmpty_iff.2 (Rest.skipBlanks_of_gap blank' pos)
    have hpos : pos + Chars.byteLength (lead ++ type) + Chars.byteLength before + 1 +
        Chars.byteLength after =
          pos + Chars.byteLength (lead ++ (type ++ (before ++ '.' :: after))) := by
      rw [byteLength_to_name]
      omega
    simp only [inner?, Rest.blankName_of_written blank typed hstop, Option.bind_eq_bind,
      Option.bind_some, Rest.skipBlanks_point beforePoint, hnext,
      Rest.blankName_of_written afterPoint named blank'.stops, hend, BEq.rfl, if_true, hpos]

theorem inside_of_inner? {r : Rest} {parts : Option Span × Span} (h : inner? r = some parts) :
    Inside r.pos parts r.chars := by
  obtain ⟨⟨first, afterFirst⟩, hfirst, h⟩ := Option.bind_eq_some_iff.1 h
  obtain ⟨lead, name, hlead, hname, hr, rfl, hpos⟩ := Rest.written_of_blankName hfirst
  obtain ⟨before, hbefore, hafter, hpos'⟩ := Rest.exists_gap afterFirst
  dsimp only at h
  split at h
  · rename_i hcs
    obtain rfl := Option.some.inj h
    rw [hcs, List.append_nil] at hafter
    rw [hr, hafter]
    exact .bare hlead ((hbefore.isName_iff (by decide)).2 hname) hbefore
  · rename_i c cs hcs
    split at h
    · rename_i hc
      obtain rfl := beq_iff_eq.1 hc
      obtain ⟨⟨second, afterSecond⟩, hsecond, h⟩ := Option.bind_eq_some_iff.1 h
      obtain ⟨after, name', hafter', hname', hnext, rfl, -⟩ := Rest.written_of_blankName hsecond
      dsimp only at h
      split at h
      · rename_i hempty
        obtain rfl := Option.some.inj h
        -- behind the last name are blanks only
        obtain ⟨trail, htrail, hlast, -⟩ := Rest.exists_gap afterSecond
        rw [List.isEmpty_iff.1 hempty, List.append_nil] at hlast
        have hrest : cs = after ++ (name' ++ trail) := by
          rw [← hlast, ← hnext, Rest.next, Rest.drop, hcs]
          rfl
        have hpos'' : afterFirst.skipBlanks.next.pos + Chars.byteLength after =
            r.pos + Chars.byteLength (lead ++ (name ++ (before ++ '.' :: after))) := by
          have hpoint : ('.' : Char).utf8Size = 1 := rfl
          rw [byteLength_to_name, Rest.next, Rest.drop, hcs]
          simp only [hpos', hpos, List.take_succ_cons, List.take_zero, Chars.byteLength_cons,
            Chars.byteLength_nil, hpoint]
          omega
        rw [hr, hafter, hcs, hrest, hpos'']
        exact .qualified hlead ((hbefore.isName_iff (by decide)).2 hname) hbefore hafter'
          ((htrail.isName_iff (by decide)).2 hname') htrail
      · cases h
    · cases h

theorem inner?_eq_some_iff {pos : Nat} {inside : List Char} {parts : Option Span × Span} :
    inner? ⟨pos, inside⟩ = some parts ↔ Inside pos parts inside :=
  ⟨inside_of_inner?, inner?_of_inside⟩

/-- A metadata reference as it is written at a position. -/
def Written (pos : Nat) (m : MetadataRef) (text : List Char) : Prop :=
  ∃ inside parts, Inside (pos + 2) parts inside ∧ text = '%' :: '(' :: inside ++ [')'] ∧
    m = ofInner pos inside parts

/-- The chunk of a metadata reference is that of what is written. -/
theorem reads_iff_written {options : Options} {pos : Nat} {m : MetadataRef} {text : List Char} :
    Chunk.Reads options pos text (.metadata m) ↔ options.metadata = true ∧ m.Written pos text := by
  constructor
  · rintro (_ | _ | ⟨requested, -, read⟩)
    exact ⟨requested, _, _, inside_of_inner? read, rfl, rfl⟩
  · rintro ⟨requested, inside, parts, hinside, rfl, rfl⟩
    have read := inner?_of_inside hinside
    refine .metadata requested (fun hclose => ?_) read
    exact absurd (isRefPart_of_inner? read ')' hclose) (by decide)

end MetadataRef

end BuildExpr
