import BuildExpr.Proofs.Expression.Calls

/-!
# The grammar of item lists

What stands between the parentheses of an item list is written as a type and parts behind it
(`ListContent`): transforms and a separator, with blanks between them. The reader takes the parts
one by one (`Rest.stageReads_of_written`) and only counts the separators, so it accepts the texts
whose parts stand in any order with one separator at most (`exists_parse_iff`), and makes a list of
their transforms, in order, and their separator (`isList_of_parse`). The documented texts have
nothing behind the separator (`SeparatorLast`); all that keeps the reader from accepting exactly
these is a transform behind a separator (`list_grammar_iff`).
-/

namespace BuildExpr

namespace Chars

/-- A text of blanks as they may stand between the parts of a reference. -/
def Gap (cs : List Char) : Prop := ∀ c ∈ cs, isAsciiBlank c = true

/-- A gap does not go on with a name. -/
theorem Gap.stopsName {gap cs : List Char} (hgap : Gap gap) (hcs : StopsName cs) :
    StopsName (gap ++ cs) := by
  cases gap with
  | nil => exact hcs
  | cons d gap =>
    intro c rest heq
    obtain ⟨rfl, -⟩ := List.cons.inj heq
    have hd := hgap d (by simp)
    simp only [isAsciiBlank, Bool.or_eq_true, beq_iff_eq] at hd
    rcases hd with (((rfl | rfl) | rfl) | rfl) | rfl <;>
      exact ⟨rfl, by decide, fun h => absurd h (by decide)⟩

/-- A name ends where it ends when nothing follows it. -/
theorem nameTail_self {dash : Bool} {cs : List Char} :
    nameTail dash (nameTail dash cs).1 = ((nameTail dash cs).1, []) := by
  induction cs with
  | nil => rfl
  | cons c cs ih =>
    rw [nameTail]
    split
    · rename_i hc
      have hc' : (isWord c || (dash && c == '-' && (nameTail dash cs).1.head? != some '>')) =
          true := by
        cases hword : isWord c with
        | true => rfl
        | false =>
          simp only [hword, Bool.false_or, Bool.and_eq_true] at hc ⊢
          refine ⟨hc.1, ?_⟩
          cases cs with
          | nil => rfl
          | cons d cs =>
            rw [nameTail]
            split
            · exact hc.2
            · rfl
      rw [nameTail, if_pos hc', ih]
    · rfl

theorem name?_self {dash : Bool} {cs name after : List Char}
    (h : name? dash cs = some (name, after)) : name? dash name = some (name, []) := by
  cases cs with
  | nil => cases h
  | cons c cs =>
    rw [name?] at h
    split at h
    · rename_i hc
      obtain ⟨rfl, rfl⟩ := Prod.mk.inj (Option.some.inj h)
      rw [name?, if_pos hc, nameTail_self]
    · cases h

/-- The first character of a name is not blank. -/
theorem not_blank_of_name? {dash : Bool} {name rest : List Char}
    (h : name? dash name = some (name, [])) {c : Char} (hc : (name ++ rest).head? = some c) :
    isAsciiBlank c = false := by
  obtain ⟨d, more, rfl, hd⟩ := exists_cons_of_name? h
  obtain rfl : d = c := Option.some.inj hc
  rw [Bool.eq_false_iff]
  intro hblank
  simp only [isAsciiBlank, Bool.or_eq_true, beq_iff_eq] at hblank
  rcases hblank with (((rfl | rfl) | rfl) | rfl) | rfl <;> cases hd

end Chars

/-! ## The parts of a list -/

/-- What a part of an item list behind its type says. -/
inductive ListPart
  | pattern (value : List Char)
  | function (name arguments : List Char)
  | separator (value : List Char)
  deriving DecidableEq

namespace ListPart

/-- Whether a part is a separator. -/
def isSeparator : ListPart → Bool
  | separator _ => true
  | _ => false

/-- The text inside the quotes or the parentheses of a part. -/
def inside : ListPart → List Char
  | pattern value | separator value => value
  | function _ arguments => arguments

/-- The texts of a part: a transform stands behind an arrow, and a separator behind a comma. Blanks
may stand behind the arrow and the comma and in front of the parenthesis of a function. -/
inductive Written : ListPart → List Char → Prop
  | pattern {gap value : List Char} {q : Char} (blank : Chars.Gap gap) (quote : isQuote q = true)
    (inside : q ∉ value) :
    Written (.pattern value) ('-' :: '>' :: (gap ++ (q :: value ++ [q])))
  | function {gap name gap' arguments : List Char} (blank : Chars.Gap gap)
    (named : Chars.name? false name = some (name, [])) (blank' : Chars.Gap gap')
    (closes : Chars.Closes '(' ')' { depth := 1 } arguments) :
    Written (.function name arguments)
      ('-' :: '>' :: (gap ++ (name ++ (gap' ++ ('(' :: arguments ++ [')'])))))
  | separator {gap value : List Char} {q : Char} (blank : Chars.Gap gap) (quote : isQuote q = true)
    (inside : q ∉ value) :
    Written (.separator value) (',' :: (gap ++ (q :: value ++ [q])))

/-- The texts of parts one behind the other, with blanks in front of each and behind the last. -/
inductive WrittenAll : List ListPart → List Char → Prop
  | nil {gap : List Char} (blank : Chars.Gap gap) : WrittenAll [] gap
  | cons {gap first rest : List Char} {part : ListPart} {parts : List ListPart}
    (blank : Chars.Gap gap) (written : Written part first) (more : WrittenAll parts rest) :
    WrittenAll (part :: parts) (gap ++ (first ++ rest))

end ListPart

/-- What a raw part says. -/
def RawStage.part? : RawStage → Option ListPart
  | .pattern _ value => some (.pattern value.chars)
  | .function _ name arguments => some (.function name.text.toList arguments.chars)
  | .separator value => some (.separator value.chars)
  | .fault _ => none

/-- The texts between the parentheses of an item list: a type and parts, one of them a separator
at most, with blanks around them. -/
structure ListContent (itemType : List Char) (parts : List ListPart) (content : List Char) :
    Prop where
  text : ∃ gap rest, content = gap ++ (itemType ++ rest) ∧ Chars.Gap gap ∧
    ListPart.WrittenAll parts rest
  named : Chars.name? true itemType = some (itemType, [])
  single : parts.countP ListPart.isSeparator ≤ 1

/-- Whether nothing stands behind a separator. -/
def SeparatorLast (parts : List ListPart) : Prop :=
  parts.Pairwise fun part _ => part.isSeparator = false

namespace Rest

variable {separated : Bool}

/-! ## Reading what is written -/

/-- Blanks in front of a text that does not begin with one. -/
theorem skipBlanks_gap {gap : List Char} (hgap : Chars.Gap gap) {cs : List Char}
    (hcs : ∀ c, cs.head? = some c → Chars.isAsciiBlank c = false) (pos : Nat) :
    (⟨pos, gap ++ cs⟩ : Rest).skipBlanks = ⟨pos + Chars.byteLength gap, cs⟩ := by
  have hstop : cs.takeWhile Chars.isAsciiBlank = [] ∧ cs.dropWhile Chars.isAsciiBlank = cs := by
    cases cs with
    | nil => exact ⟨rfl, rfl⟩
    | cons c cs => simp [hcs c rfl]
  simp only [skipBlanks, List.takeWhile_append_of_pos hgap, List.dropWhile_append_of_pos hgap,
    hstop, List.append_nil]

theorem isAsciiBlank_of_isQuote {q : Char} (h : isQuote q = true) :
    Chars.isAsciiBlank q = false := by
  simp only [isQuote, Bool.or_eq_true, beq_iff_eq] at h
  obtain (rfl | rfl) | rfl := h <;> decide

/-- A quoted run behind a gap. -/
theorem quoted_gap {gap value : List Char} {q : Char} (hgap : Chars.Gap gap)
    (hq : isQuote q = true) (hvalue : q ∉ value) (pos : Nat) (rest : List Char) :
    ∃ start last, (⟨pos, gap ++ (q :: value ++ [q]) ++ rest⟩ : Rest).skipBlanks.peek?.any isQuote =
        true ∧
      (⟨pos, gap ++ (q :: value ++ [q]) ++ rest⟩ : Rest).skipBlanks.quoted? =
        some (⟨start, value⟩, ⟨last, rest⟩) := by
  have htext : gap ++ (q :: value ++ [q]) ++ rest = gap ++ (q :: (value ++ q :: rest)) := by simp
  have hhead : ∀ c, (q :: (value ++ q :: rest)).head? = some c → Chars.isAsciiBlank c = false := by
    rintro c ⟨rfl⟩
    exact isAsciiBlank_of_isQuote hq
  rw [htext, skipBlanks_gap hgap hhead, quoted?_of_not_mem hvalue]
  exact ⟨_, _, hq, rfl⟩

/-- A name behind a gap. -/
theorem name_gap {dash : Bool} {gap name rest : List Char} (hgap : Chars.Gap gap)
    (hname : Chars.name? dash name = some (name, [])) (hrest : Chars.StopsName rest) (pos : Nat) :
    ∃ start last, (⟨pos, gap ++ (name ++ rest)⟩ : Rest).skipBlanks.peek?.any isQuote = false ∧
      (⟨pos, gap ++ (name ++ rest)⟩ : Rest).skipBlanks.name? dash =
        some (⟨start, String.ofList name⟩, ⟨last, rest⟩) := by
  obtain ⟨d, more, rfl, hd⟩ := Chars.exists_cons_of_name? hname
  have hquote : isQuote d = false := by
    rw [Bool.eq_false_iff]
    intro hquote
    simp only [isQuote, Bool.or_eq_true, beq_iff_eq] at hquote
    obtain (rfl | rfl) | rfl := hquote <;> cases hd
  rw [skipBlanks_gap hgap (fun _ => Chars.not_blank_of_name? hname), Rest.name?,
    Chars.name?_append_stop hrest hname]
  exact ⟨_, _, hquote, rfl⟩

/-- A group behind a gap. -/
theorem group_gap {gap arguments : List Char} (hgap : Chars.Gap gap)
    (hcloses : Chars.Closes '(' ')' { depth := 1 } arguments) (pos : Nat) (rest : List Char) :
    ∃ start last, (⟨pos, gap ++ '(' :: (arguments ++ ')' :: rest)⟩ : Rest).skipBlanks.peek? =
        some '(' ∧
      (⟨pos, gap ++ '(' :: (arguments ++ ')' :: rest)⟩ : Rest).skipBlanks.group? '(' ')' =
        some (⟨start, arguments⟩, ⟨last, rest⟩) := by
  have hhead : ∀ c, ('(' :: (arguments ++ ')' :: rest)).head? = some c →
      Chars.isAsciiBlank c = false := by
    rintro c ⟨rfl⟩
    rfl
  rw [skipBlanks_gap hgap hhead, group?_of_closes hcloses]
  exact ⟨_, _, rfl, rfl⟩

/-- A part that is written at the front of a text is read. -/
theorem stageReads_of_written {part : ListPart} {cs : List Char} (h : part.Written cs)
    (hseparated : separated = true → part.isSeparator = false) (pos : Nat) (rest : List Char) :
    ∃ stage last, StageReads separated ⟨pos, cs ++ rest⟩ stage ⟨last, rest⟩ ∧
      stage.part? = some part := by
  have harrow (cs : List Char) : (⟨pos, '-' :: '>' :: cs⟩ : Rest).drop 2 = ⟨pos + 2, cs⟩ := rfl
  cases h with
  | @pattern gap value q blank quote inside =>
    obtain ⟨start, last, hquote, hquoted⟩ := quoted_gap blank quote inside (pos + 2) rest
    refine ⟨.pattern _ ⟨start, value⟩, last, .pattern rfl ?_ ?_, rfl⟩
    · rw [List.cons_append, List.cons_append, harrow, hquote]
    · rw [List.cons_append, List.cons_append, harrow, hquoted]
  | @function gap name gap' arguments blank named blank' closes =>
    have htext : '-' :: '>' :: (gap ++ (name ++ (gap' ++ ('(' :: arguments ++ [')'])))) ++ rest =
        '-' :: '>' :: (gap ++ (name ++ (gap' ++ '(' :: (arguments ++ ')' :: rest)))) := by
      simp
    obtain ⟨start, opening, hquote, hname⟩ :=
      name_gap blank named (blank'.stopsName (Chars.stopsName_parenthesis _)) (pos + 2)
    obtain ⟨first, last, hopen, hgroup⟩ := group_gap blank' closes opening rest
    rw [htext]
    refine ⟨.function _ ⟨start, String.ofList name⟩ ⟨first, arguments⟩, last,
      .function rfl ?_ ?_ hopen hgroup, ?_⟩
    · rw [harrow, hquote]
    · rw [harrow, hname]
    · rw [RawStage.part?, String.toList_ofList]
  | @separator gap value q blank quote inside =>
    obtain ⟨start, last, hquote, hquoted⟩ := quoted_gap blank quote inside (pos + 1) rest
    have hcomma (cs : List Char) : (⟨pos, ',' :: cs⟩ : Rest).next = ⟨pos + 1, cs⟩ := rfl
    refine ⟨.separator ⟨start, value⟩, last, .separator rfl ?_ ?_ ?_, rfl⟩
    · cases separated with
      | false => rfl
      | true => cases hseparated rfl
    · rw [List.cons_append, hcomma, hquote]
    · rw [List.cons_append, hcomma, hquoted]

theorem isSeparator_of_part? {stage : RawStage} {part : ListPart} (h : stage.part? = some part) :
    Rest.isSeparator stage = part.isSeparator := by
  cases stage with
  | fault fault => cases h
  | pattern span value =>
    cases h
    rfl
  | function span name arguments =>
    cases h
    rfl
  | separator value =>
    cases h
    rfl

/-- Parts that are written one behind the other are read one by one. -/
theorem readsStages_of_written {parts : List ListPart} {cs : List Char}
    (h : ListPart.WrittenAll parts cs)
    (hsingle : parts.countP ListPart.isSeparator + separated.toNat ≤ 1) (pos : Nat) :
    ∃ stages, ReadsStages separated ⟨pos, cs⟩ stages ∧
      stages.map RawStage.part? = parts.map some := by
  induction h generalizing separated pos with
  | nil blank => exact ⟨[], .nil (List.dropWhile_eq_nil_iff.2 blank), rfl⟩
  | @cons gap first rest part parts blank written more ih =>
    rw [List.countP_cons] at hsingle
    have hpart : separated = true → part.isSeparator = false := by
      rintro rfl
      rw [Bool.eq_false_iff]
      intro hseparator
      simp [hseparator] at hsingle
    have hhead : ∀ c, (first ++ rest).head? = some c → Chars.isAsciiBlank c = false := by
      cases written with
      | pattern blank quote inside => rintro c ⟨rfl⟩; rfl
      | function blank named blank' closes => rintro c ⟨rfl⟩; rfl
      | separator blank quote inside => rintro c ⟨rfl⟩; rfl
    obtain ⟨stage, last, hstage, hsays⟩ :=
      stageReads_of_written written hpart (pos + Chars.byteLength gap) rest
    have hseparated : parts.countP ListPart.isSeparator +
        (separated || Rest.isSeparator stage).toNat ≤ 1 := by
      rw [isSeparator_of_part? hsays]
      cases separated <;> cases hseparator : part.isSeparator <;> simp_all
    obtain ⟨stages, hstages, hmore⟩ := ih hseparated last
    refine ⟨stage :: stages, .cons ?_ hstages, by rw [List.map_cons, hsays, hmore, List.map_cons]⟩
    rw [skipBlanks_gap blank hhead]
    exact hstage

/-! ## Writing what is read -/

theorem exists_gap (r : Rest) :
    ∃ gap, Chars.Gap gap ∧ r.chars = gap ++ r.skipBlanks.chars ∧
      r.skipBlanks.pos = r.pos + Chars.byteLength gap :=
  ⟨_, fun _ => List.mem_takeWhile_imp, List.takeWhile_append_dropWhile.symm, rfl⟩

/-- A name that is read is a name by itself. -/
theorem written_of_name? {r after : Rest} {name : Span} {dash : Bool}
    (h : r.name? dash = some (name, after)) :
    ∃ cs, Chars.name? dash cs = some (cs, []) ∧ r.chars = cs ++ after.chars ∧
      name.text = String.ofList cs := by
  obtain ⟨cs, -, hchars, rfl, -⟩ := name?_eq_some h
  obtain ⟨⟨word, rest⟩, hword, heq⟩ := Option.map_eq_some_iff.1 h
  obtain rfl : word = cs := by
    have htext := congrArg Span.text (Prod.mk.inj heq).1
    exact String.ofList_injective htext
  exact ⟨word, Chars.name?_self hword, hchars, rfl⟩

/-- A part that is read is written at the front of the text. -/
theorem written_of_stageReads {r after : Rest} {stage : RawStage}
    (h : StageReads separated r stage after) :
    ∃ part cs, stage.part? = some part ∧ part.Written cs ∧ r.chars = cs ++ after.chars ∧
      (separated = true → part.isSeparator = false) := by
  have hdrop {cs : List Char} (arrow : r.chars = '-' :: '>' :: cs) : (r.drop 2).chars = cs := by
    rw [drop, arrow, List.drop_succ_cons, List.drop_succ_cons, List.drop_zero]
  cases h with
  | @pattern cs value after arrow quote quoted =>
    obtain ⟨gap, hgap, hcs, -⟩ := exists_gap (r.drop 2)
    obtain ⟨q, hbody, hvalue, -⟩ := quoted?_eq_some quoted
    have hq : isQuote q = true := by rwa [peek?, hbody] at quote
    rw [hbody, hdrop arrow] at hcs
    exact ⟨_, _, rfl, .pattern hgap hq hvalue, by simp [arrow, hcs], fun _ => rfl⟩
  | @function cs name opening arguments after arrow quote named opened group =>
    obtain ⟨gap, hgap, hcs, -⟩ := exists_gap (r.drop 2)
    obtain ⟨gap', hgap', hopening, -⟩ := exists_gap opening
    obtain ⟨word, hword, hbody, hname⟩ := written_of_name? named
    obtain ⟨c, hgroup, hcloses, -⟩ := group?_eq_some group
    rw [peek?, hgroup] at opened
    obtain rfl : c = '(' := Option.some.inj opened
    rw [hdrop arrow, hbody, hopening, hgroup] at hcs
    have hpart : RawStage.part? (.function (r.upTo after) name arguments) =
        some (.function word arguments.chars) := by
      rw [RawStage.part?, hname, String.toList_ofList]
    exact ⟨_, _, hpart, .function hgap hword hgap' hcloses, by simp [arrow, hcs], fun _ => rfl⟩
  | @separator cs value after comma single quote quoted =>
    obtain ⟨gap, hgap, hcs, -⟩ := exists_gap r.next
    obtain ⟨q, hbody, hvalue, -⟩ := quoted?_eq_some quoted
    have hq : isQuote q = true := by rwa [peek?, hbody] at quote
    have hnext : r.next.chars = cs := by rw [next, drop, comma, List.drop_succ_cons, List.drop_zero]
    rw [hbody, hnext] at hcs
    refine ⟨_, _, rfl, .separator hgap hq hvalue, by simp [comma, hcs], fun h => ?_⟩
    rw [single] at h
    cases h

/-- A chain that is read is written as parts one behind the other. -/
theorem written_of_readsStages {r : Rest} {stages : List RawStage}
    (h : ReadsStages separated r stages) :
    ∃ parts, stages.map RawStage.part? = parts.map some ∧ ListPart.WrittenAll parts r.chars ∧
      parts.countP ListPart.isSeparator + separated.toNat ≤ 1 := by
  induction h with
  | @nil separated r blank =>
    refine ⟨[], rfl, .nil (List.dropWhile_eq_nil_iff.1 blank), ?_⟩
    cases separated <;> decide
  | @cons separated r after stage stages first more ih =>
    obtain ⟨part, cs, hsays, hwritten, hchars, hpart⟩ := written_of_stageReads first
    obtain ⟨parts, hstages, hmore, hsingle⟩ := ih
    obtain ⟨gap, hgap, hr, -⟩ := exists_gap r
    refine ⟨part :: parts, by rw [List.map_cons, hsays, hstages, List.map_cons], ?_, ?_⟩
    · rw [hr, hchars]
      exact .cons hgap hwritten hmore
    · rw [isSeparator_of_part? hsays] at hsingle
      rw [List.countP_cons]
      cases separated <;> cases hseparator : part.isSeparator <;> simp_all

end Rest

/-! ## The content of a list -/

namespace ListContent

variable {itemType : List Char} {parts : List ListPart} {content : List Char}

/-- What is written as a list is read as its type and its parts. -/
theorem reads (h : ListContent itemType parts content) (pos : Nat) :
    ∃ start after, (⟨pos, content⟩ : Rest).skipBlanks.name? true =
        some (⟨start, String.ofList itemType⟩, after) ∧
      after.stages.map RawStage.part? = parts.map some := by
  obtain ⟨gap, rest, rfl, hgap, hwritten⟩ := h.text
  have hsingle : parts.countP ListPart.isSeparator + false.toNat ≤ 1 := h.single
  obtain ⟨_, hreads, -⟩ := Rest.readsStages_of_written hwritten hsingle 0
  obtain ⟨start, last, -, hname⟩ := Rest.name_gap hgap h.named hreads.stopsName pos
  obtain ⟨stages, hstages, hparts⟩ := Rest.readsStages_of_written hwritten hsingle last
  exact ⟨start, _, hname, by rw [hstages.stages_eq, hparts]⟩

/-- What is read as the type and the parts of a list is written as such. -/
theorem of_reads {pos : Nat} {name : Span} {after : Rest}
    (hname : (⟨pos, content⟩ : Rest).skipBlanks.name? true = some (name, after))
    (hstages : ∀ stage ∈ after.stages, stage.isFault = false) :
    ∃ itemType parts, ListContent itemType parts content ∧ name.text = String.ofList itemType ∧
      after.stages.map RawStage.part? = parts.map some := by
  obtain ⟨gap, hgap, hcontent, -⟩ := Rest.exists_gap ⟨pos, content⟩
  obtain ⟨itemType, hnamed, hbody, htext⟩ := Rest.written_of_name? hname
  obtain ⟨parts, hparts, hwritten, hsingle⟩ :=
    Rest.written_of_readsStages (Rest.readsStages_of_stages hstages)
  exact ⟨itemType, parts,
    ⟨⟨gap, after.chars, by rw [← hbody, ← hcontent], hgap, hwritten⟩, hnamed, hsingle⟩, htext,
    hparts⟩

end ListContent

/-- Reads the type and the parts of a list. -/
def readContent? (content : List Char) : Option (List Char × List ListPart) :=
  match (⟨0, content⟩ : Rest).skipBlanks.name? true with
  | none => none
  | some (name, after) =>
    if after.stages.any RawStage.isFault then none
    else some (name.text.toList, after.stages.filterMap RawStage.part?)

namespace RawStage

variable {stages : List RawStage} {parts : List ListPart}

theorem filterMap_part? (h : stages.map part? = parts.map some) :
    stages.filterMap part? = parts := by
  have hid : stages.filterMap part? = (stages.map part?).filterMap id := by
    rw [List.filterMap_map, Function.id_comp]
  rw [hid, h, List.filterMap_map, Function.id_comp, List.filterMap_some]

theorem any_isFault_eq_false (h : stages.map part? = parts.map some) :
    stages.any isFault = false := by
  refine List.any_eq_false.2 fun stage hstage => ?_
  have hpart : stage.part? ∈ parts.map some := h ▸ List.mem_map_of_mem hstage
  obtain ⟨part, -, hpart⟩ := List.mem_map.1 hpart
  cases stage with
  | fault fault => cases hpart
  | pattern span value => exact Bool.false_ne_true
  | function span name arguments => exact Bool.false_ne_true
  | separator value => exact Bool.false_ne_true

end RawStage

/-- Reading the type and the parts of a list decides whether and how a text is written as one. -/
theorem readContent?_eq_some {itemType : List Char} {parts : List ListPart} {content : List Char} :
    readContent? content = some (itemType, parts) ↔ ListContent itemType parts content := by
  constructor
  · intro h
    rw [readContent?] at h
    split at h
    · cases h
    · rename_i name after hname
      split at h
      · cases h
      · rename_i hfault
        obtain ⟨type, parts', hcontent, htext, hparts⟩ := ListContent.of_reads hname fun stage hs =>
          (Bool.not_eq_true _).mp (List.any_eq_false.1 (Bool.eq_false_iff.2 hfault) stage hs)
        obtain ⟨rfl, rfl⟩ := Prod.mk.inj (Option.some.inj h)
        rw [RawStage.filterMap_part? hparts, htext, String.toList_ofList]
        exact hcontent
  · intro h
    obtain ⟨start, after, hname, hparts⟩ := h.reads 0
    simp only [readContent?, hname, RawStage.any_isFault_eq_false hparts,
      RawStage.filterMap_part? hparts, Bool.false_eq_true, if_false, String.toList_ofList]

/-- A text is written as a list in one way at most. -/
theorem ListContent.unique {itemType itemType' : List Char} {parts parts' : List ListPart}
    {content : List Char} (h : ListContent itemType parts content)
    (h' : ListContent itemType' parts' content) : itemType = itemType' ∧ parts = parts' :=
  Prod.mk.inj (Option.some.inj
    ((readContent?_eq_some.2 h).symm.trans (readContent?_eq_some.2 h')))

/-! ## The texts in the parts -/

namespace Expression

variable {options : Options}

/-- Reads the text between the parentheses of a function. -/
def readArguments (options : Options) (cs : List Char) : Except Malformed (List Argument) :=
  parseArguments (parseUpTo (cs.length + 1)) options default ⟨0, cs⟩

/-- What arguments are read as depends neither on the place nor on the reference around them. -/
theorem toOption_parseArguments_at (k : Nat) {depth : Nat} {cs : List Char}
    (h : cs.length < depth) (ref : Span) :
    (parseArguments (parseUpTo depth) options ref ⟨k, cs⟩).toOption =
      ((readArguments options cs).map (Argument.shiftAll k)).toOption := by
  have hlength : (⟨0, cs⟩ : Rest).chars.length < min (cs.length + 1) depth := by
    simp only
    omega
  have hagree := (agree_parseUpTo k (cs.length + 1) depth).parseArguments options default hlength
  rw [Rest.shift, Nat.zero_add] at hagree
  rw [toOption_parseArguments ref ((default : Span).shift k), hagree, readArguments]

end Expression

namespace ListPart

open Expression

/-- What a part makes when the text in it is read: a transform, or the separator. -/
inductive Makes (options : Options) : ListPart → Transform ⊕ Expression → Prop
  | pattern {value : List Char} {e : Expression} (span : Span) (start : Nat)
    (read : parse (listOptions options) (String.ofList value) = .ok e) :
    Makes options (.pattern value) (.inl (.pattern span (e.shift start)))
  | function {name arguments : List Char} {as : List Argument} (span place : Span) (start : Nat)
    (named : place.text = String.ofList name)
    (read : readArguments (listOptions options) arguments = .ok as) :
    Makes options (.function name arguments)
      (.inl (.function span place (Argument.shiftAll start as)))
  | separator {value : List Char} {e : Expression} (start : Nat)
    (read : parse (listOptions options) (String.ofList value) = .ok e) :
    Makes options (.separator value) (.inr (e.shift start))

/-- Whether the text in a part can be read. -/
def Readable (options : Options) (part : ListPart) : Prop := ∃ made, part.Makes options made

/-- What a list holds of a part that was read behind other parts. -/
def add (made : Transform ⊕ Expression) (parts : List Transform × Option Expression) :
    List Transform × Option Expression :=
  made.elim (fun t => (parts.1 ++ [t], parts.2)) fun e => (parts.1, some e)

variable {options : Options} {ref : Span} {depth : Nat} {stage : RawStage} {part : ListPart}

/-- What a nested text is read as in its place. -/
theorem parseUpTo_eq_ok {r : Rest} (hdepth : r.chars.length < depth) {e : Expression} :
    parseUpTo depth options r = .ok e ↔
      ∃ e', parse options (String.ofList r.chars) = .ok e' ∧ e = e'.shift r.pos := by
  obtain ⟨pos, cs⟩ := r
  rw [parseUpTo_at pos options hdepth]
  rw [Except.map_eq_ok]
  simp only [eq_comm]

/-- What the text of a function is read as in its place. -/
theorem parseArguments_eq_ok {r : Rest} (hdepth : r.chars.length < depth) {as : List Argument} :
    parseArguments (parseUpTo depth) options ref r = .ok as ↔
      ∃ as', readArguments options r.chars = .ok as' ∧ as = Argument.shiftAll r.pos as' := by
  obtain ⟨pos, cs⟩ := r
  rw [← Except.toOption_eq_some, toOption_parseArguments_at pos hdepth, Except.toOption_eq_some,
    Except.map_eq_ok]
  simp only [eq_comm]

/-- A raw part is read as what it makes. -/
theorem makes_of_parseStage (hstage : stage.part? = some part) (hdepth : part.inside.length < depth)
    {before after : List Transform × Option Expression}
    (h : parseStage (parseUpTo depth) options ref before stage = .ok after) :
    ∃ made, part.Makes options made ∧ after = add made before := by
  cases stage with
  | pattern span value =>
    obtain rfl := Option.some.inj hstage
    obtain ⟨e, he, h⟩ := Except.bind_eq_ok.1 h
    obtain rfl := Except.ok.inj h
    obtain ⟨e', hread, rfl⟩ := (parseUpTo_eq_ok hdepth).1 he
    exact ⟨_, .pattern span value.pos hread, rfl⟩
  | function span name arguments =>
    obtain rfl := Option.some.inj hstage
    obtain ⟨as, has, h⟩ := Except.bind_eq_ok.1 h
    obtain rfl := Except.ok.inj h
    obtain ⟨as', hread, rfl⟩ := (parseArguments_eq_ok hdepth).1 has
    exact ⟨_, .function span name arguments.pos String.ofList_toList.symm hread, rfl⟩
  | separator value =>
    obtain rfl := Option.some.inj hstage
    obtain ⟨e, he, h⟩ := Except.bind_eq_ok.1 h
    obtain rfl := Except.ok.inj h
    obtain ⟨e', hread, rfl⟩ := (parseUpTo_eq_ok hdepth).1 he
    exact ⟨_, .separator value.pos hread, rfl⟩
  | fault fault => cases hstage

/-- A raw part whose text can be read is read. -/
theorem exists_parseStage (hstage : stage.part? = some part)
    (hdepth : part.inside.length < depth) (h : part.Readable options)
    (before : List Transform × Option Expression) :
    ∃ after, parseStage (parseUpTo depth) options ref before stage = .ok after := by
  obtain ⟨made, hmade⟩ := h
  cases stage with
  | pattern span value =>
    obtain rfl := Option.some.inj hstage
    cases hmade with
    | pattern _ _ read =>
      have hvalue := (parseUpTo_eq_ok hdepth).2 ⟨_, read, rfl⟩
      exact ⟨_, Except.bind_eq_ok.2 ⟨_, hvalue, rfl⟩⟩
  | function span name arguments =>
    obtain rfl := Option.some.inj hstage
    cases hmade with
    | function _ _ _ _ read =>
      have harguments : parseArguments (parseUpTo depth) (listOptions options) ref arguments =
          .ok _ := (parseArguments_eq_ok hdepth).2 ⟨_, read, rfl⟩
      exact ⟨_, Except.bind_eq_ok.2 ⟨_, harguments, rfl⟩⟩
  | separator value =>
    obtain rfl := Option.some.inj hstage
    cases hmade with
    | separator _ read =>
      have hvalue := (parseUpTo_eq_ok hdepth).2 ⟨_, read, rfl⟩
      exact ⟨_, Except.bind_eq_ok.2 ⟨_, hvalue, rfl⟩⟩
  | fault fault => cases hstage

variable {stages : List RawStage} {parts : List ListPart}

/-- The parts of a list are read as what they make: the transforms in order, and the separator. -/
theorem makes_of_parseStages (hstages : stages.map RawStage.part? = parts.map some)
    (hdepth : ∀ part ∈ parts, part.inside.length < depth)
    {before after : List Transform × Option Expression}
    (hsingle : parts.countP isSeparator + before.2.toList.length ≤ 1)
    (h : stages.foldlM (parseStage (parseUpTo depth) options ref) before = .ok after) :
    ∃ made, List.Forall₂ (Makes options) parts made ∧
      after.1 = before.1 ++ made.filterMap Sum.getLeft? ∧
      after.2.toList = before.2.toList ++ made.filterMap Sum.getRight? := by
  induction stages generalizing parts before with
  | nil =>
    obtain rfl := List.map_eq_nil_iff.1 hstages.symm
    obtain rfl := Except.ok.inj h
    exact ⟨[], .nil, by simp, by simp⟩
  | cons stage stages ih =>
    cases parts with
    | nil => cases hstages
    | cons part parts =>
      obtain ⟨hstage, hmore⟩ := List.cons.inj hstages
      obtain ⟨hpart, hparts⟩ := List.forall_mem_cons.1 hdepth
      rw [List.foldlM_cons] at h
      obtain ⟨next, hnext, hlast⟩ := Except.bind_eq_ok.1 h
      obtain ⟨made, hmade, rfl⟩ := makes_of_parseStage hstage hpart hnext
      have hrest := fun hsingle => ih hmore hparts hsingle hlast
      rw [List.countP_cons] at hsingle
      cases hmade with
      | pattern span start read =>
        obtain ⟨others, hothers, htransforms, hseparator⟩ := hrest hsingle
        refine ⟨_, .cons (.pattern span start read) hothers, ?_, hseparator⟩
        simpa [add] using htransforms
      | function span place start named read =>
        obtain ⟨others, hothers, htransforms, hseparator⟩ := hrest hsingle
        refine ⟨_, .cons (.function span place start named read) hothers, ?_, hseparator⟩
        simpa [add] using htransforms
      | separator start read =>
        obtain ⟨transforms, separator⟩ := before
        cases separator with
        | some e => simp [isSeparator] at hsingle
        | none =>
          obtain ⟨others, hothers, htransforms, hseparator⟩ := hrest hsingle
          exact ⟨_, .cons (.separator start read) hothers, htransforms, hseparator⟩

/-- A list whose parts can all be read is read. -/
theorem exists_parseStages (hstages : stages.map RawStage.part? = parts.map some)
    (hdepth : ∀ part ∈ parts, part.inside.length < depth)
    (hread : ∀ part ∈ parts, part.Readable options)
    (before : List Transform × Option Expression) :
    ∃ after, stages.foldlM (parseStage (parseUpTo depth) options ref) before = .ok after := by
  induction stages generalizing parts before with
  | nil => exact ⟨_, rfl⟩
  | cons stage stages ih =>
    cases parts with
    | nil => cases hstages
    | cons part parts =>
      obtain ⟨hstage, hmore⟩ := List.cons.inj hstages
      obtain ⟨hpart, hparts⟩ := List.forall_mem_cons.1 hdepth
      obtain ⟨hfirst, hothers⟩ := List.forall_mem_cons.1 hread
      obtain ⟨next, hnext⟩ :
          ∃ next, parseStage (parseUpTo depth) options ref before stage = .ok next :=
        exists_parseStage hstage hpart hfirst before
      obtain ⟨last, hlast⟩ := ih hmore hparts hothers next
      refine ⟨last, ?_⟩
      rw [List.foldlM_cons]
      exact Except.bind_eq_ok.2 ⟨next, hnext, hlast⟩

/-- Where a list is read none of its raw parts is a fault. -/
theorem isFault_of_parseStages {depth : Nat} {before after : List Transform × Option Expression}
    (h : stages.foldlM (parseStage (parseUpTo depth) options ref) before = .ok after) :
    ∀ stage ∈ stages, stage.isFault = false := by
  induction stages generalizing before with
  | nil => simp
  | cons stage stages ih =>
    rw [List.foldlM_cons] at h
    obtain ⟨next, hnext, hlast⟩ := Except.bind_eq_ok.1 h
    refine List.forall_mem_cons.2 ⟨?_, ih hlast⟩
    cases stage with
    | fault fault => cases hnext
    | pattern span value => rfl
    | function span name arguments => rfl
    | separator value => rfl

/-- The text in a part is shorter than the parts. -/
theorem WrittenAll.length_le {cs : List Char} (h : WrittenAll parts cs) :
    ∀ part ∈ parts, part.inside.length ≤ cs.length := by
  induction h with
  | nil blank => simp
  | @cons gap first rest part parts blank written more ih =>
    refine List.forall_mem_cons.2 ⟨?_, fun part hpart => ?_⟩
    · cases written <;> simp [inside] <;> omega
    · have := ih part hpart
      simp only [List.length_append]
      omega

end ListPart

namespace ListContent

open Expression

variable {options : Options} {itemType : List Char} {parts : List ListPart} {content : List Char}

/-- The text in a part is shorter than the text of the list. -/
theorem inside_length_lt (h : ListContent itemType parts content) :
    ∀ part ∈ parts, part.inside.length < (itemsText content).length := by
  obtain ⟨gap, rest, rfl, -, hwritten⟩ := h.text
  intro part hpart
  have := hwritten.length_le part hpart
  simp only [itemsText, List.length_append, List.length_cons]
  omega

end ListContent

namespace Expression

/-- The tree of an item list with a type and parts: its transforms and its separator are what the
parts make, in order. -/
def IsList (options : Options) (itemType : List Char) (parts : List ListPart) (e : Expression) :
    Prop :=
  ∃ ref type transforms separator made,
    e.segments = [.items (.mk ref type transforms separator)] ∧
    type.text = String.ofList itemType ∧ List.Forall₂ (ListPart.Makes options) parts made ∧
    transforms = made.filterMap Sum.getLeft? ∧ separator.toList = made.filterMap Sum.getRight?

variable {options : Options} {itemType : List Char} {parts : List ListPart} {content : List Char}

/-- A list that can be read is read as what its parts make. -/
theorem isList_of_parse (hitems : options.items = true)
    (hcloses : Chars.Closes '(' ')' { depth := 1 } content)
    (hcontent : ListContent itemType parts content) {e : Expression}
    (h : parse options (String.ofList (itemsText content)) = .ok e) :
    e.IsList options itemType parts := by
  rw [parse_items hitems hcloses] at h
  obtain ⟨list, hlist, rfl⟩ := Except.map_eq_ok.1 h
  obtain ⟨type, after, last, hname, hstages, rfl⟩ := parseItems_eq_ok.1 hlist
  obtain ⟨start, after', hname', hparts⟩ := hcontent.reads 2
  obtain ⟨rfl, rfl⟩ := Prod.mk.inj (Option.some.inj (hname.symm.trans hname'))
  have hsingle : parts.countP ListPart.isSeparator +
      (([], none) : List Transform × Option Expression).2.toList.length ≤ 1 := hcontent.single
  obtain ⟨made, hmade, htransforms, hseparator⟩ :=
    ListPart.makes_of_parseStages hparts hcontent.inside_length_lt hsingle hstages
  exact ⟨_, _, _, _, made, rfl, rfl, hmade, htransforms, hseparator⟩

/-- The reader accepts the texts that are written as a list whose parts can be read. -/
theorem exists_parse_iff (hitems : options.items = true)
    (hcloses : Chars.Closes '(' ')' { depth := 1 } content) :
    (∃ e, parse options (String.ofList (itemsText content)) = .ok e) ↔
      ∃ itemType parts, ListContent itemType parts content ∧
        ∀ part ∈ parts, part.Readable options := by
  constructor
  · rintro ⟨e, he⟩
    have h := he
    rw [parse_items hitems hcloses] at h
    obtain ⟨list, hlist, -⟩ := Except.map_eq_ok.1 h
    obtain ⟨type, after, last, hname, hstages, -⟩ := parseItems_eq_ok.1 hlist
    obtain ⟨itemType, parts, hcontent, -, -⟩ :=
      ListContent.of_reads hname (ListPart.isFault_of_parseStages hstages)
    obtain ⟨-, -, -, -, made, -, -, hmade, -, -⟩ := isList_of_parse hitems hcloses hcontent he
    have hread : List.Forall₂ (fun part m => part.Readable options ∧ part.Makes options m)
        parts made := hmade.imp fun _ m hm => ⟨⟨m, hm⟩, hm⟩
    exact ⟨itemType, parts, hcontent, ((List.forall₂_and_left _ _).1 hread).1⟩
  · rintro ⟨itemType, parts, hcontent, hread⟩
    obtain ⟨start, after, hname, hparts⟩ := hcontent.reads 2
    obtain ⟨last, hlast⟩ :=
      ListPart.exists_parseStages hparts hcontent.inside_length_lt hread ([], none)
    rw [parse_items hitems hcloses]
    exact ⟨_, Except.map_eq_ok.2 ⟨_, parseItems_eq_ok.2 ⟨_, _, _, hname, hlast, rfl⟩, rfl⟩⟩

end Expression

open Expression

/-- A text that is one item list is read exactly when it is written as a type and parts whose texts
can be read, with one separator at most, and then its tree has the type, the transforms in order and
the separator. So the reader accepts exactly the documented texts, in which nothing stands behind
the separator, unless it accepts a text in which something does. -/
theorem list_grammar_iff {options : Options} (hitems : options.items = true) {content : String}
    (hcloses : Chars.Closes '(' ')' { depth := 1 } content.toList) :
    ((∃ e, parse options ("@(" ++ content ++ ")") = .ok e) ↔
      ∃ itemType parts, ListContent itemType parts content.toList ∧
        ∀ part ∈ parts, part.Readable options) ∧
    (∀ itemType parts e, ListContent itemType parts content.toList →
      parse options ("@(" ++ content ++ ")") = .ok e → e.IsList options itemType parts) ∧
    (((∃ e, parse options ("@(" ++ content ++ ")") = .ok e) ↔
        ∃ itemType parts, ListContent itemType parts content.toList ∧ SeparatorLast parts ∧
          ∀ part ∈ parts, part.Readable options) ↔
      ∀ itemType parts e, ListContent itemType parts content.toList →
        parse options ("@(" ++ content ++ ")") = .ok e → SeparatorLast parts) := by
  have htext : "@(" ++ content ++ ")" = String.ofList (itemsText content.toList) := by
    refine String.toList_injective ?_
    simp [itemsText]
  have hread := exists_parse_iff hitems hcloses
  rw [htext]
  refine ⟨hread, fun _ _ _ hcontent he => isList_of_parse hitems hcloses hcontent he, ?_, ?_⟩
  · intro hdocumented itemType parts e hcontent he
    obtain ⟨_, _, hcontent', hlast, -⟩ := hdocumented.1 ⟨e, he⟩
    obtain ⟨-, rfl⟩ := hcontent.unique hcontent'
    exact hlast
  · intro hlast
    constructor
    · rintro ⟨e, he⟩
      obtain ⟨itemType, parts, hcontent, hparts⟩ := hread.1 ⟨e, he⟩
      exact ⟨itemType, parts, hcontent, hlast itemType parts e hcontent he, hparts⟩
    · rintro ⟨itemType, parts, hcontent, -, hparts⟩
      exact hread.2 ⟨itemType, parts, hcontent, hparts⟩

theorem list_grammar_iff_of_documented :
    ∃ e, parse .all "@( A -> '%(M)' ->Distinct(), ';' )" = .ok e ∧
      e.IsList .all ['A'] [.pattern "%(M)".toList, .function "Distinct".toList [],
        .separator [';']] := by
  have hclosing : Chars.closing '(' ')' { depth := 1 }
      (" A -> '%(M)' ->Distinct(), ';' ".toList ++ [')']) =
        some (" A -> '%(M)' ->Distinct(), ';' ".toList, []) := by
    decide +kernel
  have hcontent : ListContent ['A'] [.pattern "%(M)".toList, .function "Distinct".toList [],
      .separator [';']] " A -> '%(M)' ->Distinct(), ';' ".toList :=
    readContent?_eq_some.1 (by decide +kernel)
  have hread : ∀ part ∈ [ListPart.pattern "%(M)".toList, .function "Distinct".toList [],
      .separator [';']], part.Readable .all := by
    obtain ⟨value, hvalue⟩ := Except.exists_of_isSome
      (x := parse (listOptions .all) (String.ofList "%(M)".toList)) (by decide +kernel)
    obtain ⟨arguments, harguments⟩ := Except.exists_of_isSome
      (x := readArguments (listOptions .all) []) (by decide +kernel)
    obtain ⟨separator, hseparator⟩ := Except.exists_of_isSome
      (x := parse (listOptions .all) (String.ofList [';'])) (by decide +kernel)
    simp only [List.forall_mem_cons]
    exact ⟨⟨_, .pattern default 0 hvalue⟩, ⟨_, .function default ⟨0, "Distinct"⟩ 0 rfl harguments⟩,
      ⟨_, .separator 0 hseparator⟩, by simp⟩
  have hitems : Options.all.items = true := rfl
  obtain ⟨hparse, htree, -⟩ := list_grammar_iff hitems (Chars.closing_eq_some hclosing).2
  obtain ⟨e, he⟩ := hparse.2 ⟨_, _, hcontent, hread⟩
  exact ⟨e, he, htree _ _ e hcontent he⟩

/-- A transform behind a separator is accepted. -/
theorem exists_transform_behind_separator :
    (∃ e, parse .all "@(A, ';'->'x')" = .ok e) ∧
      ¬∃ itemType parts, ListContent itemType parts "A, ';'->'x'".toList ∧ SeparatorLast parts := by
  refine ⟨Except.exists_of_isSome (by decide +kernel), ?_⟩
  rintro ⟨itemType, parts, hcontent, hlast⟩
  have hparts : readContent? "A, ';'->'x'".toList =
      some (['A'], [.separator [';'], .pattern ['x']]) := by
    decide +kernel
  obtain ⟨-, rfl⟩ := hcontent.unique (readContent?_eq_some.1 hparts)
  exact absurd ((List.pairwise_cons.1 hlast).1 _ List.mem_cons_self) (by decide)

end BuildExpr
