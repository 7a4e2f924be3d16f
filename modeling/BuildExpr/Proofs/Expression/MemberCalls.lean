import BuildExpr.Proofs.Expression.Faults
import BuildExpr.Proofs.Expression.ListGrammar
import BuildExpr.Proofs.Expression.ListText
import BuildExpr.Proofs.Expression.Requested
import BuildExpr.Proofs.Expression.WithoutMetadata

/-!
# Calls of members as texts

A member with an argument list can stand behind the name of a property and behind the type of an
item list. In both places it is read as what stands between its parentheses is
(`toOption_parse_memberText`, `readArguments_of_parse_stageText`, `exists_parse_stageText`). The
place and the options differ, but arguments with references to properties only are the same under
both (`readArguments_listOptions`): in a text that holds neither `%(` nor an item list there is
nothing for the request of metadata references to find, at any depth. Where item lists are not
requested either, such a text is read in the same way with and without that request
(`agreeOn_withoutMetadata`), and so is an argument list (`parseArguments_withoutMetadata`).
-/

namespace BuildExpr

/-! ## Texts with references to properties only -/

section

open Expression

/-- Whether a text holds neither the opening of a metadata reference nor an item list. -/
structure Chars.PropertiesOnly (cs : List Char) : Prop where
  metadata : ¬['%', '('] <:+: cs
  items : ∀ body, Chars.Closes '(' ')' { depth := 1 } body → ¬itemsText body <:+: cs

namespace Chars.PropertiesOnly

variable {cs part : List Char}

theorem of_infix (h : PropertiesOnly cs) (hpart : part <:+: cs) : PropertiesOnly part :=
  ⟨fun hpair => h.metadata (hpair.trans hpart),
    fun body hbody hlist => h.items body hbody (hlist.trans hpart)⟩

theorem of_within {r outer : Rest} (hr : r.Within outer) (h : PropertiesOnly outer.chars) :
    PropertiesOnly r.chars :=
  h.of_infix hr.isInfix

/-- A text without the marks in front of metadata references and item lists. -/
theorem of_not_mem (hmetadata : '%' ∉ cs) (hitems : '@' ∉ cs) : PropertiesOnly cs :=
  ⟨fun hpair => hmetadata (hpair.subset (by simp)),
    fun body _ hlist => hitems (hlist.subset (by simp [itemsText]))⟩

end Chars.PropertiesOnly

namespace Chunk

variable {options : Options}

/-- Metadata references are not found in such a text. -/
theorem front_withoutMetadata (hitems : options.items = false) {r : Rest}
    (h : Chars.PropertiesOnly r.chars) : front options.withoutMetadata r = front options r := by
  obtain ⟨pos, cs⟩ := r
  rw [front, front]
  split
  · rename_i c rest hcs
    obtain rfl : cs = c :: '(' :: rest := hcs
    by_cases hat : c = '@'
    · subst hat
      cases hbody : body? ⟨pos, '@' :: '(' :: rest⟩ with
      | none => simp [Options.withoutMetadata, hitems]
      | some body =>
        obtain ⟨after, rfl, -, hcloses⟩ := eq_of_body? hbody
        exact absurd ⟨[], after, by simp [itemsText]⟩ (h.items _ hcloses)
    · have hpercent : c ≠ '%' := by
        rintro rfl
        exact h.metadata ⟨[], rest, rfl⟩
      simp [Options.withoutMetadata, hat, hpercent]
  · rfl

/-- Two readings that find the same at every place of a text cut it in the same way. -/
theorem chunksFrom_congr {options options' : Options} {cs : List Char}
    (h : ∀ pos suffix, suffix <:+ cs → front options ⟨pos, suffix⟩ = front options' ⟨pos, suffix⟩)
    (start : Nat) (run : List Char) (skip pos : Nat) :
    chunksFrom options start run skip pos cs = chunksFrom options' start run skip pos cs := by
  induction cs generalizing start run skip pos with
  | nil => rfl
  | cons c cs ih =>
    have hmore := ih fun pos suffix hsuffix => h pos suffix (hsuffix.trans (List.suffix_cons c cs))
    cases skip with
    | succ skip => rw [chunksFrom, chunksFrom, hmore]
    | zero =>
      rw [chunksFrom, chunksFrom, h pos (c :: cs) List.suffix_rfl]
      simp only [hmore]

theorem chunks_withoutMetadata (hitems : options.items = false) {r : Rest}
    (h : Chars.PropertiesOnly r.chars) : r.chunks options.withoutMetadata = r.chunks options :=
  chunksFrom_congr (fun _ _ hsuffix => front_withoutMetadata hitems (h.of_infix hsuffix.isInfix))
    _ _ _ _

end Chunk

namespace Expression

variable {options : Options} {depth : Nat}

/-- A text with references to properties only is read without metadata references as it is read with
these. -/
theorem agreeOn_withoutMetadata (hitems : options.items = false) :
    AgreeOn 0 (fun r => Chars.PropertiesOnly r.chars) (parseUpTo depth options)
      (parseUpTo depth options.withoutMetadata) := by
  induction depth generalizing options with
  | zero => exact fun _ _ => rfl
  | succ depth ih =>
    intro r h
    have hchunk : ∀ chunk ∈ r.chunks options,
        parseChunk (parseUpTo depth) options.withoutMetadata (chunk.shift 0) =
          (parseChunk (parseUpTo depth) options chunk).map (List.map (Segment.shift 0)) := by
      intro chunk hmem
      have hplaced := Chunk.placed_of_mem_chunks chunk hmem
      have hrequested := Chunk.isRequested_of_mem_chunks chunk hmem
      cases chunk with
      | literal span => rfl
      | metadata ref => rfl
      | unclosed rest => rfl
      | items span body => exact absurd (hitems.symm.trans hrequested) Bool.false_ne_true
      | copied body =>
        have hread : parseUpTo depth { options.withoutMetadata with metadata := false }
            (body.shift 0) = (parseUpTo depth { options with metadata := false } body).map
              (Expression.shift 0) :=
          @ih options.withoutMetadata hitems body (h.of_within hplaced)
        simp only [Chunk.shift, parseChunk, hread]
        cases parseUpTo depth { options with metadata := false } body with
        | error m => rfl
        | ok e => exact congrArg Except.ok (segments_shift 0 e)
      | property span body =>
        have hread : AgreeOn 0 (fun r => Chars.PropertiesOnly r.chars)
            (parseUpTo depth (argumentOptions options))
            (parseUpTo depth (argumentOptions options.withoutMetadata)) :=
          @ih (argumentOptions options) rfl
        have hproperty := AgreeOn.parseProperty Chars.PropertiesOnly.of_within hread span
          (h.of_within hplaced.2)
        simp only [Chunk.shift, parseChunk, hproperty]
        cases parseProperty (parseUpTo depth) options span body <;> rfl
    rw [parseUpTo, parseLevel, parseLevel, Rest.chunks_shift, Chunk.chunks_withoutMetadata hitems h,
      Except.mapM_map_eq hchunk]
    cases (r.chunks options).mapM (parseChunk (parseUpTo depth) options) with
    | error m => rfl
    | ok segments =>
      refine congrArg Except.ok ?_
      simp [Expression.shift, Segment.shiftAll_eq_map, List.map_flatten]

/-- An argument list with references to properties only is read without metadata references as it is
read with these. -/
theorem parseArguments_withoutMetadata (ref : Span) {inside : Rest}
    (h : Chars.PropertiesOnly inside.chars) :
    parseArguments (parseUpTo depth) options.withoutMetadata (ref.shift 0) (inside.shift 0) =
      (parseArguments (parseUpTo depth) options ref inside).map (Argument.shiftAll 0) := by
  have hread : AgreeOn 0 (fun r => Chars.PropertiesOnly r.chars)
      (parseUpTo depth (argumentOptions options))
      (parseUpTo depth (argumentOptions options.withoutMetadata)) :=
    @agreeOn_withoutMetadata (argumentOptions options) depth rfl
  exact AgreeOn.parseArguments Chars.PropertiesOnly.of_within hread ref h

end Expression

end

/-! ## Members with arguments -/

namespace Expression

variable {options : Options} {name member inside : List Char}

/-- A member with an argument list as text. -/
def applied (member inside : List Char) : List Char := member ++ '(' :: (inside ++ [')'])

theorem balanced_applied (hmember : Chars.name? false member = some (member, []))
    (hinside : Chars.Closes '(' ')' { depth := 1 } inside) :
    Chars.Balanced (applied member inside) := by
  have hname : Chars.Balanced member :=
    Chars.balanced_of_isRefPart fun _ => Chars.isRefPart_of_mem_name? hmember
  have htext : applied member inside = member ++ ('(' :: inside ++ [')']) := by simp [applied]
  rw [htext]
  exact hname.append (.group hinside)

/-! ## Members of properties -/

/-- A member with an argument list behind a point. -/
def pointText (member inside : List Char) : List Char := '.' :: applied member inside

/-- A call of a member of a property as text. -/
def memberText (name member inside : List Char) : List Char := name ++ pointText member inside

/-- A member does not begin with a text that has a mark no name has in front of any point. -/
theorem startsWithIgnoreCase_memberText (hname : Chars.name? true name = some (name, []))
    {start : String} {d : Char} (hstart : d ∈ start.toList) (hd : Chars.isRefPart d = false)
    (hpoint : '.' ∉ start.toList) :
    startsWithIgnoreCase (memberText name member inside) start = false := by
  rw [Bool.eq_false_iff]
  intro h
  have hnot : d ∉ name := by
    intro hmem
    rw [Chars.isRefPart_of_mem_name? hname hmem] at hd
    cases hd
  have hletter : d.isAlpha = false := by
    simp only [Chars.isRefPart, Chars.isWord, Char.isAlphanum, Bool.or_eq_false_iff] at hd
    exact hd.1.1.1.1.1
  by_cases hlength : start.length ≤ name.length
  · have hmem := (mem_take_of_startsWithIgnoreCase h hletter).2 hstart
    rw [memberText, List.take_append_of_le_length hlength] at hmem
    exact hnot (List.mem_of_mem_take hmem)
  · obtain ⟨more, hmore⟩ := Nat.exists_eq_add_of_lt (Nat.not_le.1 hlength)
    refine hpoint ((mem_take_of_startsWithIgnoreCase h rfl).1 ?_)
    rw [memberText, pointText, hmore, Nat.add_assoc, List.take_length_add_append,
      List.take_succ_cons]
    simp

/-- Nothing is taken off a call at its ends. -/
theorem trimmed_memberText (hname : Chars.name? true name = some (name, [])) (pos : Nat) :
    (⟨pos, memberText name member inside⟩ : Rest).trimmed =
      ⟨pos, memberText name member inside⟩ := by
  obtain ⟨c, cs, rfl, hc⟩ := Chars.exists_cons_of_name? hname
  have htext : memberText (c :: cs) member inside =
      c :: (cs ++ '.' :: (member ++ '(' :: inside)) ++ [')'] := by
    simp [memberText, pointText, applied]
  rw [htext]
  exact Rest.trimmed_eq_self (Chars.isBlank_of_nameStart hc) rfl _ _

theorem access?_pointText (hmember : Chars.name? false member = some (member, []))
    (hinside : Chars.Closes '(' ')' { depth := 1 } inside) (pos : Nat) :
    ∃ (method place : Span) (start last : Nat), place.text = String.ofList member ∧
      (⟨pos, pointText member inside⟩ : Rest).access? =
        some (.method method place ⟨start, inside⟩, ⟨last, []⟩) := by
  have hpeek : (⟨pos, pointText member inside⟩ : Rest).peek? = some '.' := rfl
  have hnext : (⟨pos, pointText member inside⟩ : Rest).next =
      ⟨pos + 1, member ++ '(' :: (inside ++ [')'])⟩ := rfl
  have hname : (⟨pos + 1, member ++ '(' :: (inside ++ [')'])⟩ : Rest).name? false =
      some (⟨pos + 1, String.ofList member⟩,
        ⟨pos + 1 + Chars.byteLength member, '(' :: (inside ++ [')'])⟩) := by
    rw [Rest.name?, Chars.name?_append_stop (Chars.stopsName_parenthesis _) hmember,
      Option.map_some]
  obtain ⟨last, htail⟩ := Rest.memberTail_of_closes hinside ⟨pos, pointText member inside⟩
    ⟨pos + 1, String.ofList member⟩ (pos + 1 + Chars.byteLength member) []
  have hfirst : (⟨pos, pointText member inside⟩ : Rest).access? =
      some (Rest.memberTail ⟨pos, pointText member inside⟩ ⟨pos + 1, String.ofList member⟩
        ⟨pos + 1 + Chars.byteLength member, '(' :: (inside ++ [')'])⟩) := by
    simp only [Rest.access?, hpeek, hnext, hname]
  rw [htail] at hfirst
  exact ⟨_, _, _, _, rfl, hfirst⟩

/-- A member with an argument list behind a point is a chain of one member. -/
theorem accesses_pointText (hmember : Chars.name? false member = some (member, []))
    (hinside : Chars.Closes '(' ')' { depth := 1 } inside) (pos : Nat) :
    ∃ (method place : Span) (start : Nat), place.text = String.ofList member ∧
      (⟨pos, pointText member inside⟩ : Rest).accesses =
        [.method method place ⟨start, inside⟩] := by
  obtain ⟨method, place, start, last, hplace, hfirst⟩ := access?_pointText hmember hinside pos
  have hblanks : (⟨pos, pointText member inside⟩ : Rest).skipBlanks =
      ⟨pos, pointText member inside⟩ := rfl
  refine ⟨method, place, start, hplace, ?_⟩
  rw [Rest.accesses, Rest.accessesUpTo, hblanks, hfirst]
  rfl

/-- A call of a member of a property is read as its arguments are. -/
theorem parseProperty_memberText (read : Reader) (options : Options) (ref : Span) (pos : Nat)
    (hname : Chars.name? true name = some (name, []))
    (hmember : Chars.name? false member = some (member, []))
    (hinside : Chars.Closes '(' ')' { depth := 1 } inside) :
    ∃ (start : Nat) (receiver method place : Span), receiver.text = String.ofList name ∧
      place.text = String.ofList member ∧
      parseProperty read options ref ⟨pos, memberText name member inside⟩ =
        (parseArguments read options ref ⟨start, inside⟩).map fun as =>
          .chain ref (.property receiver) [.method method place as] := by
  have hmark : startsWithIgnoreCase (memberText name member inside) registryMark = false :=
    startsWithIgnoreCase_memberText hname (d := ':') (by decide) (by decide) (by decide)
  have hpath : isBareRegistry (memberText name member inside) = false := by
    refine List.any_eq_false.2 fun hive hhive => ?_
    have hhives : ∀ hive ∈ bareHives, '\\' ∈ hive.toList ∧ '.' ∉ hive.toList := by decide
    obtain ⟨hslash, hpoint⟩ := hhives hive hhive
    rw [startsWithIgnoreCase_memberText hname hslash (by decide) hpoint, Bool.false_and]
    exact Bool.false_ne_true
  have htype : (⟨pos, memberText name member inside⟩ : Rest).trimmed.peek? ≠ some '[' := by
    obtain ⟨c, cs, rfl, hc⟩ := Chars.exists_cons_of_name? hname
    rw [trimmed_memberText hname]
    intro hpeek
    obtain rfl : c = '[' := Option.some.inj hpeek
    cases hc
  have hmembers : (memberText name member inside).any beginsMember = true := by
    rw [List.any_eq_true]
    exact ⟨'.', by simp [memberText, pointText], rfl⟩
  have hreceiver : (⟨pos, memberText name member inside⟩ : Rest).name? true =
      some (⟨pos, String.ofList name⟩,
        ⟨pos + Chars.byteLength name, pointText member inside⟩) := by
    have hstops : Chars.StopsName (pointText member inside) := Chars.stopsName_point _
    rw [memberText, Rest.name?, Chars.name?_append_stop hstops hname, Option.map_some]
  obtain ⟨method, place, start, hplace, haccesses⟩ :=
    accesses_pointText hmember hinside (pos + Chars.byteLength name)
  refine ⟨start, ⟨pos, String.ofList name⟩, method, place, rfl, hplace, ?_⟩
  rw [parseProperty, hmark, if_neg Bool.false_ne_true, if_neg (mt beq_iff_eq.1 htype),
    trimmed_memberText hname, hpath, Bool.and_false, if_neg Bool.false_ne_true]
  have hchain : (!(memberText name member inside).any fun c => c == '.' || c == '[' || c == '(') =
      false := (Bool.not_eq_false' _).mpr hmembers
  rw [hchain, if_neg Bool.false_ne_true, hreceiver]
  dsimp only
  rw [haccesses, List.mapM_cons, List.mapM_nil, parseAccess]
  cases parseArguments read options ref ⟨start, inside⟩ <;> rfl

theorem closes_memberText (hname : Chars.name? true name = some (name, []))
    (hmember : Chars.name? false member = some (member, []))
    (hinside : Chars.Closes '(' ')' { depth := 1 } inside) :
    Chars.Closes '(' ')' { depth := 1 } (memberText name member inside) := by
  have hpoint : Chars.Balanced ['.'] := .single rfl (by decide) (by decide)
  exact (balanced_append hname (hpoint.append (balanced_applied hmember hinside))).closes

/-- A reference that calls a member of a property is read as the text of its arguments is. -/
theorem toOption_parse_memberText (hproperties : options.properties = true)
    (hname : Chars.name? true name = some (name, []))
    (hmember : Chars.name? false member = some (member, []))
    (hinside : Chars.Closes '(' ')' { depth := 1 } inside) :
    ∃ (start : Nat) (ref receiver method place : Span), receiver.text = String.ofList name ∧
      place.text = String.ofList member ∧
      (parse options (String.ofList (referenceText (memberText name member inside)))).toOption =
        (readArguments options inside).toOption.map fun as =>
          referenceTree 0 (memberText name member inside) (.chain ref (.property receiver)
            [.method method place (Argument.shiftAll start as)]) := by
  have hlength : inside.length < (referenceText (memberText name member inside)).length := by
    simp only [referenceText, memberText, pointText, applied, List.length_append, List.length_cons]
    omega
  obtain ⟨start, receiver, method, place, hreceiver, hplace, hread⟩ :=
    parseProperty_memberText (parseUpTo (referenceText (memberText name member inside)).length)
      options ⟨0, String.ofList (referenceText (memberText name member inside))⟩ 2 hname hmember
      hinside
  refine ⟨start, ⟨0, String.ofList (referenceText (memberText name member inside))⟩, receiver,
    method, place, hreceiver, hplace, ?_⟩
  rw [parse_reference hproperties (closes_memberText hname hmember hinside), hread,
    Except.toOption_map, Except.toOption_map, toOption_parseArguments_at start hlength,
    Except.toOption_map, Option.map_map, Option.map_map]
  rfl

/-! ## Stages of item lists -/

/-- An item list with one stage, a call of a member, as it stands between its parentheses. -/
def stageText (itemType member inside : List Char) : List Char :=
  itemType ++ '-' :: '>' :: applied member inside

section

variable {itemType : List Char} (htype : Chars.name? true itemType = some (itemType, []))
  (hmember : Chars.name? false member = some (member, []))
  (hinside : Chars.Closes '(' ')' { depth := 1 } inside)

include htype hmember hinside

theorem closes_stageText :
    Chars.Closes '(' ')' { depth := 1 } (stageText itemType member inside) := by
  have harrow : Chars.Balanced ['-', '>'] := .of_plain (by simp [isQuote])
  exact (balanced_append htype (harrow.append (balanced_applied hmember hinside))).closes

theorem listContent_stageText :
    ListContent itemType [.function member inside] (stageText itemType member inside) := by
  have hgap : Chars.Gap [] := by simp [Chars.Gap]
  have hwritten := ListPart.Written.function hgap hmember hgap hinside
  have hparts := ListPart.WrittenAll.cons hgap hwritten (.nil hgap)
  refine ⟨⟨[], _, rfl, hgap, ?_⟩, htype, Nat.zero_le 1⟩
  simpa [applied] using hparts

/-- An item list with one stage is read when the text of the arguments is. -/
theorem readArguments_of_parse_stageText (hitems : options.items = true) {e : Expression}
    (h : parse options (String.ofList (itemsText (stageText itemType member inside))) = .ok e) :
    ∃ (as : List Argument) (ref type span place : Span) (start : Nat),
      readArguments (listOptions options) inside = .ok as ∧
      type.text = String.ofList itemType ∧ place.text = String.ofList member ∧
      e.singleItems? =
        some (.mk ref type [.function span place (Argument.shiftAll start as)] none) := by
  obtain ⟨ref, type, transforms, separator, made, hsegments, htext, hmade, rfl, hseparator⟩ :=
    isList_of_parse hitems (closes_stageText htype hmember hinside)
      (listContent_stageText htype hmember hinside) h
  cases hmade with
  | cons hfirst hrest =>
    cases hrest
    cases hfirst with
    | function span place start named read =>
      have hnone : separator = none := by
        cases separator with
        | none => rfl
        | some e => cases hseparator
      refine ⟨_, ref, type, span, place, start, read, htext, named, ?_⟩
      rw [singleItems?, hsegments, hnone]
      rfl

theorem exists_parse_stageText (hitems : options.items = true) {as : List Argument}
    (h : readArguments (listOptions options) inside = .ok as) :
    ∃ e, parse options (String.ofList (itemsText (stageText itemType member inside))) = .ok e := by
  refine (exists_parse_iff hitems (closes_stageText htype hmember hinside)).2
    ⟨itemType, _, listContent_stageText htype hmember hinside, ?_⟩
  rw [List.forall_mem_singleton]
  exact ⟨_, .function default ⟨0, String.ofList member⟩ 0 rfl h⟩

end

/-! ## The options of arguments -/

/-- Arguments with references to properties only are the same in an item list as elsewhere. -/
theorem readArguments_listOptions (options : Options) (h : Chars.PropertiesOnly inside) :
    (readArguments (listOptions options) inside).map (Argument.shiftAll 0) =
      (readArguments options inside).map (Argument.shiftAll 0) := by
  have hread (options : Options) :
      parseArguments (parseUpTo (inside.length + 1)) options.withoutMetadata default ⟨0, inside⟩ =
        (readArguments options inside).map (Argument.shiftAll 0) :=
    @parseArguments_withoutMetadata options (inside.length + 1) default ⟨0, inside⟩ h
  rw [← hread, ← hread]
  rfl

end Expression

end BuildExpr
