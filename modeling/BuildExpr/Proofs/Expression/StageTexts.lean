import BuildExpr.Proofs.Evaluation.Tokens
import BuildExpr.Proofs.Expression.MemberCalls

/-!
# Single stages as texts

A stage of an item list can be written as a call or as a pattern, and is read as what stands between
its parentheses or its quotes (`readParts_callStage`, `readParts_patternStage`). Texts that mention
nothing can be given to a call as quoted arguments: they are read, and their values are these texts
without escapes (`exists_readArguments_quotedList`). A reference to metadata by its name is read as
such (`parse_metadataText`).
-/

namespace BuildExpr

/-! ## Texts that are read as themselves -/

namespace Chars

/-- Whether no reference can begin in a text, be it requested or not. -/
def Inert (cs : List Char) : Prop := ∀ options, Token.Scan options (cs.map .char)

theorem Inert.of_not_mem {cs : List Char} (h : '(' ∉ cs) : Inert cs := by
  intro options
  induction cs with
  | nil => exact .nil
  | cons c cs ih =>
    rw [List.mem_cons, not_or] at h
    refine .char (fun _ hhead => ?_) (ih h.2)
    rw [Token.textAll_map_char] at hhead
    exact h.2 (List.mem_of_mem_head? hhead)

/-- Such a text is read and is its own value. -/
theorem Inert.exists_parse {cs : List Char} (h : Inert cs) (options : Options) :
    ∃ e, Expression.parse options (String.ofList cs) = .ok e ∧
      ∀ s item, evalExpression s item e = pure (String.ofList cs) := by
  obtain ⟨e, he, hvalue⟩ := Token.parse_of_readable (h options).readable
  rw [Token.textAll_map_char] at he
  exact ⟨e, he, fun s item => (hvalue s item).trans (evalSegments_map_char s item cs)⟩

/-- Names have neither quotes nor what could begin a reference. -/
theorem quote_not_mem_of_name? {dash : Bool} {name : List Char}
    (h : name? dash name = some (name, [])) {q : Char} (hq : isQuote q = true) : q ∉ name := by
  intro hmem
  have hpart := isRefPart_of_mem_name? h hmem
  simp only [isQuote, Bool.or_eq_true, beq_iff_eq] at hq
  obtain (rfl | rfl) | rfl := hq <;> cases hpart

theorem Inert.of_name? {dash : Bool} {name : List Char}
    (h : name? dash name = some (name, [])) : Inert name :=
  .of_not_mem fun hmem => by cases isRefPart_of_mem_name? h hmem

/-! ## Quoted arguments -/

/-- Texts in quotes as arguments. -/
def quotedList (q : Char) (values : List (List Char)) : List Char :=
  join [',', ' '] (values.map fun value => q :: value ++ [q])

theorem quotedList_cons (q : Char) (value : List Char) (values : List (List Char)) :
    quotedList q (value :: values) =
      (q :: value ++ [q]) ++
        (values.map fun v => [' '] ++ (q :: v ++ [q])).flatMap fun piece => ',' :: piece := by
  induction values generalizing value with
  | nil => simp [quotedList, join]
  | cons next values ih =>
    have hmore := ih next
    simp only [quotedList, List.map_cons] at hmore ⊢
    rw [join_cons_of_ne_nil _ _ (by simp), hmore]
    simp

theorem length_le_quotedList {q : Char} {value : List Char} {values : List (List Char)}
    (h : value ∈ values) : value.length ≤ (quotedList q values).length := by
  cases values with
  | nil => cases h
  | cons first values =>
    rw [quotedList_cons, List.length_append]
    rcases List.mem_cons.1 h with rfl | h
    · simp only [List.length_append, List.length_cons]
      omega
    · obtain ⟨before, after, rfl⟩ := List.append_of_mem h
      simp only [List.map_append, List.map_cons, List.flatMap_append, List.flatMap_cons,
        List.length_append, List.length_cons]
      omega

/-- Uncut texts with commas between them are cut at the commas. -/
theorem splitArguments_flatMap {first : List Char} (hfirst : Uncut first)
    {pieces : List (List Char)} (hpieces : ∀ piece ∈ pieces, Uncut piece) :
    splitArguments (first ++ pieces.flatMap fun piece => ',' :: piece) = some (first :: pieces) := by
  induction pieces generalizing first with
  | nil => simpa using hfirst.splitArguments_eq
  | cons piece pieces ih =>
    obtain ⟨hpiece, hmore⟩ := List.forall_mem_cons.1 hpieces
    rw [List.flatMap_cons, List.cons_append, hfirst.splitArguments_cons, ih hpiece hmore]
    rfl

variable {q : Char} (hq : isQuote q = true)

include hq

theorem isBlank_of_isQuote : isBlank q = false := by
  simp only [isQuote, Bool.or_eq_true, beq_iff_eq] at hq
  obtain (rfl | rfl) | rfl := hq <;> decide

theorem balanced_quotedList {values : List (List Char)} (hvalues : ∀ value ∈ values, q ∉ value) :
    Balanced (quotedList q values) := by
  have hcomma : Balanced [',', ' '] := .of_plain (by simp [isQuote])
  induction values with
  | nil => exact .of_plain (by simp [quotedList, join])
  | cons value values ih =>
    obtain ⟨hvalue, hmore⟩ := List.forall_mem_cons.1 hvalues
    have hfirst : Balanced (q :: value ++ [q]) := .quoted hq hvalue
    by_cases hvalues : values = []
    · subst hvalues
      exact hfirst
    · rw [quotedList, List.map_cons, join_cons_of_ne_nil _ _ (by simpa using hvalues)]
      exact (hfirst.append hcomma).append (ih hmore)

/-- Arguments in quotes are cut at the commas between them. -/
theorem splitArguments_quotedList {value : List Char} {values : List (List Char)}
    (hvalues : ∀ v ∈ value :: values, q ∉ v) :
    splitArguments (quotedList q (value :: values)) =
      some ((q :: value ++ [q]) :: values.map fun v => [' '] ++ (q :: v ++ [q])) := by
  obtain ⟨hvalue, hmore⟩ := List.forall_mem_cons.1 hvalues
  have hblank : Uncut [' '] := .single rfl (by decide) (by decide) (by decide)
  rw [quotedList_cons]
  refine splitArguments_flatMap (.quoted hq hvalue) fun piece hpiece => ?_
  obtain ⟨v, hv, rfl⟩ := List.mem_map.1 hpiece
  exact hblank.append (.quoted hq (hmore v hv))

theorem trim_quotedList_ne_nil (value : List Char) (values : List (List Char)) :
    trim (quotedList q (value :: values)) ≠ [] := by
  intro htrim
  obtain ⟨ws, us, hws, hus, htext⟩ := exists_trim (quotedList q (value :: values))
  have hmem : q ∈ quotedList q (value :: values) := by
    cases values <;> simp [quotedList, join]
  rw [htext, htrim, List.append_nil, List.mem_append] at hmem
  exact hmem.elim (hws.not_mem (isBlank_of_isQuote hq)) (hus.not_mem (isBlank_of_isQuote hq))

end Chars

namespace Expression

open Chars

variable {options : Options}

/-- Quoted texts without references are read one by one, and are the texts without escapes. -/
theorem exists_mapM_parseArgument {q : Char} (hq : isQuote q = true) {depth : Nat}
    {pieces values : List (List Char)}
    (hpieces : List.Forall₂ (fun piece value => ∃ ws, Blank ws ∧ piece = ws ++ (q :: value ++ [q]))
      pieces values)
    (hvalues : ∀ value ∈ values, q ∉ value ∧ Inert value ∧ value.length < depth) (pos : Nat) :
    ∃ as, (Rest.pieces pos pieces).mapM (parseArgument (parseUpTo depth) options) = .ok as ∧
      ∀ s item, evalArguments s item as =
        pure (values.map fun value => .text (Text.unescape (String.ofList value))) := by
  induction hpieces generalizing pos with
  | nil => exact ⟨[], rfl, fun _ _ => rfl⟩
  | @cons piece value pieces values hpiece _ ih =>
    obtain ⟨⟨hquote, hinert, hdepth⟩, hmore⟩ := List.forall_mem_cons.1 hvalues
    obtain ⟨ws, hws, rfl⟩ := hpiece
    obtain ⟨as, has, hrest⟩ := ih hmore (pos + byteLength (ws ++ (q :: value ++ [q])) + 1)
    obtain ⟨e, he, hvalue⟩ := hinert.exists_parse (argumentOptions options)
    obtain ⟨start, hfirst⟩ :=
      parseArgument_quoted (parseUpTo depth) options hws hq hquote pos
    rw [parseUpTo_at start _ hdepth, he] at hfirst
    refine ⟨.quoted (e.shift start) :: as, ?_, fun s item => ?_⟩
    · exact Except.mapM_cons_eq_ok.2 ⟨_, _, hfirst, has, rfl⟩
    · rw [evalArguments, evalArgument, evalExpression_shift, hvalue, hrest]
      rfl

/-- The arguments of a call that are quoted texts without references. -/
theorem exists_readArguments_quotedList {q : Char} (hq : isQuote q = true)
    {values : List (List Char)} (hvalues : ∀ value ∈ values, q ∉ value ∧ Inert value) :
    ∃ as, readArguments options (quotedList q values) = .ok as ∧
      ∀ s item, evalArguments s item as =
        pure (values.map fun value => .text (Text.unescape (String.ofList value))) := by
  cases values with
  | nil => exact ⟨[], rfl, fun _ _ => rfl⟩
  | cons value values =>
    have hfilled : (⟨0, quotedList q (value :: values)⟩ : Rest).trimmed.isEmpty = false := by
      simpa [Rest.isEmpty, Rest.trimmed] using trim_quotedList_ne_nil hq value values
    have hsplit : (⟨0, quotedList q (value :: values)⟩ : Rest).splitArguments = some (Rest.pieces 0
        ((q :: value ++ [q]) :: values.map fun v => [' '] ++ (q :: v ++ [q]))) := by
      rw [Rest.splitArguments, splitArguments_quotedList hq fun v hv => (hvalues v hv).1]
      rfl
    have hblank : Blank [' '] := by simp [Blank, isBlank]
    have hpieces : List.Forall₂ (fun piece v => ∃ ws, Blank ws ∧ piece = ws ++ (q :: v ++ [q]))
        ((q :: value ++ [q]) :: values.map fun v => [' '] ++ (q :: v ++ [q]))
        (value :: values) :=
      .cons ⟨[], .nil, rfl⟩
        (List.forall₂_map_left_iff.2 (List.forall₂_same.2 fun v _ => ⟨[' '], hblank, rfl⟩))
    have hdepth (v : List Char) (hv : v ∈ value :: values) :
        v.length < (quotedList q (value :: values)).length + 1 :=
      Nat.lt_succ_of_le (length_le_quotedList hv)
    rw [readArguments, parseArguments_of_pieces _ _ _ hfilled hsplit]
    exact exists_mapM_parseArgument hq hpieces
      (fun v hv => ⟨(hvalues v hv).1, (hvalues v hv).2, hdepth v hv⟩) 0

/-! ## References to metadata -/

/-- A reference to metadata by its name. -/
def metadataText (name : List Char) : List Char := '%' :: '(' :: name ++ [')']

/-- What the text of a reference to metadata is read as. -/
def metadataRef (name : List Char) : MetadataRef :=
  .ofInner 0 name (none, ⟨2, String.ofList name⟩)

/-- A reference to metadata by its name is read as such where metadata are requested. -/
theorem parse_metadataText (hmetadata : options.metadata = true) {name : List Char}
    (hname : Chars.name? true name = some (name, [])) :
    ∃ e, parse options (String.ofList (metadataText name)) = .ok e ∧
      ∀ s item, evalExpression s item e = s.metadataValue item (metadataRef name) := by
  have hclose : ')' ∉ name := fun h => by cases Chars.isRefPart_of_mem_name? hname h
  have hread : (⟨2, name⟩ : Rest).name? true =
      some (⟨2, String.ofList name⟩, ⟨2 + Chars.byteLength name, []⟩) := by
    rw [Rest.name?, hname, Option.map_some]
  have hinner : MetadataRef.inner? ⟨0 + 2, name⟩ = some (none, ⟨2, String.ofList name⟩) := by
    rw [MetadataRef.inner?, Rest.skipBlanks_of_name? hread, hread]
    rfl
  have hfits : (Token.reference (metadataText name) (.metadata (metadataRef name))).Fits options :=
    ⟨_, .metadata hmetadata hclose hinner, rfl⟩
  obtain ⟨e, he, hvalue⟩ := Token.parse_of_readable (.reference hfits .nil)
  rw [Token.textAll_cons, Token.textAll_nil, List.append_nil] at he
  refine ⟨e, he, fun s item => (hvalue s item).trans ?_⟩
  simp only [List.map_cons, List.map_nil, Token.segment, evalSegments, evalSegment, pure_bind,
    String.append_empty, bind_pure]

/-! ## Stages -/

/-- Transforms behind transforms. -/
theorem isTransform_stages_append {a b : List Char}
    (ha : ∀ stage ∈ (⟨0, a⟩ : Rest).stages, stage.isTransform = true)
    (hb : ∀ stage ∈ (⟨0, b⟩ : Rest).stages, stage.isTransform = true) :
    ∀ stage ∈ (⟨0, a ++ b⟩ : Rest).stages, stage.isTransform = true := by
  have hreads := Rest.readsStages_append 0 ha
    fun stage h => RawStage.isFault_of_isTransform (hb stage h)
  rw [hreads.stages_eq, Rest.stages_at (0 + Chars.byteLength a)]
  intro stage hstage
  rcases List.mem_append.1 hstage with hstage | hstage
  · exact ha stage hstage
  · obtain ⟨raw, hraw, rfl⟩ := List.mem_map.1 hstage
    rw [RawStage.isTransform_shift, hb raw hraw]

/-- A call as a stage of an item list. -/
def callStage (name inside : List Char) : List Char := '-' :: '>' :: applied name inside

/-- A pattern as a stage of an item list. -/
def patternStage (q : Char) (value : List Char) : List Char :=
  '-' :: '>' :: (q :: value ++ [q])

/-- A transform that is written is the only stage of its text. -/
theorem stages_of_written {part : ListPart} {cs : List Char} (h : part.Written cs)
    (hpart : part.isSeparator = false) :
    ∃ stage, (⟨0, cs⟩ : Rest).stages = [stage] ∧ stage.part? = some part := by
  obtain ⟨stage, last, hstage, hsays⟩ :=
    @Rest.stageReads_of_written false part cs h (fun _ => hpart) 0 []
  rw [List.append_nil] at hstage
  have hskip : (⟨0, cs⟩ : Rest).skipBlanks = ⟨0, cs⟩ := by
    cases h <;> rfl
  refine ⟨stage, ?_, hsays⟩
  exact (Rest.ReadsStages.cons (by rwa [hskip]) (.nil rfl)).stages_eq

section

variable {name inside : List Char} (hname : Chars.name? false name = some (name, []))
  (hinside : Chars.Closes '(' ')' { depth := 1 } inside)

include hname hinside

theorem stages_callStage : ∃ span place start, place.text = String.ofList name ∧
    (⟨0, callStage name inside⟩ : Rest).stages = [.function span place ⟨start, inside⟩] := by
  have hgap : Chars.Gap [] := by simp [Chars.Gap]
  have hwritten := ListPart.Written.function hgap hname hgap hinside
  obtain ⟨stage, hstages, hsays⟩ := stages_of_written hwritten rfl
  cases stage with
  | function span place arguments =>
    obtain ⟨start, cs⟩ := arguments
    obtain ⟨hplace, rfl⟩ := ListPart.function.inj (Option.some.inj hsays)
    refine ⟨span, place, start, by rw [← hplace, String.ofList_toList], ?_⟩
    simpa [callStage, applied] using hstages
  | pattern span value => cases hsays
  | separator value => cases hsays
  | fault fault => cases hsays

theorem isTransform_callStage :
    ∀ stage ∈ (⟨0, callStage name inside⟩ : Rest).stages, stage.isTransform = true := by
  obtain ⟨_, _, _, -, hstages⟩ := stages_callStage hname hinside
  rw [hstages]
  exact List.forall_mem_singleton.2 rfl

/-- A call as a stage is read as its arguments are. -/
theorem readParts_callStage (options : Options) :
    ∃ span place start, place.text = String.ofList name ∧
      readParts options (callStage name inside) =
        (readArguments (listOptions options) inside).toOption.map fun as =>
          ([.function span place (Argument.shiftAll start as)], none) := by
  obtain ⟨span, place, start, hplace, hstages⟩ := stages_callStage hname hinside
  have hlength : inside.length < (callStage name inside).length + 1 := by
    simp only [callStage, applied, List.length_append, List.length_cons]
    omega
  refine ⟨span, place, start, hplace, ?_⟩
  rw [readParts, hstages, List.foldlM_cons, Except.toOption_bind, parseStage,
    Except.toOption_bind, toOption_parseArguments_at start hlength, Except.toOption_map]
  cases (readArguments (listOptions options) inside).toOption <;> rfl

end

section

variable {q : Char} (hq : isQuote q = true) {value : List Char} (hvalue : q ∉ value)

include hq hvalue

theorem stages_patternStage : ∃ span start,
    (⟨0, patternStage q value⟩ : Rest).stages = [.pattern span ⟨start, value⟩] := by
  have hgap : Chars.Gap [] := by simp [Chars.Gap]
  obtain ⟨stage, hstages, hsays⟩ := stages_of_written (.pattern hgap hq hvalue) rfl
  cases stage with
  | pattern span value =>
    obtain ⟨start, cs⟩ := value
    obtain rfl := ListPart.pattern.inj (Option.some.inj hsays)
    exact ⟨span, start, hstages⟩
  | function span place arguments => cases hsays
  | separator value => cases hsays
  | fault fault => cases hsays

theorem isTransform_patternStage :
    ∀ stage ∈ (⟨0, patternStage q value⟩ : Rest).stages, stage.isTransform = true := by
  obtain ⟨_, _, hstages⟩ := stages_patternStage hq hvalue
  rw [hstages]
  exact List.forall_mem_singleton.2 rfl

/-- A pattern as a stage is read as its text is. -/
theorem readParts_patternStage (options : Options) :
    ∃ span start, readParts options (patternStage q value) =
      (parse (listOptions options) (String.ofList value)).toOption.map fun e =>
        ([.pattern span (e.shift start)], none) := by
  obtain ⟨span, start, hstages⟩ := stages_patternStage hq hvalue
  have hlength : value.length < (patternStage q value).length + 1 := by
    simp only [patternStage, List.length_append, List.length_cons]
    omega
  refine ⟨span, start, ?_⟩
  rw [readParts, hstages, List.foldlM_cons, Except.toOption_bind, parseStage,
    Except.toOption_bind, parseUpTo_at start _ hlength, Except.toOption_map]
  cases (parse (listOptions options) (String.ofList value)).toOption <;> rfl

end

end Expression

end BuildExpr
