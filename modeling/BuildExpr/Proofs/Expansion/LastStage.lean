import BuildExpr.Proofs.Evaluation.Matching
import BuildExpr.Proofs.Expansion.ListElements
import BuildExpr.Proofs.Expression.StageTexts

/-!
# The last stage of an item list

The entries of a lone item list are those of its last stage, started from the entries and in the
surroundings that the stages before it leave (`listed?_append`). For a call that is one run of its
function (`listed?_callStage`), and for a pattern the value of its text for each entry
(`listed?_patternStage`). What a list without a separator expands to are the texts of its entries
(`answer?_expandEscaped_listText`).

A stage knows the text of the list that it is part of, and its own text, for its reports only. So
the same stages give the same entries in whatever list they are written
(`matches_evalTransforms_respelled`).
-/

namespace BuildExpr

/-! ## Where a stage is written -/

section

variable {entries : List Entry}

namespace ItemCall

/-! ## Over all entries -/

theorem matches_replaceEach_congr {f g : Entry → Except Diagnostic (List Entry)}
    (h : ∀ e, Except.Matches (· = ·) (f e) (g e)) (entries : List Entry) :
    Except.Matches (· = ·) (replaceEach f entries) (replaceEach g entries) := by
  induction entries with
  | nil => exact .ok rfl
  | cons e entries ih =>
    refine (h e).bind ?_
    rintro first _ rfl
    refine ih.bind ?_
    rintro others _ rfl
    exact .ok rfl

theorem matches_keep_congr {test test' : Entry → Except Diagnostic Bool}
    (h : ∀ e, Except.Matches (· = ·) (test e) (test' e)) (entries : List Entry) :
    Except.Matches (· = ·) (keep test entries) (keep test' entries) := by
  induction entries with
  | nil => exact .ok rfl
  | cons e entries ih =>
    refine (h e).bind ?_
    rintro kept _ rfl
    refine ih.bind ?_
    rintro others _ rfl
    exact .ok rfl

theorem matches_anyPasses_congr {test test' : Entry → Except Diagnostic Bool}
    (h : ∀ e, Except.Matches (· = ·) (test e) (test' e)) (entries : List Entry) :
    Except.Matches (· = ·) (anyPasses test entries) (anyPasses test' entries) := by
  induction entries with
  | nil => exact .ok rfl
  | cons e entries ih =>
    refine (h e).bind ?_
    rintro passed _ rfl
    cases passed with
    | true => exact .ok rfl
    | false => exact ih

/-! ## On one entry -/

section One

variable (call call' : ItemCall) {s : Setting} {w : World}

theorem similar_self (e : Entry) : e.Similar (· = ·) e := .refl (fun _ => rfl) e

theorem matches_spreadMetadata_self (name : String) (e : Entry) :
    Except.Matches (· = ·) (call.spreadMetadata w name e) (call'.spreadMetadata w name e) := by
  refine (matches_metadataValue call call' (similar_self e)).bind ?_
  rintro value _ rfl
  exact .refl _

theorem matches_directoryOf_self (e : Entry) :
    Except.Matches (· = ·) (call.directoryOf s w e) (call'.directoryOf s w e) := by
  refine (matches_operand call call' _).bind ?_
  rintro p _ rfl
  exact .ok rfl

theorem matches_directoriesAbove_self (e : Entry) :
    Except.Matches (· = ·) (call.directoriesAbove s w e) (call'.directoriesAbove s w e) := by
  refine (matches_operand call call' _).bind ?_
  rintro p _ rfl
  exact .ok rfl

theorem matches_computed_self (name : Reserved) (e : Entry) :
    Except.Matches (· = ·) (call.computed w name e) (call'.computed w name e) := by
  refine (matches_operand call call' _).bind ?_
  rintro value _ rfl
  exact .ok rfl

theorem matches_memberOf_self (f : Function) (args : List Value) (e : Entry) :
    Except.Matches (· = ·) (call.memberOf s w f args e) (call'.memberOf s w f args e) := by
  rw [memberOf, memberOf]
  split
  · exact .ok rfl
  · exact .error ⟨rfl, rfl⟩

end One

/-! ## All of them -/

/-- A function over items of a type gives the same entries wherever it is called. -/
theorem matches_run_respelled {call call' : ItemCall} (hname : call.name = call'.name)
    (htype : call.itemType = call'.itemType) (s : Setting) (w : World) (args : List Value)
    (entries : List Entry) :
    Except.Matches (· = ·) (call.run s w args entries) (call'.run s w args entries) := by
  have hcount (arity : Nat) := matches_checkCount call call' args arity
  rw [run, run, hname]
  cases ItemFunction.ofName call'.name with
  | count | reverse => exact (hcount 0).bind fun _ _ _ => .refl _
  | combine => exact (hcount 1).bind fun _ _ _ => .refl _
  | distinct caseMatters =>
    refine (hcount 0).bind fun _ _ _ => ?_
    cases caseMatters <;> exact .refl _
  | metadata =>
    exact (hcount 1).bind fun _ _ _ =>
      matches_replaceEach_congr (matches_spreadMetadata_self call call' _) entries
  | directoryName =>
    exact (hcount 0).bind fun _ _ _ =>
      matches_replaceEach_congr (matches_directoryOf_self call call') _
  | existing =>
    exact (hcount 0).bind fun _ _ _ =>
      matches_keep_congr (fun e => matches_isThere call call' (similar_self e)) _
  | directoriesAbove =>
    refine (hcount 0).bind fun _ _ _ =>
      (matches_replaceEach_congr (matches_directoriesAbove_self call call') _).bind ?_
    rintro made _ rfl
    exact .ok rfl
  | anyHaveMetadataValue =>
    refine (hcount 2).bind fun _ _ _ =>
      (matches_anyPasses_congr (fun e => matches_hasValue call call' (similar_self e)) _).bind ?_
    rintro found _ rfl
    exact .ok rfl
  | hasMetadata =>
    refine (hcount 1).bind fun _ _ _ => matches_keep_congr (fun e => ?_) entries
    refine (matches_metadataValue call call' (similar_self e)).bind ?_
    rintro value _ rfl
    exact .ok rfl
  | metadataValue wanted =>
    refine (hcount 2).bind fun _ _ _ => matches_keep_congr (fun e => ?_) entries
    refine (matches_hasValue call call' (similar_self e)).bind ?_
    rintro found _ rfl
    exact .ok rfl
  | clearMetadata =>
    refine (hcount 0).bind fun _ _ _ => .ok (List.map_congr_left fun e _ => ?_)
    rw [cleared, cleared, htype]
  | reserved name =>
    exact (hcount 0).bind fun _ _ _ =>
      matches_replaceEach_congr (matches_computed_self call call' name) _
  | member =>
    have hsimilar : call.Similar (· = ·) call' := ⟨hname ▸ Text.eqIgnoreCase_self _, htype⟩
    refine (matches_resolve hsimilar args).bind ?_
    rintro f _ rfl
    exact matches_replaceEach_congr (matches_memberOf_self call call' f args) entries

end ItemCall

/-- Stages give the same entries in whatever list they are written. -/
theorem matches_evalTransforms_respelled (s : Setting) (item : Option Item)
    (list list' itemType : String) (entries : List Entry) (transforms : List Transform) :
    Eval.Matches (· = ·) (evalTransforms s item list itemType entries transforms)
      (evalTransforms s item list' itemType entries transforms) := by
  induction transforms generalizing entries with
  | nil => exact .refl _
  | cons t transforms ih =>
    cases t with
    | pattern span value =>
      rw [evalTransforms, evalTransforms]
      exact (Eval.Matches.refl _).bind_eq fun made => ih _
    | function span name arguments =>
      rw [evalTransforms, evalTransforms]
      refine (Eval.Matches.refl _).bind_eq fun args => ?_
      refine (Eval.Matches.look fun w => ?_).bind_eq fun made => ih made
      exact ItemCall.matches_run_respelled (by rfl) (by rfl) s w args entries

end

namespace Eval

variable {α β : Type}

/-- The value of an evaluation and the surroundings after it, unless it fails. -/
def answer? (f : Eval α) (w : World) : Option (α × World) :=
  (f.result w).1.toOption.map fun a => (a, (f.result w).2)

theorem map_fst_answer? (f : Eval α) (w : World) :
    (f.answer? w).map Prod.fst = (f.result w).1.toOption := by
  rw [answer?]
  cases (f.result w).1 <;> rfl

theorem answer?_eq_some {f : Eval α} {a : α} {w w' : World} :
    f.answer? w = some (a, w') ↔ f.result w = (.ok a, w') := by
  rw [answer?]
  rcases f.result w with ⟨d | b, w₁⟩ <;> simp [Except.toOption]

@[simp] theorem answer?_pure (a : α) (w : World) : answer? (pure a) w = some (a, w) := rfl

theorem answer?_bind (f : Eval α) (g : α → Eval β) (w : World) :
    (f >>= g).answer? w = (f.answer? w).bind fun p => (g p.1).answer? p.2 := by
  rw [answer?, answer?, result_bind]
  rcases f.result w with ⟨d | a, w₁⟩ <;> rfl

theorem answer?_look (f : World → Except Diagnostic α) (w : World) :
    (look f).answer? w = (f w).toOption.map fun a => (a, w) := by
  rw [answer?, result_look]

/-- Evaluations that match have one answer. -/
theorem Matches.answer?_eq {f g : Eval α} (h : Matches (· = ·) f g) (w : World) :
    f.answer? w = g.answer? w := by
  refine Option.ext fun p => ?_
  obtain ⟨a, w'⟩ := p
  exact answer?_eq_some.trans (h.result_eq_ok_iff.trans answer?_eq_some.symm)

end Eval

/-- Entries with new texts, each of which may depend on the item that answers for its entry. -/
def Entries.retext (value : Item → Eval String) (entries : List Entry) : Eval (List Entry) :=
  entries.mapM fun e => do return { e with text := ← value e.metadataItem }

namespace Expander

open Eval Expression

/-- The entries of a text that is a lone item list and the surroundings that they leave. -/
def listed? (x : Expander) (text : String) (options : Options) (lookup : Lookup) (w : World) :
    Option (List Entry × World) :=
  ((Expression.parse options text).toOption.bind Expression.singleItems?).bind fun list =>
    (evalEntries (x.setting options lookup w) list).answer? w

variable {x : Expander} {options : Options} {lookup : Lookup} {w : World}

theorem map_fst_listed? (text : String) :
    (x.listed? text options lookup w).map Prod.fst = x.entries? text options lookup w := by
  rw [listed?, entries?, Option.map_bind]
  exact congrArg _ (funext fun list => map_fst_answer? _ _)

/-- The entries of an item list whose stages are read. -/
theorem listed?_of_parse {itemType cs : List Char}
    {parts? : Option (List Transform × Option Expression)}
    (h : (Expression.parse options (String.ofList (listText itemType cs))).toOption =
      parts?.map (listTree itemType cs)) :
    x.listed? (String.ofList (listText itemType cs)) options lookup w =
      parts?.bind fun parts =>
        (evalTransforms (x.setting options lookup w) none (String.ofList (listText itemType cs))
          (String.ofList itemType) ((x.setting options lookup w).entries (String.ofList itemType))
          parts.1).answer? w := by
  rw [listed?, h]
  cases parts? <;> rfl

section

variable (hitems : options.items = true) {itemType : List Char}
  (htype : Chars.name? true itemType = some (itemType, []))

include hitems htype

theorem listed?_listText {cs : List Char}
    (hcs : ∀ stage ∈ (⟨0, cs⟩ : Rest).stages, stage.isTransform = true) :
    x.listed? (String.ofList (listText itemType cs)) options lookup w =
      (readParts options cs).bind fun parts =>
        (evalTransforms (x.setting options lookup w) none (String.ofList (listText itemType cs))
          (String.ofList itemType) ((x.setting options lookup w).entries (String.ofList itemType))
          parts.1).answer? w := by
  have hread := toOption_parse_listText hitems htype
    fun stage hstage => RawStage.isFault_of_isTransform (hcs stage hstage)
  rw [← Function.comp_def, ← Option.map_map] at hread
  rw [listed?_of_parse hread, Option.bind_map]
  refine congrArg _ (funext fun parts => ?_)
  simp only [Function.comp_apply, Agree.shiftParts, evalTransforms_map_shift]

/-- The entries of stages behind a chain are what they make of the entries of the chain. -/
theorem listed?_append {a b : List Char}
    (ha : ∀ stage ∈ (⟨0, a⟩ : Rest).stages, stage.isTransform = true)
    (hb : ∀ stage ∈ (⟨0, b⟩ : Rest).stages, stage.isTransform = true) :
    x.listed? (String.ofList (listText itemType (a ++ b))) options lookup w =
      (x.listed? (String.ofList (listText itemType a)) options lookup w).bind fun p =>
        (readParts options b).bind fun parts =>
          (evalTransforms (x.setting options lookup w) none
            (String.ofList (listText itemType (a ++ b))) (String.ofList itemType) p.1
            parts.1).answer? p.2 := by
  have hread := toOption_parse_listText_append hitems htype ha
    fun stage hstage => RawStage.isFault_of_isTransform (hb stage hstage)
  have hboth : (Expression.parse options (String.ofList (listText itemType (a ++ b)))).toOption =
      ((readParts options a).bind fun p => (readParts options b).map fun q =>
        (p.1.map (Transform.shift (2 + Chars.byteLength itemType)) ++
            q.1.map (Transform.shift (2 + Chars.byteLength itemType + Chars.byteLength a)),
          q.2.map (Expression.shift (2 + Chars.byteLength itemType + Chars.byteLength a)))).map
        (listTree itemType (a ++ b)) := by
    rw [hread, Option.map_bind]
    simp only [Function.comp_def, Option.map_map]
  rw [listed?_of_parse hboth, listed?_listText hitems htype ha]
  cases readParts options a with
  | none => rfl
  | some p =>
    cases readParts options b with
    | none =>
      simp only [Option.bind_some, Option.map_none, Option.bind_none]
      exact (Option.bind_fun_none _).symm
    | some q =>
      have hrespelled := (matches_evalTransforms_respelled (x.setting options lookup w) none
        (String.ofList (listText itemType (a ++ b))) (String.ofList (listText itemType a))
        (String.ofList itemType) ((x.setting options lookup w).entries (String.ofList itemType))
        p.1).answer?_eq w
      simp only [Option.bind_some, Option.map_some, evalTransforms_append, answer?_bind,
        evalTransforms_map_shift, hrespelled]

/-- What an item list without a separator expands to are the texts of its entries. -/
theorem answer?_expandEscaped_listText {cs : List Char}
    (hcs : ∀ stage ∈ (⟨0, cs⟩ : Rest).stages, stage.isTransform = true) :
    (x.expandEscaped (String.ofList (listText itemType cs)) options lookup).answer? w =
      (x.listed? (String.ofList (listText itemType cs)) options lookup w).map fun p =>
        (Text.join ";" (options.shown (p.1.map Entry.text)), p.2) := by
  have hread := toOption_parse_listText hitems htype
    fun stage hstage => RawStage.isFault_of_isTransform (hcs stage hstage)
  rw [listed?_listText hitems htype hcs]
  refine Option.ext fun p => ?_
  obtain ⟨t, w'⟩ := p
  rw [answer?_eq_some]
  cases hparts : readParts options cs with
  | none =>
    rw [hparts, Option.map_none] at hread
    exact iff_of_false (expandEscaped_ne_ok_of_parse hitems hread t w') (by simp)
  | some parts =>
    rw [hparts, Option.map_some] at hread
    have hnone : parts.2 = none := separator_of_transforms hcs (Except.toOption_eq_some.1 hparts)
    obtain ⟨transforms, separator⟩ := parts
    obtain rfl : separator = none := hnone
    rw [result_expandEscaped_listText_iff hitems (Except.toOption_eq_some.1 hread),
      pipeline_shift, ← answer?_eq_some, Setting.pipeline, answer?_bind, Option.bind_some]
    simp only [Setting.joined, Option.elim_none, Entries.join_pure, answer?_pure,
      Setting.map_text_shownEntries]
    rw [Option.map_eq_bind]
    rfl

end

/-! ## One stage -/

section

variable (hitems : options.items = true) {itemType : List Char}
  (htype : Chars.name? true itemType = some (itemType, [])) {a : List Char}
  (ha : ∀ stage ∈ (⟨0, a⟩ : Rest).stages, stage.isTransform = true)

include hitems htype ha

/-- The entries of a call behind a chain are those of one run of its function. -/
theorem listed?_callStage {name inside : List Char}
    (hname : Chars.name? false name = some (name, []))
    (hinside : Chars.Closes '(' ')' { depth := 1 } inside) {as : List Argument}
    (has : readArguments (listOptions options) inside = .ok as) {args : List Value}
    (hargs : ∀ s item, evalArguments s item as = pure args) :
    ∃ call : ItemCall, call.name = String.ofList name ∧
      x.listed? (String.ofList (listText itemType (a ++ callStage name inside))) options lookup w =
        (x.listed? (String.ofList (listText itemType a)) options lookup w).bind fun p =>
          (call.run (x.setting options lookup w) p.2 args p.1).toOption.map fun made =>
            (made, p.2) := by
  obtain ⟨span, place, start, hplace, hread⟩ := readParts_callStage hname hinside options
  refine ⟨⟨String.ofList (listText itemType (a ++ callStage name inside)), String.ofList itemType,
    span.text, place.text⟩, hplace, ?_⟩
  rw [listed?_append hitems htype ha (isTransform_callStage hname hinside), hread, has]
  refine congrArg _ (funext fun p => ?_)
  simp only [Except.toOption, Option.map_some, Option.bind_some, evalTransforms,
    evalArguments_shift, hargs, pure_bind, bind_pure, answer?_look]

/-- The entries of a call with quoted texts as its arguments, none of which mentions anything. -/
theorem listed?_callStage_quoted {name : List Char} (hname : Chars.name? false name = some (name, []))
    {q : Char} (hq : isQuote q = true) {values : List (List Char)}
    (hvalues : ∀ value ∈ values, q ∉ value ∧ Chars.Inert value) :
    ∃ call : ItemCall, call.name = String.ofList name ∧
      x.listed? (String.ofList (listText itemType
          (a ++ callStage name (Chars.quotedList q values)))) options lookup w =
        (x.listed? (String.ofList (listText itemType a)) options lookup w).bind fun p =>
          (call.run (x.setting options lookup w) p.2
            (values.map fun value => .text (Text.unescape (String.ofList value))) p.1).toOption.map
              fun made => (made, p.2) := by
  have hcloses := Chars.balanced_quotedList hq fun value hvalue => (hvalues value hvalue).1
  obtain ⟨as, has, hargs⟩ := @exists_readArguments_quotedList (listOptions options) q hq values hvalues
  exact listed?_callStage hitems htype ha hname hcloses.closes has hargs

/-- The entries of a pattern behind a chain are the values of its text for each entry. -/
theorem listed?_patternStage {q : Char} (hq : isQuote q = true) {value : List Char}
    (hvalue : q ∉ value) {e : Expression}
    (he : Expression.parse (listOptions options) (String.ofList value) = .ok e) :
    x.listed? (String.ofList (listText itemType (a ++ patternStage q value))) options lookup w =
      (x.listed? (String.ofList (listText itemType a)) options lookup w).bind fun p =>
        ((Entries.retext (fun item => evalExpression (x.setting options lookup w) (some item) e)
          p.1).answer? p.2).map fun made => (Entries.filled made.1, made.2) := by
  obtain ⟨span, start, hread⟩ := readParts_patternStage hq hvalue options
  rw [listed?_append hitems htype ha (isTransform_patternStage hq hvalue), hread, he]
  refine congrArg _ (funext fun p => ?_)
  simp only [Except.toOption, Option.map_some, Option.bind_some, evalTransforms,
    evalExpression_shift, answer?_bind, answer?_pure]
  rw [Option.map_eq_bind]
  rfl

end

end Expander

end BuildExpr
