import BuildExpr.Proofs.Expansion.Typed
import BuildExpr.Proofs.Expression.Calls

/-!
# Passing references to functions

A property reference outside of quotes is an argument that keeps the type of its value. As the only
argument of a call it is read as it is on its own (`parseArguments_reference`), whatever quotes,
commas and brackets it has, and a function that takes it as text gets the text that the reference
expands to. So copying that text gives it back (`expand_copy`).
-/

namespace BuildExpr

namespace Expression

variable (read : Reader) (options : Options)

/-- Arguments are read in the same way inside an argument. -/
theorem parseProperty_argumentOptions (ref : Span) (body : Rest) :
    parseProperty read (argumentOptions options) ref body = parseProperty read options ref body :=
  rfl

/-- A reference is the only argument of its own text. -/
theorem parseArguments_reference (ref : Span) (pos : Nat) {body : List Char}
    (hbody : Chars.Closes '(' ')' { depth := 1 } body) :
    parseArguments read options ref ⟨pos, referenceText body⟩ =
      (read (argumentOptions options) ⟨pos, referenceText body⟩).map fun e => [.bare e] := by
  have htrimmed : (⟨pos, referenceText body⟩ : Rest).trimmed = ⟨pos, referenceText body⟩ :=
    Rest.trimmed_eq_self (c := '$') rfl rfl pos ('(' :: body)
  have huncut : Chars.Uncut (referenceText body) :=
    (Chars.Uncut.single (c := '$') rfl (by decide) (by decide) (by decide)).append
      (.group .round hbody)
  have hpieces : (⟨pos, referenceText body⟩ : Rest).splitArguments =
      some [⟨pos, referenceText body⟩] := by
    rw [Rest.splitArguments, huncut.splitArguments_eq]
    rfl
  have hwhole : (⟨pos, referenceText body⟩ : Rest).trimmed.quotedWhole? = none := by
    rw [htrimmed]
    rfl
  have hnull : ¬(⟨pos, referenceText body⟩ : Rest).trimmed.span.text = "null" := by
    rw [htrimmed]
    intro h
    have hhead := congrArg (fun s : String => s.toList.head?) h
    simp [Rest.span, referenceText] at hhead
  have hfilled : (⟨pos, referenceText body⟩ : Rest).trimmed.isEmpty = false := by
    rw [htrimmed]
    rfl
  rw [parseArguments_of_pieces read options ref hfilled hpieces, List.mapM_cons, List.mapM_nil,
    parseArgument_of_not_whole hwhole, if_neg hnull, htrimmed]
  cases read (argumentOptions options) ⟨pos, referenceText body⟩ <;> rfl

theorem closes_referenceText {body : List Char} (hbody : Chars.Closes '(' ')' { depth := 1 } body) :
    Chars.Closes '(' ')' { depth := 1 } (referenceText body) :=
  ((Chars.Balanced.single (c := '$') rfl (by decide) (by decide)).append (.group hbody)).closes

/-- A reference is read as the argument of a call as it is on its own. -/
theorem parse_call_reference {options : Options} (hproperties : options.properties = true)
    {type member body : List Char} (htype : IsTypeName type)
    (hmember : Chars.name? false member = some (member, []))
    (hbody : Chars.Closes '(' ')' { depth := 1 } body) {e : Expression}
    (he : parse options (String.ofList (referenceText body)) = .ok e) :
    ∃ (k : Nat) (ref typeName method name : Span), typeName.text = String.ofList type ∧
      name.text = String.ofList member ∧
      parse options (String.ofList (referenceText (callText type member (referenceText body)))) =
        .ok (referenceTree 0 (callText type member (referenceText body))
          (.chain ref (.type typeName) [.method method name [.bare (e.shift k)]])) := by
  obtain ⟨k, ref, typeName, method, name, htypeName, hname, hcall⟩ :=
    parse_call hproperties htype hmember (closes_referenceText hbody)
  refine ⟨k, ref, typeName, method, name, htypeName, hname, hcall _ ?_⟩
  -- the reference is read with the options of an argument, which change nothing inside it
  have halone : parseUpTo ((referenceText body).length + 1) (argumentOptions options)
      ⟨0, referenceText body⟩ = .ok e := by
    have hargument : (argumentOptions options).properties = true := hproperties
    rw [parse_reference hproperties hbody] at he
    rw [parseUpTo, parseLevel_reference _ hargument hbody, parseProperty_argumentOptions]
    exact he
  have hlength : (referenceText body).length <
      min ((referenceText body).length + 1)
        (referenceText (callText type member (referenceText body))).length := by
    simp only [referenceText, callText, List.length_cons, List.length_append]
    omega
  have hagree := agree_parseUpTo k _ _ (argumentOptions options) ⟨0, referenceText body⟩ hlength
  rw [halone, Rest.shift, Nat.zero_add] at hagree
  rw [parseArguments_reference _ _ _ _ hbody, hagree]
  rfl

end Expression

open Eval

/-! ## Values -/

/-- `Copy` is found whether or not the extended table is open. -/
theorem resolveStatic_copy (opened : Bool) :
    FunctionTable.resolveStatic opened "System.String" "Copy" 1 =
      .ok (.pure "system.string" "copy" 1 1 TextFunctions.copy) := by
  have htype : FunctionTable.typeKey "System.String" = "system.string" := by decide +kernel
  have hmember : FunctionTable.memberKey "Copy" = "copy" := by decide +kernel
  refine FunctionTable.resolveStatic_of_closed ?_ opened
  rw [FunctionTable.resolveStatic_eq_ok, htype, hmember]
  exact ⟨rfl, rfl⟩

/-- Copying a value gives its text. -/
theorem result_callStatic_copy (s : Setting) (expression : String) (v : Value) (w : World) :
    (s.callStatic expression "System.String" "Copy" [v]).result w =
      (.ok (.text v.display), w) := by
  rw [Setting.callStatic, List.length_singleton, resolveStatic_copy]
  rfl

namespace Expander

variable {x : Expander} {options : Options} {lookup : Lookup}

/-- A lone property reference expands to the text of its outcome. -/
theorem result_expand_reference (htruncate : options.truncate = false) {text : String}
    {e : Expression} {p : Property} (he : Expression.parse options text = .ok e)
    (hp : e.singleProperty? = some p) {t : String} {w w' : World} :
    (x.expand text options lookup).result w = (.ok t, w') ↔
      ∃ o, (evalProperty (x.setting options lookup w) none p).result w = (.ok o, w') ∧
        o.argument.display = t := by
  have hs : (x.setting options lookup w).options.truncate = false := htruncate
  have hvalue : evalExpression (x.setting options lookup w) none e =
      Outcome.escaped <$> evalProperty (x.setting options lookup w) none p := by
    rw [evalExpression_eq_map hs, evalOutcome, hp]
  have hescaped (t : String) : (x.expandEscaped text options lookup).result w = (.ok t, w') ↔
      ∃ o, (evalProperty (x.setting options lookup w) none p).result w = (.ok o, w') ∧
        o.escaped = t := by
    rw [result_expandEscaped_eq he, result_eval_eq_ok, hvalue, map_eq_pure_bind,
      result_bind_eq_ok]
    constructor
    · rintro ⟨o, w₁, ho, hreturn⟩
      cases hreturn
      exact ⟨o, ho, rfl⟩
    · rintro ⟨o, ho, rfl⟩
      exact ⟨o, w', ho, rfl⟩
  rw [expand, result_bind_eq_ok]
  constructor
  · rintro ⟨escaped, w₁, hresult, hreturn⟩
    cases hreturn
    obtain ⟨o, ho, rfl⟩ := (hescaped escaped).1 hresult
    exact ⟨o, ho, o.display_argument⟩
  · rintro ⟨o, ho, rfl⟩
    refine ⟨o.escaped, w', (hescaped _).2 ⟨o, ho, rfl⟩, ?_⟩
    rw [← o.display_argument]
    rfl

/-- The outcome of a call that copies a reference. -/
theorem result_evalProperty_copy {s : Setting} {ref typeName method name : Span}
    (htypeName : typeName.text = "System.String") (hname : name.text = "Copy") {e : Expression}
    {p : Property} (hp : e.singleProperty? = some p) (k : Nat) {o : Outcome} {w w' : World}
    (ho : (evalProperty s none p).result w = (.ok o, w')) :
    (evalProperty s none (.chain ref (.type typeName)
      [.method method name [.bare (e.shift k)]])).result w =
        (.ok (.value (.text o.argument.display)), w') := by
  have hargument : (evalArgument s none (.bare (e.shift k))).result w = (.ok o.argument, w') := by
    have hshift := evalArgument_shift s k none (.bare e)
    rw [Argument.shift] at hshift
    rw [hshift]
    obtain ⟨span, segments⟩ := e
    obtain rfl : segments = [.property p] := Expression.eq_of_singleProperty? hp
    exact result_bind_eq_ok.2 ⟨o, w', ho, rfl⟩
  have harguments : (evalArguments s none [.bare (e.shift k)]).result w =
      (.ok [o.argument], w') :=
    result_bind_eq_ok.2 ⟨_, _, hargument, rfl⟩
  rw [evalProperty, htypeName, evalStatic, hname]
  exact result_bind_eq_ok.2 ⟨_, _, harguments,
    result_bind_eq_ok.2 ⟨_, _, result_callStatic_copy s _ _ w', rfl⟩⟩

end Expander

/-- Passing a property reference to a function loses nothing: a text that is read as a single
property reference and expands to a text is expanded to the same text when it is the argument of a
call that copies its argument. -/
theorem expand_copy {x : Expander} {options : Options} {lookup : Lookup}
    (hproperties : options.properties = true) (htruncate : options.truncate = false)
    {text : String} {e : Expression} {p : Property} (he : Expression.parse options text = .ok e)
    (hp : e.singleProperty? = some p) {t : String} {w w' : World}
    (h : (x.expand text options lookup).result w = (.ok t, w')) :
    (x.expand ("$([System.String]::Copy(" ++ text ++ "))") options lookup).result w =
      (.ok t, w') := by
  obtain ⟨o, ho, rfl⟩ := (Expander.result_expand_reference htruncate he hp).1 h
  obtain ⟨body, rfl, hbody⟩ := Expression.exists_body he hp
  have htype : Expression.IsTypeName "System.String".toList :=
    ⟨by decide, by decide, by simp [isQuote]⟩
  have hmember : Chars.name? false "Copy".toList = some ("Copy".toList, []) := by decide
  obtain ⟨k, ref, typeName, method, name, htypeName, hname, hcall⟩ :=
    Expression.parse_call_reference hproperties htype hmember hbody he
  have htext : "$([System.String]::Copy(" ++ String.ofList (Expression.referenceText body) ++ "))" =
      String.ofList (Expression.referenceText (Expression.callText "System.String".toList
        "Copy".toList (Expression.referenceText body))) := by
    refine String.toList_injective ?_
    simp [Expression.referenceText, Expression.callText]
  rw [htext]
  exact (Expander.result_expand_reference htruncate hcall rfl).2
    ⟨_, Expander.result_evalProperty_copy htypeName hname hp k ho, rfl⟩

theorem expand_copy_of_array :
    ∃ w, (({} : Expander).expand "$(A.Split(',)'))" .all
        { scopes := [.ofDocument [("A", "x%3by, (z)")] []] }).result .bare = (.ok "x;y; (z;", w) ∧
      (({} : Expander).expand ("$([System.String]::Copy(" ++ "$(A.Split(',)'))" ++ "))") .all
        { scopes := [.ofDocument [("A", "x%3by, (z)")] []] }).result .bare =
          (.ok "x;y; (z;", w) := by
  have hread : (Expression.parse .all "$(A.Split(',)'))").toOption.map
      (fun e => e.singleProperty?.isSome) = some true := by
    decide +kernel
  have hvalue : (({} : Expander).expand "$(A.Split(',)'))" .all
      { scopes := [.ofDocument [("A", "x%3by, (z)")] []] } |>.result .bare).1.toOption =
        some "x;y; (z;" := by
    decide +kernel
  obtain ⟨e, he, hsingle⟩ := Option.map_eq_some_iff.1 hread
  obtain ⟨p, hp⟩ := Option.isSome_iff_exists.1 hsingle
  obtain ⟨w, hresult⟩ := exists_of_toOption hvalue
  exact ⟨w, hresult, expand_copy rfl rfl (Except.toOption_eq_some.1 he) hp hresult⟩

end BuildExpr
