import BuildExpr.Proofs.Evaluation.Matching
import BuildExpr.Proofs.Expansion.Passing

/-!
# The two forms of a registry read

`$(Registry:Key@Name)` and `$([MSBuild]::GetRegistryValue('Key', 'Name'))` both read a value of the
default view and show it in the same way, and both report a bad key as a bad operand. They do not
read the same texts: the first takes the key and the name as they stand (`readsRegistry_reference`),
while the second gets arguments, which are unescaped first (`readsRegistry_call`). So they agree on
the texts for which the registry has one answer, escaped or not (`registry_forms_agree_iff`).
-/

namespace BuildExpr

namespace Expression

/-- A registry key or the name of a value as both forms may have it. -/
def IsRegistryText (cs : List Char) : Prop := ∀ c ∈ cs, isQuote c = false ∧ c ∉ ['(', ')', '@']

namespace IsRegistryText

variable {cs : List Char}

theorem plain (h : IsRegistryText cs) : ∀ c ∈ cs, isQuote c = false ∧ c ≠ '(' ∧ c ≠ ')' := by
  intro c hc
  obtain ⟨hquote, hmarks⟩ := h c hc
  simp only [List.mem_cons, not_or] at hmarks
  exact ⟨hquote, hmarks.1, hmarks.2.1⟩

theorem not_mem_at (h : IsRegistryText cs) : '@' ∉ cs := fun hc => (h _ hc).2 (by simp)

theorem not_mem_paren (h : IsRegistryText cs) : '(' ∉ cs := fun hc => (h _ hc).2 (by simp)

theorem not_mem_quote (h : IsRegistryText cs) : '\'' ∉ cs := fun hc => nomatch (h _ hc).1

end IsRegistryText

variable {options : Options} {key name : List Char}

/-! ## How they are read -/

/-- What stands in front of a registry key, as it is commonly written. -/
def registryWord : List Char := "Registry:".toList

/-- The body of a registry reference. -/
def registryBody (key name : List Char) : List Char := registryWord ++ (key ++ '@' :: name)

theorem parse_registry (hproperties : options.properties = true) (hkey : IsRegistryText key)
    (hname : IsRegistryText name) :
    ∃ ref spec : Span, spec.text = String.ofList (key ++ '@' :: name) ∧
      parse options (String.ofList (referenceText (registryBody key name))) =
        .ok (referenceTree 0 (registryBody key name) (.registry ref spec)) := by
  have hplain : Chars.Balanced (key ++ '@' :: name) :=
    (Chars.Balanced.of_plain hkey.plain).append
      ((Chars.Balanced.single (c := '@') rfl (by decide) (by decide)).append (.of_plain hname.plain))
  have hword : Chars.Balanced registryWord := by
    show Chars.Balanced "Registry:".toList
    exact .of_plain (by simp [isQuote])
  have hlength : registryWord.length = registryMark.length := by decide
  have hmark : startsWithIgnoreCase (registryBody key name) registryMark = true := by
    rw [startsWithIgnoreCase, registryBody, List.take_left' hlength]
    decide
  have hspec : ((⟨2, registryBody key name⟩ : Rest).drop registryMark.length).span.text =
      String.ofList (key ++ '@' :: name) := by
    rw [Rest.drop, Rest.span, registryBody, List.drop_left' hlength]
  have hbody : Chars.Closes '(' ')' { depth := 1 } (registryBody key name) :=
    (hword.append hplain).closes
  have hread (read : Reader) (ref : Span) :
      parseProperty read options ref ⟨2, registryBody key name⟩ = .ok (.registry ref
        ((⟨2, registryBody key name⟩ : Rest).drop registryMark.length).span) :=
    parseProperty_eq_ok.2 (.registry hmark)
  refine ⟨⟨0, String.ofList (referenceText (registryBody key name))⟩, _, hspec, ?_⟩
  rw [parse_reference hproperties hbody, hread, Except.map]

/-- A text in quotes as an argument. -/
def quotedText (value : List Char) : List Char := '\'' :: value ++ ['\'']

/-- The arguments of a call that reads the registry. -/
def registryArguments (key name : List Char) : List Char :=
  quotedText key ++ ',' :: ' ' :: quotedText name

/-- A text without parentheses in quotes is an argument with this text. -/
theorem parseArgument_plain (options : Options) {ws value : List Char} (hws : Chars.Blank ws)
    (hquote : '\'' ∉ value) (hparen : '(' ∉ value) (depth pos : Nat) :
    ∃ start, parseArgument (parseUpTo (depth + 1)) options ⟨pos, ws ++ quotedText value⟩ =
      .ok (.quoted (.mk ⟨start, String.ofList value⟩ (plainSegments start value))) := by
  obtain ⟨start, hargument⟩ :=
    parseArgument_quoted (parseUpTo (depth + 1)) options hws (q := '\'') rfl hquote pos
  refine ⟨start, ?_⟩
  rw [quotedText, hargument, parseUpTo, parseLevel_plain _ _ hparen, Except.map]

theorem closes_registryArguments (hkey : IsRegistryText key) (hname : IsRegistryText name) :
    Chars.Closes '(' ')' { depth := 1 } (registryArguments key name) := by
  have hquoted {value : List Char} (h : IsRegistryText value) : Chars.Balanced (quotedText value) :=
    .quoted rfl h.not_mem_quote
  have hcomma : Chars.Balanced [',', ' '] := .of_plain (by simp [isQuote])
  exact ((hquoted hkey).append (hcomma.append (hquoted hname))).closes

theorem splitArguments_registryArguments (hkey : IsRegistryText key) (hname : IsRegistryText name)
    (pos : Nat) :
    (⟨pos, registryArguments key name⟩ : Rest).splitArguments =
      some [⟨pos, quotedText key⟩,
        ⟨pos + Chars.byteLength (quotedText key) + 1, [' '] ++ quotedText name⟩] := by
  have hfirst : Chars.Uncut (quotedText key) := .quoted rfl hkey.not_mem_quote
  have hsecond : Chars.Uncut (' ' :: quotedText name) :=
    (Chars.Uncut.single (c := ' ') rfl (by decide) (by decide) (by decide)).append
      (.quoted rfl hname.not_mem_quote)
  rw [Rest.splitArguments, registryArguments, hfirst.splitArguments_cons,
    hsecond.splitArguments_eq]
  rfl

/-- The arguments are the key and the name, each as the text in its quotes. -/
theorem parseArguments_registryArguments (options : Options) (ref : Span)
    (hkey : IsRegistryText key) (hname : IsRegistryText name) (depth pos : Nat) :
    ∃ start stop, parseArguments (parseUpTo (depth + 1)) options ref
        ⟨pos, registryArguments key name⟩ =
      .ok [.quoted (.mk ⟨start, String.ofList key⟩ (plainSegments start key)),
        .quoted (.mk ⟨stop, String.ofList name⟩ (plainSegments stop name))] := by
  have hends : registryArguments key name =
      '\'' :: (key ++ '\'' :: ',' :: ' ' :: '\'' :: name) ++ ['\''] := by
    simp [registryArguments, quotedText]
  have hfilled : (⟨pos, registryArguments key name⟩ : Rest).trimmed.isEmpty = false := by
    rw [hends, Rest.trimmed_eq_self rfl rfl]
    rfl
  have hblank : Chars.Blank [' '] := by simp [Chars.Blank, Chars.isBlank]
  obtain ⟨start, hstart⟩ :=
    parseArgument_plain options .nil hkey.not_mem_quote hkey.not_mem_paren depth pos
  obtain ⟨stop, hstop⟩ := parseArgument_plain options hblank hname.not_mem_quote
    hname.not_mem_paren depth (pos + Chars.byteLength (quotedText key) + 1)
  rw [List.nil_append] at hstart
  refine ⟨start, stop, ?_⟩
  rw [parseArguments_of_pieces _ _ _ hfilled (splitArguments_registryArguments hkey hname pos),
    List.mapM_cons, List.mapM_cons, List.mapM_nil, hstart, hstop]
  rfl

theorem parse_registryCall (hproperties : options.properties = true) (hkey : IsRegistryText key)
    (hname : IsRegistryText name) :
    ∃ (start stop : Nat) (ref typeName method member : Span), typeName.text = "MSBuild" ∧
      member.text = "GetRegistryValue" ∧
      parse options (String.ofList (referenceText (callText "MSBuild".toList
          "GetRegistryValue".toList (registryArguments key name)))) =
        .ok (referenceTree 0 (callText "MSBuild".toList "GetRegistryValue".toList
          (registryArguments key name)) (.chain ref (.type typeName) [.method method member
            [.quoted (.mk ⟨start, String.ofList key⟩ (plainSegments start key)),
              .quoted (.mk ⟨stop, String.ofList name⟩ (plainSegments stop name))]])) := by
  have htype : IsTypeName "MSBuild".toList := ⟨by decide, by decide, by simp [isQuote]⟩
  have hcalled : Chars.name? false "GetRegistryValue".toList =
      some ("GetRegistryValue".toList, []) := by
    decide
  obtain ⟨pos, ref, typeName, method, member, htypeName, hmember, hcall⟩ :=
    parse_call hproperties htype hcalled (closes_registryArguments hkey hname)
  -- the text is long enough for its arguments to be read
  obtain ⟨depth, hdepth⟩ : ∃ depth, (referenceText (callText "MSBuild".toList
      "GetRegistryValue".toList (registryArguments key name))).length = depth + 1 := ⟨_, rfl⟩
  rw [hdepth] at hcall
  obtain ⟨start, stop, hargs⟩ :=
    parseArguments_registryArguments options ref hkey hname depth pos
  exact ⟨start, stop, ref, typeName, method, member, htypeName, hmember, hcall _ hargs⟩

end Expression

open Eval

/-! ## What they read -/

section Values

variable (s : Setting)

theorem evalExpression_plain (item : Option Item) (span : Span) (pos : Nat) (cs : List Char) :
    evalExpression s item (.mk span (Expression.plainSegments pos cs)) =
      return String.ofList cs := by
  cases cs with
  | nil => rfl
  | cons c cs =>
    simp only [Expression.plainSegments, evalExpression, evalSegments, evalSegment, pure_bind,
      String.append_empty]

/-- An argument in quotes is unescaped. -/
theorem evalArgument_plain (item : Option Item) (span : Span) (pos : Nat) (cs : List Char) :
    evalArgument s item (.quoted (.mk span (Expression.plainSegments pos cs))) =
      return .text (Text.unescape (String.ofList cs)) := by
  rw [evalArgument, evalExpression_plain, pure_bind]

theorem result_registryValue (expression : String) {key : List Char} (hkey : '@' ∉ key)
    (name : List Char) (w : World) :
    (s.registryValue expression (String.ofList (key ++ '@' :: name))).result w =
      (((s.registry.read w.vars .default (String.ofList key) (String.ofList name)).map
        Value.escaped).mapError fun f => (Failure.fault f).diagnostic expression "", w) := by
  have hsplit : RegistryKey.splitValueName (String.ofList (key ++ '@' :: name)) =
      (String.ofList key, String.ofList name) := by
    rw [RegistryKey.splitValueName, String.toList_ofList, Chars.cut?_append_of_not_mem hkey]
  rw [Setting.registryValue, result_look, hsplit]
  dsimp only
  cases s.registry.read w.vars .default (String.ofList key) (String.ofList name) <;> rfl

/-- `GetRegistryValue` is found whether or not the extended table is open. -/
theorem resolveStatic_getRegistryValue (opened : Bool) :
    FunctionTable.resolveStatic opened "MSBuild" "GetRegistryValue" 2 =
      .ok (.reading "msbuild" "getregistryvalue" 1 2 ToolFunctions.getRegistryValue) := by
  have htype : FunctionTable.typeKey "MSBuild" = "msbuild" := by decide +kernel
  have hmember : FunctionTable.memberKey "GetRegistryValue" = "getregistryvalue" := by
    decide +kernel
  refine FunctionTable.resolveStatic_of_closed ?_ opened
  rw [FunctionTable.resolveStatic_eq_ok, htype, hmember]
  exact ⟨rfl, rfl⟩

theorem result_callStatic_getRegistryValue (expression key name : String) (w : World) :
    (s.callStatic expression "MSBuild" "GetRegistryValue" [.text key, .text name]).result w =
      ((s.registry.read w.vars .default key name).mapError fun f =>
        (Failure.fault f).diagnostic expression "[MSBuild]::GetRegistryValue", w) := by
  have htype : Text.trim "MSBuild" = "MSBuild" := by decide
  have hrun : (Function.reading "msbuild" "getregistryvalue" 1 2
      ToolFunctions.getRegistryValue).run (s.context w) [.text key, .text name] =
        (Answer.of (s.registry.read w.vars .default key name), w) := rfl
  rw [Setting.callStatic, List.length_cons, List.length_singleton, resolveStatic_getRegistryValue]
  simp only [Setting.apply, result_get_bind, hrun, result_set_bind, htype]
  cases s.registry.read w.vars .default key name <;> rfl

/-- The outcome of a registry reference. -/
theorem result_evalProperty_registry {ref spec : Span} {key name : List Char} (hkey : '@' ∉ key)
    (hspec : spec.text = String.ofList (key ++ '@' :: name)) (w : World) :
    (evalProperty s none (.registry ref spec)).result w =
      (((s.registry.read w.vars .default (String.ofList key) (String.ofList name)).map
        fun v => .text v.escaped).mapError fun f => (Failure.fault f).diagnostic ref.text "", w) := by
  rw [evalProperty, hspec, result_bind, result_registryValue s ref.text hkey]
  cases s.registry.read w.vars .default (String.ofList key) (String.ofList name) <;> rfl

/-- The outcome of a call that reads the registry. -/
theorem result_evalProperty_registryCall {ref typeName method member : Span}
    (htypeName : typeName.text = "MSBuild") (hmember : member.text = "GetRegistryValue")
    (first second : Span) (start stop : Nat) (key name : List Char) (w : World) :
    (evalProperty s none (.chain ref (.type typeName) [.method method member
      [.quoted (.mk first (Expression.plainSegments start key)),
        .quoted (.mk second (Expression.plainSegments stop name))]])).result w =
      (((s.registry.read w.vars .default (Text.unescape (String.ofList key))
        (Text.unescape (String.ofList name))).map Outcome.value).mapError fun f =>
          (Failure.fault f).diagnostic ref.text "[MSBuild]::GetRegistryValue", w) := by
  have hraw : FunctionTable.givesEscaped "MSBuild" "GetRegistryValue" = false := by decide +kernel
  rw [evalProperty, htypeName, evalStatic, hmember]
  simp only [evalArguments, evalArgument_plain, pure_bind, List.isEmpty_nil, if_true,
    Outcome.ofStatic, hraw, Bool.false_eq_true, if_false]
  rw [result_bind, result_callStatic_getRegistryValue]
  cases s.registry.read w.vars .default (Text.unescape (String.ofList key))
    (Text.unescape (String.ofList name)) <;> rfl

/-- The entries of a value of the registry. -/
def Setting.registryEntries (w : World) (key name : String) : Except Fault (List String) :=
  (s.registry.read w.vars .default key name).map fun v =>
    (Text.splitList (s.shownValue v.escaped)).map Text.unescape

end Values

/-! ## Where they agree -/

namespace Expander

variable (x : Expander) (options : Options) (lookup : Lookup)

/-- Whether a text expands to the entries of a value of the registry, and else reports a bad
operand. -/
def ReadsRegistry (w : World) (text key name : String) : Prop :=
  ∃ report : Fault → Diagnostic,
    (∀ f, (report f).kind = .operand ∧ (report f).code = .function) ∧
      (x.expandList text options lookup).result w =
        (((x.setting options lookup w).registryEntries w key name).mapError report, w)

section

variable {x options lookup}

/-- A lone property reference reads the registry when its outcome is shown as the value is. -/
theorem readsRegistry_of_property {text : String} {e : Expression} {p : Property}
    (he : Expression.parse options text = .ok e) (hp : e.singleProperty? = some p) {w : World}
    {key name : String} {outcome : Value → Outcome} (houtcome : ∀ v, (outcome v).escaped = v.escaped)
    {report : Fault → Diagnostic}
    (hreport : ∀ f, (report f).kind = .operand ∧ (report f).code = .function)
    (h : (evalProperty (x.setting options lookup w) none p).result w =
      (((x.registry.read w.vars .default key name).map outcome).mapError report, w)) :
    x.ReadsRegistry options lookup w text key name := by
  have hregistry : (x.setting options lookup w).registry = x.registry := rfl
  refine ⟨fun f => (report f).at? x.location, hreport, ?_⟩
  rw [expandList, result_bind, result_expandEscaped_eq he, result_eval,
    evalExpression_of_singleProperty hp, result_map, h, Setting.registryEntries, hregistry]
  cases x.registry.read w.vars .default key name with
  | error f => rfl
  | ok v => simp only [Except.map, Except.mapError, houtcome, result_pure]

end

variable {options}

/-- A registry reference reads the texts that stand in it. -/
theorem readsRegistry_reference (hproperties : options.properties = true) {key name : List Char}
    (hkey : Expression.IsRegistryText key) (hname : Expression.IsRegistryText name) (w : World) :
    x.ReadsRegistry options lookup w
      (String.ofList (Expression.referenceText (Expression.registryBody key name)))
      (String.ofList key) (String.ofList name) := by
  obtain ⟨ref, spec, hspec, he⟩ := Expression.parse_registry hproperties hkey hname
  exact readsRegistry_of_property he rfl (fun _ => rfl) (fun _ => ⟨rfl, rfl⟩)
    (result_evalProperty_registry _ hkey.not_mem_at hspec w)

/-- A call reads the texts that its arguments are unescaped to. -/
theorem readsRegistry_call (hproperties : options.properties = true) {key name : List Char}
    (hkey : Expression.IsRegistryText key) (hname : Expression.IsRegistryText name) (w : World) :
    x.ReadsRegistry options lookup w
      (String.ofList (Expression.referenceText (Expression.callText "MSBuild".toList
        "GetRegistryValue".toList (Expression.registryArguments key name))))
      (Text.unescape (String.ofList key)) (Text.unescape (String.ofList name)) := by
  obtain ⟨start, stop, ref, typeName, method, member, htypeName, hmember, he⟩ :=
    Expression.parse_registryCall hproperties hkey hname
  exact readsRegistry_of_property he rfl (fun _ => rfl) (fun _ => ⟨rfl, rfl⟩)
    (result_evalProperty_registryCall _ htypeName hmember _ _ start stop key name w)

variable {x lookup}

/-- Two texts that read the registry match when the registry has the same answer for both. -/
theorem matches_iff_of_readsRegistry {w : World} {text text' key name key' name' : String}
    (h : x.ReadsRegistry options lookup w text key name)
    (h' : x.ReadsRegistry options lookup w text' key' name') :
    Except.Matches (· = ·) ((x.expandList text options lookup).result w).1
        ((x.expandList text' options lookup).result w).1 ↔
      ((x.setting options lookup w).registryEntries w key name).toOption =
        ((x.setting options lookup w).registryEntries w key' name').toOption := by
  obtain ⟨report, hreport, hresult⟩ := h
  obtain ⟨report', hreport', hresult'⟩ := h'
  rw [hresult, hresult']
  have hsame (f f' : Fault) : (report f).SameFailure (report' f') :=
    ⟨(hreport f).1.trans (hreport' f').1.symm, (hreport f).2.trans (hreport' f').2.symm⟩
  generalize (x.setting options lookup w).registryEntries w key name = found
  generalize (x.setting options lookup w).registryEntries w key' name' = found'
  constructor
  · intro hmatches
    cases found <;> cases found' <;> cases hmatches
    · rfl
    · rename_i hentries
      rw [hentries]
  · intro hentries
    cases found <;> cases found' <;> cases hentries
    · exact .error (hsame _ _)
    · exact .ok rfl

end Expander

/-- A registry read as a reference of its own. -/
def registryReference (key name : String) : String := "$(Registry:" ++ key ++ "@" ++ name ++ ")"

/-- A registry read as a call. -/
def registryCall (key name : String) : String :=
  "$([MSBuild]::GetRegistryValue('" ++ key ++ "', '" ++ name ++ "'))"

theorem ofList_referenceText_registryBody (key name : String) :
    String.ofList (Expression.referenceText (Expression.registryBody key.toList name.toList)) =
      registryReference key name := by
  have hopen : "$(Registry:".toList = '$' :: '(' :: Expression.registryWord := rfl
  refine String.toList_injective ?_
  simp [registryReference, Expression.referenceText, Expression.registryBody, hopen]

theorem ofList_referenceText_callText (key name : String) :
    String.ofList (Expression.referenceText (Expression.callText "MSBuild".toList
      "GetRegistryValue".toList (Expression.registryArguments key.toList name.toList))) =
        registryCall key name := by
  show _ = "$([MSBuild]::GetRegistryValue('" ++ key ++ "', '" ++ name ++ "'))"
  refine String.toList_injective ?_
  simp [Expression.referenceText, Expression.callText, Expression.registryArguments,
    Expression.quotedText]

/-- A registry with one value. -/
def vendorRegistry (name : String) (value : RegistryValue) : Registry :=
  { keys := [((.default, "hkey_local_machine\\vendor"), { entries := [(name, value)] })] }

/-- The two forms of a registry read give the same list, or fail in the same way, exactly when the
registry has the same entries for the texts as they stand and for the texts unescaped, which is so
for texts without escapes. Neither changes the surroundings. -/
theorem registry_forms_agree_iff {x : Expander} {options : Options} {lookup : Lookup}
    (hproperties : options.properties = true) {key name : String}
    (hkey : Expression.IsRegistryText key.toList) (hname : Expression.IsRegistryText name.toList)
    (w : World) :
    (Except.Matches (· = ·) ((x.expandList (registryReference key name) options lookup).result w).1
          ((x.expandList (registryCall key name) options lookup).result w).1 ↔
        ((x.setting options lookup w).registryEntries w key name).toOption =
          ((x.setting options lookup w).registryEntries w (Text.unescape key)
            (Text.unescape name)).toOption) ∧
      (Text.unescape key = key → Text.unescape name = name →
        Except.Matches (· = ·)
          ((x.expandList (registryReference key name) options lookup).result w).1
          ((x.expandList (registryCall key name) options lookup).result w).1) ∧
      ((x.expandList (registryReference key name) options lookup).result w).2 = w ∧
      ((x.expandList (registryCall key name) options lookup).result w).2 = w := by
  have hreference := x.readsRegistry_reference lookup hproperties hkey hname w
  have hcall := x.readsRegistry_call lookup hproperties hkey hname w
  rw [ofList_referenceText_registryBody, String.ofList_toList, String.ofList_toList] at hreference
  rw [ofList_referenceText_callText, String.ofList_toList, String.ofList_toList] at hcall
  have hiff := Expander.matches_iff_of_readsRegistry hreference hcall
  refine ⟨hiff, fun hk hn => hiff.2 (by rw [hk, hn]), ?_, ?_⟩
  · obtain ⟨_, -, hresult⟩ := hreference
    rw [hresult]
  · obtain ⟨_, -, hresult⟩ := hcall
    rw [hresult]

theorem registry_forms_agree_iff_of_plain :
    Except.Matches (· = ·)
        (({ registry := vendorRegistry "Names" (.texts ["a;b", "c"]) } : Expander).expandList
          (registryReference "HKLM/Vendor" "Names") { properties := true } {} |>.result .bare).1
        (({ registry := vendorRegistry "Names" (.texts ["a;b", "c"]) } : Expander).expandList
          (registryCall "HKLM/Vendor" "Names") { properties := true } {} |>.result .bare).1 ∧
      (({ registry := vendorRegistry "Names" (.texts ["a;b", "c"]) } : Expander).expandList
        (registryCall "HKLM/Vendor" "Names") { properties := true } {} |>.result
          .bare).1.toOption = some ["a;b", "c"] :=
  have hkey : Expression.IsRegistryText "HKLM/Vendor".toList := by
    simp [Expression.IsRegistryText, isQuote]
  have hname : Expression.IsRegistryText "Names".toList := by
    simp [Expression.IsRegistryText, isQuote]
  ⟨(registry_forms_agree_iff rfl hkey hname .bare).2.1 (by decide) (by decide), by decide +kernel⟩

/-- Where the name has an escape, the reference reads another value than the call. -/
theorem exists_registry_forms_ne :
    ∃ (x : Expander) (key name : String), Expression.IsRegistryText key.toList ∧
      Expression.IsRegistryText name.toList ∧
      ¬Except.Matches (· = ·)
        ((x.expandList (registryReference key name) { properties := true } {}).result .bare).1
        ((x.expandList (registryCall key name) { properties := true } {}).result .bare).1 := by
  refine ⟨{ registry := vendorRegistry "Tool's Path" (.text "x") }, "HKLM\\Vendor", "Tool%27s Path",
    ?key, ?name, fun hmatches => ?_⟩
  case key => simp [Expression.IsRegistryText, isQuote]
  case name => simp [Expression.IsRegistryText, isQuote]
  have hreference : (({ registry := vendorRegistry "Tool's Path" (.text "x") } : Expander).expandList
      (registryReference "HKLM\\Vendor" "Tool%27s Path") { properties := true } {} |>.result
        .bare).1.toOption = some [] := by
    decide +kernel
  have hcall : (({ registry := vendorRegistry "Tool's Path" (.text "x") } : Expander).expandList
      (registryCall "HKLM\\Vendor" "Tool%27s Path") { properties := true } {} |>.result
        .bare).1.toOption = some ["x"] := by
    decide +kernel
  rw [Except.toOption_eq_some.1 hreference, Except.toOption_eq_some.1 hcall] at hmatches
  cases hmatches with
  | ok h => cases h

end BuildExpr
