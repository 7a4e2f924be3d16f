import BuildExpr.Proofs.Evaluation.Relookup
import BuildExpr.Proofs.Evaluation.Shift
import BuildExpr.Proofs.Expansion.ListElements
import BuildExpr.Proofs.Expansion.Malformed
import BuildExpr.Proofs.Expansion.Typed
import BuildExpr.Proofs.Expression.MemberCalls
import BuildExpr.Proofs.Expression.Recase

/-!
# Members of texts on items

A member of texts can be called on the items of a list and on a property, by two paths: as a stage
of the list, which looks the member up once and applies it to all entries, and as a member in a
chain. Both make the same of one text (`Setting.memberAnswer`), so the list expands to what the
chain expands to for each of the includes, one behind the other (`item_member_agrees`).
-/

namespace BuildExpr

open Expression

/-! ## The names of members -/

/-- Whether texts have a member with a name. -/
def IsTextMember (member : String) : Prop :=
  (FunctionTable.find? FunctionTable.members "system.string"
    (FunctionTable.memberKey member)).isSome = true

instance (member : String) : Decidable (IsTextMember member) :=
  inferInstanceAs (Decidable (_ = true))

/-- The name of a member is that of the tables, in any case of letters, or that with a prefix. -/
theorem FunctionTable.foldAscii_cases (member : String) :
    Text.foldAscii member = memberKey member ∨
      Text.foldAscii member = "get_" ++ memberKey member := by
  rw [memberKey]
  split
  · rename_i h
    obtain ⟨rest, hrest⟩ := List.isPrefixOf_iff_prefix.1 (Bool.and_eq_true_iff.1 h).1
    have hdrop : (Text.foldAscii member).toList.drop 4 = rest := by
      rw [← hrest]
      rfl
    refine .inr (String.toList_injective ?_)
    rw [String.toList_append, hdrop, @String.toList_ofList rest]
    exact hrest.symm
  · exact .inl rfl

/-- Which function a member is depends on the value only by its type. -/
theorem FunctionTable.resolveMember_of_typeName {v v' : Value} (h : v.typeName = v'.typeName)
    (member : String) (count : Nat) :
    resolveMember v member count = resolveMember v' member count := by
  unfold resolveMember
  rw [h]

namespace IsTextMember

variable {member : String}

/-- What holds of the names in the table, with and without the prefix, holds of all in lower
case. -/
theorem foldAscii_of_forall {p : String → Prop} (h : IsTextMember member)
    (hall : ∀ f ∈ FunctionTable.members, f.type = "system.string" →
      p f.name ∧ p ("get_" ++ f.name)) :
    p (Text.foldAscii member) := by
  obtain ⟨f, hf⟩ := Option.isSome_iff_exists.1 h
  have hkey := List.find?_some hf
  simp only [Bool.and_eq_true, beq_iff_eq] at hkey
  obtain ⟨hplain, hget⟩ := hall f (List.mem_of_find?_eq_some hf) hkey.1
  rcases FunctionTable.foldAscii_cases member with hmember | hmember
  · rw [hmember, ← hkey.2]
    exact hplain
  · rw [hmember, ← hkey.2]
    exact hget

/-- A member of texts is no function of item lists. -/
theorem ofName_eq (h : IsTextMember member) : ItemFunction.ofName member = .member := by
  have hfold := h.foldAscii_of_forall (p := fun name => ItemFunction.ofName name = .member)
    (by decide +kernel)
  exact (ItemFunction.ofName_congr (Text.sameName_foldAscii member)).trans hfold

theorem named (h : IsTextMember member) :
    Chars.name? false member.toList = some (member.toList, []) := by
  have hfold := h.foldAscii_of_forall
    (p := fun name => Chars.name? false name.toList = some (name.toList, [])) (by decide +kernel)
  have hchars : (Text.foldAscii member).toList = member.toList.map Char.toLower :=
    String.toList_ofList
  exact Chars.name?_of_toLower (hchars ▸ hfold)

end IsTextMember

/-! ## One text -/

/-- What a function makes of a text, in escaped form, or the kind of its failure. -/
def Function.onText (f : Function) (c : Context) (args : List Value) (text : String) :
    Except Diagnostic.Kind String :=
  ((f.run c (.text text :: args)).1.map Value.escaped).mapError Failure.kind

namespace Setting

open Eval

variable {s : Setting} {w : World} {member : String} {args : List Value}

/-- What a member makes of a text, in escaped form, or the kind of its failure. -/
def memberAnswer (s : Setting) (w : World) (member : String) (args : List Value) (text : String) :
    Except Diagnostic.Kind String :=
  match FunctionTable.resolveMember (.text text) member args.length with
  | .ok f => f.onText (s.context w) args text
  | .error _ => .error .unresolved

/-- A member in a chain. -/
theorem kind_callMember (expression text : String) :
    (((s.callMember expression (.text text) member args).result w).1.map Value.escaped).mapError
      Diagnostic.kind = s.memberAnswer w member args text := by
  unfold callMember memberAnswer
  cases FunctionTable.resolveMember (.text text) member args.length with
  | error r => rfl
  | ok f =>
    simp only [Setting.apply, result_get_bind, result_set_bind, Function.onText]
    rcases f.run (s.context w) (.text text :: args) with ⟨answer, w'⟩
    cases answer <;> rfl

end Setting

/-! ## All entries -/

namespace ItemCall

variable (call : ItemCall) (s : Setting) (w : World) (args : List Value)

/-- A stage that is named for a member applies what the name is resolved to to each entry. -/
theorem run_of_member (h : ItemFunction.ofName call.name = .member) (entries : List Entry) :
    call.run s w args entries =
      (call.resolve args >>= fun f => replaceEach (call.memberOf s w f args) entries) := by
  unfold run
  rw [h]
  rfl

/-- The entries that a function gives for the texts of others. -/
theorem kind_replaceEach (f : Function) (entries : List Entry) :
    ((replaceEach (call.memberOf s w f args) entries).map (List.map Entry.text)).mapError
        Diagnostic.kind =
      (entries.mapM fun e => f.onText (s.context w) args e.plain).map
        (List.filter fun t => !t.isEmpty) := by
  induction entries with
  | nil => rfl
  | cons e entries ih =>
    rw [replaceEach, List.mapM_cons, memberOf]
    generalize replaceEach (call.memberOf s w f args) entries = others at ih ⊢
    generalize entries.mapM (fun e => f.onText (s.context w) args e.plain) = more at ih ⊢
    rw [Function.onText]
    cases (f.run (s.context w) (.text e.plain :: args)).1 with
    | error cause => rfl
    | ok v =>
      have hfirst : List.filter (fun t => !t.isEmpty) [v.escaped] =
          (Entries.filled [{ e with text := v.escaped }]).map Entry.text := by
        rw [Entries.filled, List.filter_singleton, List.filter_singleton]
        cases v.escaped.isEmpty <;> rfl
      cases others with
      | error d =>
        cases more with
        | error kind => exact congrArg Except.error (Except.error.inj ih)
        | ok more => cases ih
      | ok others =>
        cases more with
        | error kind => cases ih
        | ok more =>
          have hmore : others.map Entry.text = more.filter fun t => !t.isEmpty := Except.ok.inj ih
          refine congrArg Except.ok ?_
          rw [List.map_append, hmore, ← hfirst, ← List.filter_append]
          rfl

/-- A member on all entries makes of each what it makes of its text, and fails with the first
failure. -/
theorem kind_run (h : ItemFunction.ofName call.name = .member) {entries : List Entry}
    (hentries : entries ≠ []) :
    ((call.run s w args entries).map (List.map Entry.text)).mapError Diagnostic.kind =
      (entries.mapM fun e => s.memberAnswer w call.name args e.plain).map
        (List.filter fun t => !t.isEmpty) := by
  have hresolve (text : String) : FunctionTable.resolveMember (.text text) call.name args.length =
      FunctionTable.resolveMember (.text "") call.name args.length :=
    @FunctionTable.resolveMember_of_typeName (.text text) (.text "") rfl _ _
  rw [run_of_member call s w args h]
  unfold resolve Setting.memberAnswer
  simp only [hresolve]
  cases FunctionTable.resolveMember (.text "") call.name args.length with
  | error r =>
    obtain ⟨e, entries, rfl⟩ := List.exists_cons_of_ne_nil hentries
    rw [List.mapM_cons]
    rfl
  | ok f => exact call.kind_replaceEach s w args f entries

end ItemCall

/-! ## The two paths -/

open Eval

/-- The values of arguments and the surroundings that they leave, or the kind of the failure. -/
def Setting.argumentValues (s : Setting) (arguments : List Argument) (w : World) :
    Except Diagnostic.Kind (List Value × World) :=
  match (evalArguments s none arguments).result w with
  | (.ok args, w') => .ok (args, w')
  | (.error d, _) => .error d.kind

/-- The texts that are not empty with a `;` between them. -/
def Entries.joinFilled (texts : List String) : String :=
  Text.join ";" (texts.filter fun t => !t.isEmpty)

section Paths

variable {s : Setting} (hs : s.options.truncate = false) (w : World) (arguments : List Argument)

include hs

/-- A member as the only stage of an item list. -/
theorem kind_evalItems {ref type span place : Span}
    (hplace : ItemFunction.ofName place.text = .member) (hentries : s.entries type.text ≠ []) :
    ((evalItems s none (.mk ref type [.function span place arguments] none)).result w).1.mapError
        Diagnostic.kind =
      (do
        let (args, w') ← s.argumentValues arguments w
        ((s.entries type.text).mapM fun e =>
          s.memberAnswer w' place.text args e.plain).map Entries.joinFilled) := by
  have hshown (entries : List Entry) : s.shownEntries entries = entries := by
    simp [Setting.shownEntries, hs]
  rw [evalItems, Setting.argumentValues]
  simp only [evalTransforms, bind_assoc, bind_pure, hshown, Entries.join_pure]
  rw [result_bind]
  rcases (evalArguments s none arguments).result w with ⟨d | args, w'⟩
  · rfl
  · have hrun :=
      ItemCall.kind_run ⟨ref.text, type.text, span.text, place.text⟩ s w' args hplace hentries
    show _ = ((s.entries type.text).mapM fun e =>
      s.memberAnswer w' place.text args e.plain).map Entries.joinFilled
    simp only [result_bind, result_look]
    generalize ItemCall.run ⟨ref.text, type.text, span.text, place.text⟩ s w' args
      (s.entries type.text) = made at hrun ⊢
    generalize (s.entries type.text).mapM (fun e => s.memberAnswer w' place.text args e.plain) =
      texts at hrun ⊢
    calc _ = ((made.map (List.map Entry.text)).mapError Diagnostic.kind).map (Text.join ";") := by
          cases made <;> rfl
      _ = (texts.map (List.filter fun t => !t.isEmpty)).map (Text.join ";") := by rw [hrun]
      _ = texts.map Entries.joinFilled := by cases texts <;> rfl

/-- A member of a property as a reference of its own. -/
theorem kind_evalChain {pos : Nat} {body : List Char} {ref receiver method place : Span} :
    ((evalExpression s none (referenceTree pos body (.chain ref (.property receiver)
        [.method method place arguments]))).result w).1.mapError Diagnostic.kind =
      (do
        let (args, w') ← s.argumentValues arguments w
        s.memberAnswer w' place.text args (Text.unescape (s.property receiver.text))) := by
  rw [evalExpression_of_singleProperty rfl, result_map, evalProperty, Setting.argumentValues]
  simp only [evalAccesses, bind_assoc, bind_pure, shownValue_of_not_truncate hs]
  rw [result_bind]
  rcases (evalArguments s none arguments).result w with ⟨d | args, w'⟩
  · rfl
  · show _ = s.memberAnswer w' place.text args (Text.unescape (s.property receiver.text))
    simp only [← map_eq_pure_bind, result_map]
    rw [← s.kind_callMember ref.text]
    cases ((s.callMember ref.text (.text (Text.unescape (s.property receiver.text))) place.text
      args).result w').1 <;> rfl

end Paths

/-! ## The lookup of the property -/

/-- Whether a property is looked up, by a given name in any case of letters. -/
def Mention.isProperty (name : String) : Mention → Bool
  | .property other => Text.eqIgnoreCase name other
  | .items _ => false

/-- The lookup in which a property has a value. -/
def Lookup.withProperty (l : Lookup) (name value : String) : Lookup :=
  l.push (({} : Scope).setProperty name value)

theorem Lookup.property?_withProperty (l : Lookup) (name value other : String) :
    (l.withProperty name value).property? other =
      if Text.eqIgnoreCase name other then some value else l.property? other := by
  have hfirst : (({} : Scope).setProperty name value).property? other =
      if Text.eqIgnoreCase name other then some value else none :=
    NameMap.get?_insert _ _ _ _
  rw [withProperty, push, property?, List.findSome?_cons, hfirst]
  by_cases h : Text.eqIgnoreCase name other = true
  · rw [if_pos h, if_pos h]
  · rw [if_neg h, if_neg h]
    rfl

/-- A lookup with a property agrees with the one without on all that is not this property. -/
theorem Lookup.agree_withProperty (l : Lookup) {name : String} (value : String) {m : Mention}
    (h : m.isProperty name = false) : (l.withProperty name value).Agree l m := by
  cases m with
  | property other =>
    have hother : Text.eqIgnoreCase name other = false := h
    show (l.withProperty name value).property? other = l.property? other
    rw [property?_withProperty, hother, if_neg Bool.false_ne_true]
  | items itemType => rfl

/-- Arguments that do not look up a property have the same values whatever it is. -/
theorem argumentValues_withProperty {s : Setting} {name : String} (value : String)
    {arguments : List Argument}
    (h : ∀ m ∈ TreeNode.allMentions (arguments.map .argument), m.isProperty name = false)
    (w : World) :
    (s.withLookup (s.lookup.withProperty name value)).argumentValues arguments w =
      s.argumentValues arguments w := by
  have hmetadata : (s.lookup.withProperty name value).metadataItem = s.lookup.metadataItem := rfl
  have hvalues : evalArguments (s.withLookup (s.lookup.withProperty name value)) none arguments =
      evalArguments s none arguments := by
    refine related_evalArguments (Setting.related_withLookup hmetadata) none arguments
      fun a ha => ?_
    refine TreeNode.everywhere_of_mentions fun m hm => ?_
    exact s.lookup.agree_withProperty value (h m ⟨_, List.mem_map_of_mem ha, hm⟩)
  rw [Setting.argumentValues, hvalues]
  rfl

/-! ## Expansion -/

/-- A text that can stand as the arguments of a call and refers to properties only, a given one not
among them. -/
structure ArgumentsWithout (options : Options) (name arguments : String) : Prop where
  closes : Chars.Closes '(' ')' { depth := 1 } arguments.toList
  propertiesOnly : Chars.PropertiesOnly arguments.toList
  without : ∀ as, readArguments options arguments.toList = .ok as →
    ∀ m ∈ TreeNode.allMentions (as.map .argument), m.isProperty name = false

namespace Expander

variable (x : Expander) {options : Options} {lookup : Lookup} {w : World}

/-- The escaped text that a text expands to, or the kind of the failure. -/
def escapedOrKind (x : Expander) (text : String) (options : Options) (lookup : Lookup)
    (w : World) : Except Diagnostic.Kind String :=
  ((x.expandEscaped text options lookup).result w).1.mapError Diagnostic.kind

/-- The values of the arguments in a text and the surroundings that they leave, or the kind of the
failure. -/
def argumentValues (x : Expander) (arguments : String) (options : Options) (lookup : Lookup)
    (w : World) : Except Diagnostic.Kind (List Value × World) :=
  match readArguments options arguments.toList with
  | .ok as => (x.setting options lookup w).argumentValues as w
  | .error _ => .error .malformed

theorem escapedOrKind_of_parse {text : String} {e : Expression}
    (he : Expression.parse options text = .ok e) :
    x.escapedOrKind text options lookup w =
      ((evalExpression (x.setting options lookup w) none e).result w).1.mapError
        Diagnostic.kind := by
  rw [escapedOrKind, result_expandEscaped_eq he, result_eval]
  cases ((evalExpression (x.setting options lookup w) none e).result w).1 <;> rfl

theorem escapedOrKind_of_malformed (hany : options.expandsAnything = true) {text : String}
    (h : (Expression.parse options text).toOption = none) :
    x.escapedOrKind text options lookup w = .error .malformed := by
  cases he : Expression.parse options text with
  | ok e =>
    rw [he] at h
    cases h
  | error m =>
    have hfails := run_of_malformed hany he x lookup w .escaped (by simp [Mode.ofWhole])
    have hresult : (x.expandEscaped text options lookup).result w =
        (.error (m.diagnostic.at? x.location), w) := hfails
    rw [escapedOrKind, hresult]
    exact congrArg Except.error m.kind_diagnostic

/-- Arguments that do not refer to a property have the same values whatever it is. -/
theorem argumentValues_withProperty {name arguments : String}
    (h : ArgumentsWithout options name arguments) (value : String) :
    x.argumentValues arguments options (lookup.withProperty name value) w =
      x.argumentValues arguments options lookup w := by
  unfold argumentValues
  cases hread : readArguments options arguments.toList with
  | error m => rfl
  | ok as =>
    have hvalues := @BuildExpr.argumentValues_withProperty (x.setting options lookup w) name value
      as (h.without as hread) w
    exact hvalues

section

variable {name itemType member arguments : String} (htruncate : options.truncate = false)
  (hmember : IsTextMember member)
  (hcloses : Chars.Closes '(' ')' { depth := 1 } arguments.toList)

include htruncate hmember hcloses

/-- A reference that calls a member of a property. -/
theorem escapedOrKind_chain (hproperties : options.properties = true)
    (hname : Chars.name? true name.toList = some (name.toList, [])) :
    x.escapedOrKind ("$(" ++ name ++ "." ++ member ++ "(" ++ arguments ++ "))") options lookup w =
      (do
        let (args, w') ← x.argumentValues arguments options lookup w
        (x.setting options lookup w).memberAnswer w' member args
          (Text.unescape ((x.setting options lookup w).property name))) := by
  have hany : options.expandsAnything = true := by simp [Options.expandsAnything, hproperties]
  have htext : "$(" ++ name ++ "." ++ member ++ "(" ++ arguments ++ "))" =
      String.ofList (referenceText (memberText name.toList member.toList arguments.toList)) := by
    refine String.toList_injective ?_
    simp [referenceText, memberText, pointText, applied]
  obtain ⟨start, ref, receiver, method, place, hreceiver, hplace, hparse⟩ :=
    toOption_parse_memberText hproperties hname hmember.named hcloses
  rw [htext, argumentValues]
  cases hread : readArguments options arguments.toList with
  | error m =>
    rw [hread] at hparse
    exact x.escapedOrKind_of_malformed hany hparse
  | ok as =>
    rw [hread] at hparse
    rw [x.escapedOrKind_of_parse (Except.toOption_eq_some.1 hparse),
      kind_evalChain htruncate, hreceiver, hplace, String.ofList_toList, String.ofList_toList,
      Setting.argumentValues, evalArguments_shift]
    rfl

/-- An item list with a member as its only stage. -/
theorem escapedOrKind_stage (hitems : options.items = true)
    (htype : Chars.name? true itemType.toList = some (itemType.toList, []))
    (hproperties : Chars.PropertiesOnly arguments.toList) (hlookup : lookup.items itemType ≠ []) :
    x.escapedOrKind ("@(" ++ itemType ++ "->" ++ member ++ "(" ++ arguments ++ "))") options lookup
        w =
      (do
        let (args, w') ← x.argumentValues arguments options lookup w
        ((lookup.items itemType).mapM fun item =>
          (x.setting options lookup w).memberAnswer w' member args
            (Text.unescape item.spec)).map Entries.joinFilled) := by
  have hany : options.expandsAnything = true := by simp [Options.expandsAnything, hitems]
  have htext : "@(" ++ itemType ++ "->" ++ member ++ "(" ++ arguments ++ "))" =
      String.ofList (itemsText (stageText itemType.toList member.toList arguments.toList)) := by
    refine String.toList_injective ?_
    simp [itemsText, stageText, applied]
  have hoptions := readArguments_listOptions options hproperties
  rw [htext, argumentValues]
  cases hread : readArguments options arguments.toList with
  | error m =>
    refine x.escapedOrKind_of_malformed hany ?_
    cases hparse : Expression.parse options
      (String.ofList (itemsText (stageText itemType.toList member.toList arguments.toList))) with
    | error m => rfl
    | ok e =>
      obtain ⟨as, -, -, -, -, -, hlist, -⟩ :=
        readArguments_of_parse_stageText htype hmember.named hcloses hitems hparse
      rw [hread, hlist] at hoptions
      cases hoptions
  | ok as =>
    obtain ⟨as', hlist, hshift⟩ := Except.map_eq_ok.1 (hoptions.trans (by rw [hread]; rfl))
    obtain ⟨e, he⟩ := exists_parse_stageText htype hmember.named hcloses hitems hlist
    obtain ⟨_, ref, type, span, place, start, hlist', htypeText, hplace, hsingle⟩ :=
      readArguments_of_parse_stageText htype hmember.named hcloses hitems he
    obtain rfl := Except.ok.inj (hlist.symm.trans hlist')
    have hentries : (x.setting options lookup w).entries type.text ≠ [] := by
      rw [htypeText, String.ofList_toList]
      exact fun h => hlookup (List.map_eq_nil_iff.1 h)
    have hfunction : ItemFunction.ofName place.text = .member := by
      rw [hplace, String.ofList_toList]
      exact hmember.ofName_eq
    have hvalues : (x.setting options lookup w).argumentValues (Argument.shiftAll start as') w =
        (x.setting options lookup w).argumentValues as w := by
      simp only [Setting.argumentValues, evalArguments_shift]
      rw [← evalArguments_shift _ 0 none as', hshift, evalArguments_shift]
    rw [x.escapedOrKind_of_parse he, evalExpression_of_singleItems _ _ hsingle,
      kind_evalItems htruncate w _ hfunction hentries, hvalues, htypeText, hplace,
      String.ofList_toList, String.ofList_toList, Setting.entries]
    simp only [List.mapM_map]
    rfl

end

end Expander

/-- A member of texts as a stage of an item list agrees with the member of a property. The list
expands to the texts that the chain expands to for the includes of the items, those that are not
empty with a `;` between them, and fails in the same way as the first of the chains that fails. -/
theorem item_member_agrees (x : Expander) {options : Options}
    (hproperties : options.properties = true) (hitems : options.items = true)
    (htruncate : options.truncate = false) {name itemType member arguments : String}
    (hname : Chars.name? true name.toList = some (name.toList, []))
    (htype : Chars.name? true itemType.toList = some (itemType.toList, []))
    (hmember : IsTextMember member) (harguments : ArgumentsWithout options name arguments)
    {lookup : Lookup} (hlookup : lookup.items itemType ≠ []) (w : World) :
    x.escapedOrKind ("@(" ++ itemType ++ "->" ++ member ++ "(" ++ arguments ++ "))") options lookup
        w =
      ((lookup.items itemType).mapM fun item =>
        x.escapedOrKind ("$(" ++ name ++ "." ++ member ++ "(" ++ arguments ++ "))") options
          (lookup.withProperty name item.spec) w).map Entries.joinFilled := by
  have hvalue (spec : String) :
      (x.setting options (lookup.withProperty name spec) w).property name = spec := by
    obtain ⟨c, cs, hchars, hc⟩ := Chars.exists_cons_of_name? hname
    have hblank : Text.isBlank name = false := by
      rw [Text.isBlank, hchars, List.all_cons, Chars.isBlank_of_nameStart hc, Bool.false_and]
    rw [Setting.property, hblank, if_neg Bool.false_ne_true]
    have hproperty := lookup.property?_withProperty name spec name
    rw [if_pos (Text.eqIgnoreCase_self name)] at hproperty
    exact congrArg (·.getD "") hproperty
  rw [x.escapedOrKind_stage htruncate hmember harguments.closes hitems htype
    harguments.propertiesOnly hlookup]
  have hitem (item : Item) : x.escapedOrKind
      ("$(" ++ name ++ "." ++ member ++ "(" ++ arguments ++ "))") options
      (lookup.withProperty name item.spec) w = (do
        let (args, w') ← x.argumentValues arguments options lookup w
        (x.setting options lookup w).memberAnswer w' member args (Text.unescape item.spec)) := by
    rw [x.escapedOrKind_chain htruncate hmember harguments.closes hproperties hname,
      x.argumentValues_withProperty harguments, hvalue]
    rfl
  simp only [hitem]
  rw [Except.mapM_bind hlookup]
  cases x.argumentValues arguments options lookup w <;> rfl

/-- A lookup with items of one type and a property. -/
def withItems : Lookup :=
  { scopes := [.ofDocument [("Q", "c%3bd")]
      [("I", [{ spec := "a%3bb" }, { spec := "" }, { spec := "b" }])]] }

theorem argumentsWithout_quoted : ArgumentsWithout .all "P" "'b', $(Q)" where
  closes := by
    have hclosing : Chars.closing '(' ')' { depth := 1 } ("'b', $(Q)".toList ++ [')']) =
        some ("'b', $(Q)".toList, []) := by
      decide +kernel
    exact (Chars.closing_eq_some hclosing).2
  propertiesOnly := .of_not_mem (by decide +kernel) (by decide +kernel)
  without as has := by
    have hpasses : (readArguments .all "'b', $(Q)".toList).toOption.all (fun as =>
        as.all fun a => (TreeNode.argument a).passes
          (fun n => n.mention?.all fun m => !m.isProperty "P") 9) = true := by
      decide +kernel
    rw [has] at hpasses
    rintro m ⟨n, hn, hm⟩
    obtain ⟨a, ha, rfl⟩ := List.mem_map.1 hn
    refine TreeNode.mem_mentions_of_everywhere (p := fun m => m.isProperty "P" = false) ?_ m hm
    refine TreeNode.everywhere_of_passes (fun n htest m hm => ?_) (List.all_eq_true.1 hpasses a ha)
    rw [hm] at htest
    simpa using htest

theorem item_member_agrees_of_replace :
    IsTextMember "get_REPLACE" ∧
      ({} : Expander).escapedOrKind ("@(" ++ "I" ++ "->" ++ "get_REPLACE" ++ "(" ++ "'b', $(Q)" ++
        "))") .all withItems .bare = .ok "a%3bc%3bd;c%3bd" ∧
      ({} : Expander).escapedOrKind ("@(" ++ "I" ++ "->" ++ "get_REPLACE" ++ "(" ++ "'b', $(Q)" ++
        "))") .all withItems .bare =
        ((withItems.items "I").mapM fun item =>
          ({} : Expander).escapedOrKind ("$(" ++ "P" ++ "." ++ "get_REPLACE" ++ "(" ++
            "'b', $(Q)" ++ "))") .all (withItems.withProperty "P" item.spec) .bare).map
          Entries.joinFilled := by
  have hmember : IsTextMember "get_REPLACE" := by decide +kernel
  refine ⟨hmember, ?_, ?_⟩
  · decide +kernel
  · exact item_member_agrees {} rfl rfl rfl (by decide +kernel) (by decide +kernel) hmember
      argumentsWithout_quoted (by decide +kernel) .bare

end BuildExpr
