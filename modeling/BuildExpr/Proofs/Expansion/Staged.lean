import BuildExpr.Proofs.Evaluation.Alike
import BuildExpr.Proofs.Evaluation.Shift
import BuildExpr.Proofs.Expansion.Items
import BuildExpr.Proofs.Expression.ListText
import BuildExpr.Proofs.NameMap

/-!
# Pipelines in stages

A pipeline of stages may be cut in two: what its first part gives is made into items, and the second
part starts from those. When every entry in the middle comes from an item, the items that are made
from the entries start as entries that are alike to them (`alike_itemsOfEntries`), and a pipeline
makes the same text of those (`matches_pipeline`), so the second part gives the text of the whole
(`expand_staged`). It has to start in the surroundings that the first part leaves and with the same
functions open: a first part may close the extended table, which an expansion that has begun does
not notice and the next one does (`exists_staged_ne`).
-/

namespace BuildExpr

open Eval

/-! ## Pipelines -/

namespace Setting

variable (s : Setting)

/-- The entries that a list shows in one text, with the value of the separator between them. -/
def joined (separator : Option Expression) (entries : List Entry) : Eval String :=
  Entries.join
    (fun e => separator.elim (return ";") fun text => evalExpression s (some e.metadataItem) text)
    (s.shownEntries entries)

/-- The text that the stages and the separator of a list make of entries. -/
def pipeline (item : Option Item) (list itemType : String)
    (parts : List Transform × Option Expression) (entries : List Entry) : Eval String := do
  let made ← evalTransforms s item list itemType entries parts.1
  s.joined parts.2 made

end Setting

section Pipeline

variable {s : Setting} {lookup : Lookup} (item : Option Item) (list itemType : String)
  {parts : List Transform × Option Expression} {entries entries' : List Entry}

open TreeNode

/-- The value of an item list is what its stages and its separator make of the items of its type. -/
theorem evalExpression_listTree (name cs : List Char) :
    evalExpression s item (Expression.listTree name cs parts) =
      s.pipeline item (String.ofList (Expression.listText name cs)) (String.ofList name) parts
        (s.entries (String.ofList name)) := by
  rw [evalExpression_of_singleItems s item rfl]
  obtain ⟨transforms, separator⟩ := parts
  cases separator <;> rw [evalItems] <;> rfl

theorem pipeline_append (first : List Transform) :
    s.pipeline item list itemType (first ++ parts.1, parts.2) entries = (do
      let made ← evalTransforms s item list itemType entries first
      s.pipeline item list itemType parts made) := by
  simp only [Setting.pipeline, evalTransforms_append, bind_assoc]

theorem evalTransforms_map_shift (k : Nat) (transforms : List Transform) :
    evalTransforms s item list itemType entries (transforms.map (Transform.shift k)) =
      evalTransforms s item list itemType entries transforms := by
  rw [← Transform.shiftAll_eq_map, evalTransforms_shift]

/-- A pipeline is the same wherever it stands. -/
theorem pipeline_shift (k : Nat) :
    s.pipeline item list itemType (Expression.Agree.shiftParts k parts) entries =
      s.pipeline item list itemType parts entries := by
  obtain ⟨transforms, separator⟩ := parts
  cases separator with
  | none =>
    simp only [Setting.pipeline, Expression.Agree.shiftParts, evalTransforms_map_shift]
    rfl
  | some text =>
    simp only [Setting.pipeline, Setting.joined, Expression.Agree.shiftParts, Option.map_some,
      Option.elim_some, evalTransforms_map_shift, evalExpression_shift]

/-- Two pipelines, one behind the other, are the same wherever each of them stands. -/
theorem pipeline_append_shift (k k' : Nat) (first : List Transform) :
    s.pipeline item list itemType
        (first.map (Transform.shift k) ++ parts.1.map (Transform.shift k'),
          parts.2.map (Expression.shift k')) entries =
      s.pipeline item list itemType (first ++ parts.1, parts.2) entries := by
  calc s.pipeline item list itemType
        (first.map (Transform.shift k) ++ (Expression.Agree.shiftParts k' parts).1,
          (Expression.Agree.shiftParts k' parts).2) entries
      = (do
          let made ← evalTransforms s item list itemType entries (first.map (Transform.shift k))
          s.pipeline item list itemType (Expression.Agree.shiftParts k' parts) made) :=
        pipeline_append item list itemType _
    _ = (do
          let made ← evalTransforms s item list itemType entries first
          s.pipeline item list itemType parts made) := by
        simp only [evalTransforms_map_shift, pipeline_shift]
    _ = _ := (pipeline_append item list itemType first).symm

/-- Entries that are alike are shown alike. -/
theorem matches_joined (hlookup : lookup.SameBesideItems s.lookup) {separator : Option Expression}
    (hflat : ∀ e ∈ separator, (expression e).Flat) (h : Entries.Alike entries entries') :
    Eval.Matches (· = ·) (s.joined separator entries)
      ((s.withLookup lookup).joined separator entries') := by
  refine Entries.matches_join (fun e e' he => ?_) (h.shown s)
  cases separator with
  | none => exact .refl _
  | some text =>
    simp only [Option.elim_some]
    rw [evalExpression_relookup hlookup _ text (hflat text rfl), Entry.Alike.metadataItem he]
    exact .refl _

/-- A pipeline makes the same text of entries that are alike, in whatever list it is written and
whatever the items of the lookup are. -/
theorem matches_pipeline (hlookup : lookup.SameBesideItems s.lookup) (list' : String)
    (hflat : FlatParts parts) (h : Entries.Alike entries entries') :
    Eval.Matches (· = ·) (s.pipeline item list itemType parts entries)
      ((s.withLookup lookup).pipeline item list' itemType parts entries') :=
  (matches_evalTransforms hlookup item list list' itemType hflat.1 h).bind fun _ _ hmade =>
    matches_joined hlookup hflat.2 hmade

/-- Stages that start from entries which are alike to those after other stages go on as they do. -/
theorem result_pipeline_iff (hlookup : lookup.SameBesideItems s.lookup) {first : List Transform}
    (hfirst : ∀ t ∈ first, (transform t).Flat) (hflat : FlatParts parts) {w w₁ : World}
    (hentries : (evalTransforms s item list itemType (s.entries itemType) first).result w =
      (.ok entries, w₁))
    (hstart : Entries.Alike ((s.withLookup lookup).entries itemType) entries)
    (list' list'' t : String) (w₂ : World) :
    ((s.withLookup lookup).pipeline item list' itemType parts
        ((s.withLookup lookup).entries itemType)).result w₁ = (.ok t, w₂) ↔
      (s.pipeline item list'' itemType (first ++ parts.1, parts.2)
        (s.entries itemType)).result w = (.ok t, w₂) := by
  have hself : s.lookup.SameBesideItems s.lookup := ⟨fun _ => rfl, rfl⟩
  -- the same stages at the front of the longer list leave entries that are alike
  obtain ⟨made, hmade, halike⟩ :=
    (matches_evalTransforms hself item list list'' itemType hfirst (.refl _)).exists_result hentries
  have hfused : (s.pipeline item list'' itemType (first ++ parts.1, parts.2)
      (s.entries itemType)).result w = (s.pipeline item list'' itemType parts made).result w₁ := by
    have hmade : (evalTransforms s item list'' itemType (s.entries itemType) first).result w =
        (.ok made, w₁) := hmade
    rw [pipeline_append, result_bind, hmade]
  rw [hfused]
  exact (matches_pipeline item list'' itemType hlookup list' hflat
    (halike.symm.trans hstart.symm)).result_eq_ok_iff.symm

end Pipeline

/-! ## Items made from entries -/

namespace Entry

/-- Outside of a project an item that is made from an entry starts as an entry that is alike. -/
theorem alike_ofItem_create {e : Entry} (h : e.source.isSome = true) :
    (ofItem (({} : ItemFactory).create e.text e.source none)).Alike e := by
  obtain ⟨source, hsource⟩ := Option.isSome_iff_exists.1 h
  refine ⟨?_, ?_⟩
  · rw [hsource]
    rfl
  · rw [hsource]
    exact .some ⟨rfl, rfl, rfl⟩

end Entry

namespace Expander

variable {x : Expander} {options : Options}

/-- The items of entries that all come from items start as entries that are alike. -/
theorem alike_itemsOfEntries (hproject : x.definingProject = none) {entries : List Entry}
    (h : ∀ e ∈ entries, e.source.isSome = true ∧ e.text ≠ "") :
    Entries.Alike ((x.itemsOfEntries {} entries).map Entry.ofItem) entries := by
  have hfilled : Entries.filled entries = entries := by
    refine List.filter_eq_self.2 fun e he => ?_
    simpa using (h e he).2
  rw [itemsOfEntries, hfilled, hproject, List.map_map]
  exact List.forall₂_map_left_iff.2 (List.forall₂_same.2 fun e he =>
    Entry.alike_ofItem_create (h e he).1)

/-! ## Item lists in a text -/

/-- The entries of a text that is a lone item list. -/
def entries? (x : Expander) (text : String) (options : Options) (lookup : Lookup) (w : World) :
    Option (List Entry) :=
  ((Expression.parse options text).toOption.bind Expression.singleItems?).bind fun list =>
    ((evalEntries (x.setting options lookup w) list).result w).1.toOption

theorem entries?_eq_some {x : Expander} {text : String} {options : Options} {lookup : Lookup}
    {w w' : World} {e : Expression} {list : ItemList} {entries : List Entry}
    (he : Expression.parse options text = .ok e) (hlist : e.singleItems? = some list)
    (h : (evalEntries (x.setting options lookup w) list).result w = (.ok entries, w')) :
    x.entries? text options lookup w = some entries := by
  rw [entries?, he, Except.toOption, Option.bind_some, hlist, Option.bind_some, h]
  rfl

open Expression

/-- An item list is one piece. -/
theorem pieces_listText {itemType cs : List Char}
    (h : Chars.Closes '(' ')' { depth := 1 } (itemType ++ cs)) :
    pieces (String.ofList (listText itemType cs)) = [String.ofList (listText itemType cs)] := by
  have hreference : Chars.IsReference (listText itemType cs) := ⟨'@', _, .inr (.inl rfl), h, rfl⟩
  obtain ⟨hrun, hquiet⟩ := Cutter.run_of_isReference (s := {}) rfl hreference
  have hsplit : Chars.splitOutside 0 none [] (listText itemType cs) = [listText itemType cs] := by
    have hsplit := Cutter.splitOutside_of_quiet hquiet [] []
    rw [hrun, List.append_nil, List.append_nil] at hsplit
    simpa [Chars.splitOutside] using hsplit
  have htrim : Chars.trim (listText itemType cs) = listText itemType cs :=
    Chars.trim_eq_self rfl rfl _
  rw [pieces, String.toList_ofList, hsplit, List.map_singleton, htrim]
  rfl

/-- The settings differ in the lookup only as long as the same functions are open. -/
theorem setting_withLookup {w w' : World}
    (h : FunctionTable.isOpen x.allFunctions w'.vars = FunctionTable.isOpen x.allFunctions w.vars)
    (lookup lookup' : Lookup) :
    x.setting options lookup' w' = (x.setting options lookup w).withLookup lookup' := by
  rw [setting, setting, h]
  rfl

variable {lookup : Lookup} {w w₁ : World} {itemType : List Char}

/-- When the functions that are open stay open, they are the same after a list as before it, since
nothing changes the surroundings while none is. -/
theorem isOpen_eq_of_evalEntries {list : ItemList} {entries : List Entry}
    (h : (evalEntries (x.setting options lookup w) list).result w = (.ok entries, w₁))
    (hopened : FunctionTable.isOpen x.allFunctions w.vars = true →
      FunctionTable.isOpen x.allFunctions w₁.vars = true) :
    FunctionTable.isOpen x.allFunctions w₁.vars = FunctionTable.isOpen x.allFunctions w.vars := by
  cases hw : FunctionTable.isOpen x.allFunctions w.vars with
  | true => exact hopened hw
  | false =>
    have hclosed : (x.setting options lookup w).opened = false := hw
    have hkeeps := keeps_evalEntries hclosed list w
    rw [h] at hkeeps
    obtain rfl : w₁ = w := hkeeps
    exact hw

/-- What an item list expands to is what its pipeline makes of the items of its type. -/
theorem result_expandEscaped_listText_iff (hitems : options.items = true) {cs : List Char}
    {parts : List Transform × Option Expression}
    (he : Expression.parse options (String.ofList (listText itemType cs)) =
      .ok (listTree itemType cs parts)) (t : String) (w' : World) :
    (x.expandEscaped (String.ofList (listText itemType cs)) options lookup).result w =
        (.ok t, w') ↔
      ((x.setting options lookup w).pipeline none (String.ofList (listText itemType cs))
        (String.ofList itemType) parts
        ((x.setting options lookup w).entries (String.ofList itemType))).result w =
          (.ok t, w') := by
  have hany : options.expandsAnything = true := by
    simp [Options.expandsAnything, hitems]
  rw [← evalExpression_listTree]
  constructor
  · intro h
    obtain ⟨e, he', hvalue⟩ := exists_value_of_expandEscaped hany h
    obtain rfl := Except.ok.inj (he.symm.trans he')
    exact hvalue
  · exact result_expandEscaped he

/-- An item list whose text is not read expands to nothing. -/
theorem expandEscaped_ne_ok_of_parse (hitems : options.items = true) {text : String}
    (h : (Expression.parse options text).toOption = none) (t : String) (w' : World) :
    (x.expandEscaped text options lookup).result w ≠ (.ok t, w') := by
  intro hresult
  have hany : options.expandsAnything = true := by
    simp [Options.expandsAnything, hitems]
  obtain ⟨e, he, -⟩ := exists_value_of_expandEscaped hany hresult
  rw [he] at h
  cases h

/-- An item list is expanded to items as the one piece that it is. -/
theorem result_expandPiece_of_expandItems {cs : List Char}
    (hcloses : Chars.Closes '(' ')' { depth := 1 } (itemType ++ cs)) {factory : ItemFactory}
    {items : List Item}
    (h : (x.expandItems (String.ofList (listText itemType cs)) options lookup factory).result w =
      (.ok items, w₁)) :
    (x.expandPiece (String.ofList (listText itemType cs)) options lookup factory).result w =
      (.ok items, w₁) := by
  obtain ⟨found, w₂, hfound, hreturn⟩ := result_bind_eq_ok.1 h
  cases hreturn
  rw [pieces_listText hcloses, List.mapM_cons, List.mapM_nil] at hfound
  obtain ⟨made, w₃, hpiece, hreturn⟩ := result_bind_eq_ok.1 hfound
  cases hreturn
  rwa [List.flatten_singleton]

theorem exists_parse_of_expandPiece {piece : String} {factory : ItemFactory} {items : List Item}
    (h : (x.expandPiece piece options lookup factory).result w = (.ok items, w₁)) :
    ∃ e, Expression.parse options piece = .ok e := by
  cases he : Expression.parse options piece with
  | ok e => exact ⟨e, rfl⟩
  | error m =>
    rw [expandPiece, parse, he] at h
    cases h

/-- The items of a list whose stages are all transforms are created from the entries that the
stages leave, and the functions that are open are those from before. -/
theorem exists_entries_of_expandItems (hitems : options.items = true)
    (htype : Chars.name? true itemType = some (itemType, [])) {cs : List Char}
    (hcs : ∀ stage ∈ (⟨0, cs⟩ : Rest).stages, stage.isTransform = true)
    {factory : ItemFactory} {items : List Item}
    (h : (x.expandItems (String.ofList (listText itemType cs)) options lookup factory).result w =
      (.ok items, w₁))
    (hopened : FunctionTable.isOpen x.allFunctions w.vars = true →
      FunctionTable.isOpen x.allFunctions w₁.vars = true) :
    ∃ parts entries, readParts options cs = some parts ∧
      (evalTransforms (x.setting options lookup w) none (String.ofList (listText itemType cs))
        (String.ofList itemType) ((x.setting options lookup w).entries (String.ofList itemType))
        parts.1).result w = (.ok entries, w₁) ∧
      items = x.itemsOfEntries factory entries ∧
      x.entries? (String.ofList (listText itemType cs)) options lookup w = some entries ∧
      FunctionTable.isOpen x.allFunctions w₁.vars = FunctionTable.isOpen x.allFunctions w.vars := by
  have hplain : ∀ stage ∈ (⟨0, cs⟩ : Rest).stages, stage.isFault = false :=
    fun stage hstage => RawStage.isFault_of_isTransform (hcs stage hstage)
  have hbody := balanced_append htype (Rest.readsStages_of_stages hplain).balanced
  have hpiece := result_expandPiece_of_expandItems hbody.closes h
  obtain ⟨e, he⟩ := exists_parse_of_expandPiece hpiece
  have hread := toOption_parse_listText hitems htype hplain
  rw [he] at hread
  obtain ⟨parts, hparts, rfl⟩ := Option.map_eq_some_iff.1 hread.symm
  have hnone : parts.2 = none := separator_of_transforms hcs (Except.toOption_eq_some.1 hparts)
  obtain ⟨entries, hentries, hcreated⟩ := exists_entries_of_expandPiece he rfl
    (by rw [Agree.shiftParts, hnone, Option.map_none]; rfl) hpiece
  refine ⟨parts, entries, hparts, ?_, hcreated, entries?_eq_some he rfl hentries,
    isOpen_eq_of_evalEntries hentries hopened⟩
  rwa [evalEntries, Agree.shiftParts, evalTransforms_map_shift] at hentries

end Expander

/-- A stage of a pipeline may be made into items: `second` behind the items that `first` gives
expands to what both of them expand to, one behind the other. -/
theorem expand_staged {x : Expander} (hproject : x.definingProject = none) {options : Options}
    (hitems : options.items = true) {itemType first second : String}
    (htype : Chars.name? true itemType.toList = some (itemType.toList, []))
    (hfirst : ∀ stage ∈ (Rest.ofText first).stages, stage.isTransform = true)
    (hsecond : ∀ stage ∈ (Rest.ofText second).stages, stage.isFault = false)
    {lookup lookup' : Lookup} {w w₁ : World} {items : List Item}
    (hmade : (x.expandItems ("@(" ++ itemType ++ first ++ ")") options lookup {}).result w =
      (.ok items, w₁))
    (hsources : ∀ entries ∈ x.entries? ("@(" ++ itemType ++ first ++ ")") options lookup w,
      ∀ e ∈ entries, e.source.isSome = true ∧ e.text ≠ "")
    (hopened : FunctionTable.isOpen x.allFunctions w.vars = true →
      FunctionTable.isOpen x.allFunctions w₁.vars = true)
    (hlookup : lookup'.SameBesideItems lookup) (hlookup' : lookup'.items itemType = items)
    (t : String) (w₂ : World) :
    (x.expandEscaped ("@(" ++ itemType ++ second ++ ")") options lookup').result w₁ =
        (.ok t, w₂) ↔
      (x.expandEscaped ("@(" ++ itemType ++ first ++ second ++ ")") options lookup).result w =
        (.ok t, w₂) := by
  have hfused : "@(" ++ itemType ++ first ++ second ++ ")" =
      String.ofList (Expression.listText itemType.toList (first.toList ++ second.toList)) := by
    rw [← String.toList_append, Expression.ofList_listText]
    simp only [String.append_assoc]
  rw [← Expression.ofList_listText] at hmade hsources
  rw [← Expression.ofList_listText, hfused]
  have hstaged := Expression.toOption_parse_listText hitems htype hsecond
  have hboth := Expression.toOption_parse_listText_append hitems htype hfirst hsecond
  obtain ⟨p, entries, hp, hentries, hcreated, hfound, hopened⟩ :=
    Expander.exists_entries_of_expandItems hitems htype hfirst hmade hopened
  rw [hp, Option.bind_some] at hboth
  cases hq : Expression.readParts options second.toList with
  | none =>
    rw [hq, Option.map_none] at hstaged hboth
    exact iff_of_false (Expander.expandEscaped_ne_ok_of_parse hitems hstaged t w₂)
      (Expander.expandEscaped_ne_ok_of_parse hitems hboth t w₂)
  | some q =>
    rw [hq, Option.map_some] at hstaged hboth
    rw [String.ofList_toList] at hentries
    have hstart : Entries.Alike
        (((x.setting options lookup w).withLookup lookup').entries itemType) entries := by
      have halike := Expander.alike_itemsOfEntries hproject (hsources entries hfound)
      rwa [← hcreated, ← hlookup'] at halike
    rw [Expander.result_expandEscaped_listText_iff hitems (Except.toOption_eq_some.1 hstaged),
      Expander.result_expandEscaped_listText_iff hitems (Except.toOption_eq_some.1 hboth),
      Expander.setting_withLookup hopened lookup, String.ofList_toList, pipeline_shift,
      pipeline_append_shift]
    exact result_pipeline_iff none _ itemType hlookup (Expression.flatParts_of_readParts hp).1
      (Expression.flatParts_of_readParts hq) hentries hstart _ _ t w₂

/-- The items of a list of metadata have the metadata of the item they come from. -/
theorem expand_staged_of_metadata :
    ∃ (items : List Item) (w₁ w₂ : World), items.map Item.spec = ["x.c", "y.c"] ∧
      (({ allFunctions := some true } : Expander).expandItems
        ("@(" ++ "I" ++ "->Metadata('M')" ++ ")") .all
        { scopes := [.ofDocument [] [("I", [{ spec := "a", metadata := [("M", "x.c;y.c")] }])]] }
        {}).result .bare = (.ok items, w₁) ∧
      (({ allFunctions := some true } : Expander).expandEscaped
        ("@(" ++ "I" ++ "->'%(Filename)', '%(M)'" ++ ")") .all
        { scopes := [{ items := ({} : NameMap (List Item)).insert "I" items }] }).result w₁ =
          (.ok "xx.c;y.cy", w₂) := by
  have hproject : ({ allFunctions := some true } : Expander).definingProject = none := rfl
  have hoptions : Options.all.items = true := rfl
  have hmade : (({ allFunctions := some true } : Expander).expandItems
      ("@(" ++ "I" ++ "->Metadata('M')" ++ ")") .all
      { scopes := [.ofDocument [] [("I", [{ spec := "a", metadata := [("M", "x.c;y.c")] }])]] }
      {} |>.result .bare).1.toOption.map (List.map Item.spec) = some ["x.c", "y.c"] := by
    decide +kernel
  have hfused : (({ allFunctions := some true } : Expander).expandEscaped
      ("@(" ++ "I" ++ "->Metadata('M')" ++ "->'%(Filename)', '%(M)'" ++ ")") .all
      { scopes := [.ofDocument [] [("I", [{ spec := "a", metadata := [("M", "x.c;y.c")] }])]] }
      |>.result .bare).1.toOption = some "xx.c;y.cy" := by
    decide +kernel
  obtain ⟨items, hmade, hspecs⟩ := Option.map_eq_some_iff.1 hmade
  obtain ⟨w₁, hmade⟩ := exists_of_toOption hmade
  obtain ⟨w₂, hfused⟩ := exists_of_toOption hfused
  have hitems : ({ scopes := [{ items := ({} : NameMap (List Item)).insert "I" items }] } :
      Lookup).items "I" = items := by
    simp [Lookup.items, Scope.items?, NameMap.get?_insert]
  refine ⟨items, w₁, w₂, hspecs, hmade, ?_⟩
  exact (expand_staged hproject hoptions (by decide +kernel) (by decide +kernel)
    (by decide +kernel) hmade (by decide +kernel) (fun _ => rfl) (by exact ⟨fun _ => rfl, rfl⟩)
    hitems _ _).2 hfused

/-- A first part that gives back the items of the list and closes the extended table on the way.
Behind it the second part fails, and from where the first part starts it does not see what the
first part changes. -/
theorem exists_staged_ne :
    ∃ (x : Expander) (lookup : Lookup) (first second : String) (w w₁ : World),
      x.definingProject = none ∧
      (∀ stage ∈ (Rest.ofText first).stages, stage.isTransform = true) ∧
      (∀ stage ∈ (Rest.ofText second).stages, stage.isFault = false) ∧
      (x.expandItems ("@(T" ++ first ++ ")") .all lookup {}).result w =
        (.ok (lookup.items "T"), w₁) ∧
      (∀ entries ∈ x.entries? ("@(T" ++ first ++ ")") .all lookup w,
        ∀ e ∈ entries, e.source.isSome = true ∧ e.text ≠ "") ∧
      ((x.expandEscaped ("@(T" ++ first ++ second ++ ")") .all lookup).result w).1.toOption =
        some "/0" ∧
      ((x.expandEscaped ("@(T" ++ second ++ ")") .all lookup).result w₁).1.toOption = none ∧
      ((x.expandEscaped ("@(T" ++ second ++ ")") .all lookup).result w).1.toOption = some "/1" := by
  refine ⟨{}, { scopes := [.ofDocument [("V", "MSBUILDENABLEALLPROPERTYFUNCTIONS")]
      [("T", [{ spec := "a" }])]] },
    "->'a$([Environment]::SetEnvironmentVariable($(V), 0))'",
    "->'$([Environment]::CurrentDirectory)$([Environment]::GetEnvironmentVariable($(V)))'",
    { World.bare with vars := [("MSBUILDENABLEALLPROPERTYFUNCTIONS", "1")] }, _, rfl,
    ?_, ?_, result_eq_of_toOption ?_, ?_, ?_, ?_, ?_⟩
  all_goals decide +kernel

end BuildExpr
