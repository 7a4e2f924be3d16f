import BuildExpr.Proofs.Evaluation.Names
import BuildExpr.Proofs.Expansion.LastStage
import BuildExpr.Proofs.Expression.Recase
import BuildExpr.Proofs.Text.Decoding

/-!
# The forms of metadata access

The metadata of the entries of a list are asked for by the function `Metadata`, by a pattern that is
a reference to them, and, when their name is reserved, by a function of that name. The first makes
entries of the pieces of a value, the second one entry of each value, and the third leaves out empty
entries first. All of them go over the same values (`Entry.valued?`), and the pieces of the entries
are the pieces of the values, so they expand to the same list (`metadata_forms_agree`).
-/

namespace BuildExpr

open Eval Expression

/-! ## Reserved names -/

namespace Reserved

variable {name : String} {r : Reserved}

theorem sameName_of_ofName? (h : ofName? name = some r) : Text.SameName r.name name := by
  rw [ofName?] at h
  have hsame := List.find?_some h
  exact hsame

/-- A reserved name is a function of item lists. -/
theorem ofName_eq_reserved (h : ofName? name = some r) : ItemFunction.ofName name = .reserved r := by
  have hname : ItemFunction.ofName r.name = .reserved r := by
    cases r <;> decide +kernel
  exact (ItemFunction.ofName_congr (sameName_of_ofName? h)).symm.trans hname

theorem named_of_ofName? (h : ofName? name = some r) :
    Chars.name? false name.toList = some (name.toList, []) := by
  have hlower : name.toList.map Char.toLower = r.name.toList.map Char.toLower :=
    (Text.eqIgnoreCase_iff.1 (sameName_of_ofName? h)).symm
  refine Chars.name?_of_toLower ?_
  rw [hlower]
  cases r <;> decide +kernel

end Reserved

/-! ## Entries with metadata values as texts -/

/-- An entry with a metadata value as its text. -/
def Entry.valued? (w : World) (name : String) (e : Entry) : Option Entry :=
  (e.metadataItem.metadataValue w name).toOption.map fun value => { e with text := value }

/-- A pattern that is a reference to metadata puts the values in the places of the texts. -/
theorem answer?_retext_metadataValue (s : Setting) (name : List Char) (entries : List Entry)
    (w : World) :
    (Entries.retext (fun item => s.metadataValue (some item) (metadataRef name)) entries).answer? w =
      (entries.mapM (Entry.valued? w (String.ofList name))).map fun made => (made, w) := by
  have hvalue (item : Item) : (s.metadataValue (some item) (metadataRef name)).answer? w =
      (item.metadataValue w (String.ofList name)).toOption.map fun value => (value, w) := by
    have hitem : (some item <|> s.lookup.metadataItem) = some item := rfl
    have hqualified : item.qualifiedMetadata w ((metadataRef name).itemType.map Span.text)
        (metadataRef name).name.text = item.metadataValue w (String.ofList name) := rfl
    rw [Setting.metadataValue, answer?_look]
    simp only [hitem, hqualified]
    cases item.metadataValue w (String.ofList name) <;> rfl
  induction entries with
  | nil => rfl
  | cons e entries ih =>
    rw [Entries.retext] at ih ⊢
    rw [List.mapM_cons, List.mapM_cons, Entry.valued?]
    simp only [answer?_bind, hvalue, answer?_pure]
    cases e.metadataItem.metadataValue w (String.ofList name) with
    | error cause => rfl
    | ok value =>
      simp only [Except.toOption, Option.map_some, Option.bind_some, ih, Option.bind_map]
      cases entries.mapM (Entry.valued? w (String.ofList name)) <;> rfl

namespace ItemCall

variable {call : ItemCall} {s : Setting} {w : World}

/-- What replaces each entry is made of another one. -/
theorem toOption_replaceEach {f : Entry → Except Diagnostic (List Entry)}
    {value? : Entry → Option Entry} {pieces : Entry → List Entry}
    (hf : ∀ e, (f e).toOption = (value? e).map pieces) (entries : List Entry) :
    (replaceEach f entries).toOption =
      (entries.mapM value?).map fun made => made.flatMap pieces := by
  induction entries with
  | nil => rfl
  | cons e entries ih =>
    rw [replaceEach, Except.toOption_bind, hf, List.mapM_cons]
    cases value? e with
    | none => rfl
    | some made =>
      simp only [Option.map_some, Option.bind_some, Except.toOption_bind, ih, Option.bind_eq_bind]
      cases entries.mapM value? <;> rfl

theorem toOption_metadataValue (name : String) (e : Entry) :
    (call.metadataValue w name e).toOption = (e.metadataItem.metadataValue w name).toOption := by
  rw [metadataValue]
  cases e.metadataItem.metadataValue w name <;> rfl

/-- The entries of the pieces of an entry. -/
def spread (e : Entry) : List Entry :=
  if e.text.toList.contains ';' then
    (Text.splitList e.text).map fun piece => { e with text := piece }
  else Entries.filled [e]

theorem toOption_spreadMetadata (name : String) (e : Entry) :
    (call.spreadMetadata w name e).toOption = (e.valued? w name).map spread := by
  rw [spreadMetadata, Except.toOption_bind, toOption_metadataValue, Entry.valued?]
  cases e.metadataItem.metadataValue w name with
  | error cause => rfl
  | ok value =>
    simp only [Except.toOption, Option.bind_some, Option.map_some, spread]
    cases value.toList.contains ';' <;> rfl

/-- The function `Metadata` makes entries of the pieces of the values. -/
theorem toOption_run_metadata (h : ItemFunction.ofName call.name = .metadata) (name : String)
    (entries : List Entry) :
    (call.run s w [.text name] entries).toOption =
      (entries.mapM (Entry.valued? w name)).map fun made => made.flatMap spread := by
  have hrun : call.run s w [.text name] entries =
      replaceEach (call.spreadMetadata w name) entries := by
    rw [run, h]
    rfl
  rw [hrun, toOption_replaceEach (toOption_spreadMetadata name)]

theorem toOption_computed {name : String} {r : Reserved} (h : Reserved.ofName? name = some r)
    (e : Entry) :
    (call.computed w r e).toOption = (e.valued? w name).map fun made => Entries.filled [made] := by
  have hvalue : e.metadataItem.metadataValue w name = e.metadataItem.reservedMetadata w r := by
    rw [Item.metadataValue, h]
  rw [computed, Except.toOption_bind, Entry.valued?, hvalue]
  cases e.metadataItem.reservedMetadata w r <;> rfl

/-- The function of a reserved name leaves the values that are not empty, if no entry is. -/
theorem toOption_run_reserved {r : Reserved} (h : Reserved.ofName? call.name = some r)
    {entries : List Entry} (hfilled : ∀ e ∈ entries, e.text ≠ "") :
    (call.run s w [] entries).toOption =
      (entries.mapM (Entry.valued? w call.name)).map Entries.filled := by
  have hself : Entries.filled entries = entries :=
    List.filter_eq_self.2 fun e he => by simpa using hfilled e he
  have hrun : call.run s w [] entries = replaceEach (call.computed w r) entries := by
    rw [run, Reserved.ofName_eq_reserved h]
    show replaceEach (call.computed w r) (Entries.filled entries) = _
    rw [hself]
  rw [hrun, toOption_replaceEach (toOption_computed h)]
  refine congrArg (Option.map · _) (funext fun made => ?_)
  induction made with
  | nil => rfl
  | cons e made ih =>
    rw [List.flatMap_cons, ih]
    simp only [Entries.filled, List.filter_cons, List.filter_nil]
    split <;> rfl

end ItemCall

/-! ## Pieces of entries -/

namespace Entries

/-- The pieces of the texts of entries, without escapes. -/
def pieces (entries : List Entry) : List String :=
  (entries.flatMap fun e => Text.splitList e.text).map Text.unescape

theorem pieces_cons (e : Entry) (entries : List Entry) :
    pieces (e :: entries) = (Text.splitList e.text).map Text.unescape ++ pieces entries := by
  rw [pieces, List.flatMap_cons, List.map_append]
  rfl

theorem pieces_append (entries entries' : List Entry) :
    pieces (entries ++ entries') = pieces entries ++ pieces entries' := by
  rw [pieces, List.flatMap_append, List.map_append]
  rfl

/-- Empty entries have no pieces. -/
theorem pieces_filled (entries : List Entry) : pieces (filled entries) = pieces entries := by
  induction entries with
  | nil => rfl
  | cons e entries ih =>
    rw [filled, List.filter_cons, pieces_cons, ← ih]
    split
    · exact pieces_cons _ _
    · rename_i hempty
      obtain hempty : e.text = "" := by simpa using hempty
      rw [hempty]
      rfl

/-- The entries of the pieces of entries have the same pieces. -/
theorem pieces_spread (entries : List Entry) :
    pieces (entries.flatMap ItemCall.spread) = pieces entries := by
  have hone (e : Entry) : pieces (ItemCall.spread e) = pieces [e] := by
    rw [ItemCall.spread]
    split
    · rw [pieces, pieces, List.flatMap_map, List.flatMap_singleton, Text.flatMap_splitList]
    · exact pieces_filled [e]
  induction entries with
  | nil => rfl
  | cons e entries ih =>
    rw [List.flatMap_cons, pieces_append, ih, hone, ← pieces_append, List.singleton_append]

/-- The list that the texts of entries make up. -/
theorem splitList_join_text (entries : List Entry) :
    (Text.splitList (Text.join ";" (entries.map Entry.text))).map Text.unescape =
      pieces entries := by
  rw [Text.splitList_join, List.flatMap_map, pieces]

end Entries

/-! ## Expansion -/

namespace Expression

variable {name : List Char} (hname : Chars.name? true name = some (name, []))

/-- A call of the function `Metadata` with a name in quotes, as a stage. -/
def metadataCall (name : List Char) : List Char :=
  callStage "Metadata".toList (Chars.quotedList '\x60' [name])

include hname

theorem quote_not_mem_metadataText : '"' ∉ metadataText name := by
  have hquote : '"' ∉ name := Chars.quote_not_mem_of_name? hname rfl
  simpa [metadataText] using hquote

theorem isTransform_metadataCall :
    ∀ stage ∈ (⟨0, metadataCall name⟩ : Rest).stages, stage.isTransform = true := by
  have hquote : '\x60' ∉ name := Chars.quote_not_mem_of_name? hname rfl
  exact isTransform_callStage (by decide)
    (Chars.balanced_quotedList rfl (List.forall_mem_singleton.2 hquote)).closes

end Expression

namespace Expander

variable {x : Expander} {options : Options} (hitems : options.items = true)
  (htruncate : options.truncate = false) {itemType : List Char}
  (htype : Chars.name? true itemType = some (itemType, [])) {lookup : Lookup} {w : World}

include hitems htruncate htype

/-- An item list without a separator as a list. -/
theorem answer?_expandList_listText {cs : List Char}
    (hcs : ∀ stage ∈ (⟨0, cs⟩ : Rest).stages, stage.isTransform = true) :
    (x.expandList (String.ofList (listText itemType cs)) options lookup).answer? w =
      (x.listed? (String.ofList (listText itemType cs)) options lookup w).map fun p =>
        (Entries.pieces p.1, p.2) := by
  rw [expandList, answer?_bind, answer?_expandEscaped_listText hitems htype hcs, Option.bind_map,
    Option.map_eq_bind]
  refine congrArg _ (funext fun p => ?_)
  simp only [Function.comp_apply, answer?_pure, Options.shown, htruncate, Bool.false_and,
    Bool.false_eq_true, if_false, Entries.splitList_join_text]

section

variable {a name : List Char}
  (ha : ∀ stage ∈ (⟨0, a⟩ : Rest).stages, stage.isTransform = true)

include ha

omit htruncate

/-- A pattern that is a reference to metadata. -/
theorem listed?_metadataPattern (hname : Chars.name? true name = some (name, [])) :
    x.listed? (String.ofList (listText itemType (a ++ patternStage '"' (metadataText name)))) options
        lookup w =
      (x.listed? (String.ofList (listText itemType a)) options lookup w).bind fun p =>
        (p.1.mapM (Entry.valued? p.2 (String.ofList name))).map fun made =>
          (Entries.filled made, p.2) := by
  obtain ⟨e, he, hvalue⟩ := @parse_metadataText (listOptions options) rfl name hname
  rw [listed?_patternStage hitems htype ha rfl (quote_not_mem_metadataText hname) he]
  refine congrArg _ (funext fun p => ?_)
  simp only [hvalue, answer?_retext_metadataValue, Option.map_map]
  rfl

/-- The function `Metadata` with a name in quotes. -/
theorem listed?_metadataCall (hname : Chars.name? true name = some (name, [])) :
    x.listed? (String.ofList (listText itemType (a ++ metadataCall name))) options lookup w =
      (x.listed? (String.ofList (listText itemType a)) options lookup w).bind fun p =>
        (p.1.mapM (Entry.valued? p.2 (String.ofList name))).map fun made =>
          (made.flatMap ItemCall.spread, p.2) := by
  have hcalled : Chars.name? false "Metadata".toList = some ("Metadata".toList, []) := by decide
  have hfunction : ItemFunction.ofName "Metadata" = .metadata := by decide +kernel
  have hquote : '\x60' ∉ name := Chars.quote_not_mem_of_name? hname rfl
  have hplain : Text.unescape (String.ofList name) = String.ofList name := by
    rw [Text.unescape, String.toList_ofList, Chars.unescape_of_not_mem fun h => by
      cases Chars.isRefPart_of_mem_name? hname h]
  obtain ⟨call, hcall, hlisted⟩ := listed?_callStage_quoted hitems htype ha hcalled (q := '\x60') rfl
    (List.forall_mem_singleton.2 ⟨hquote, .of_name? hname⟩)
  rw [metadataCall, hlisted]
  refine congrArg _ (funext fun p => ?_)
  rw [List.map_singleton, hplain, ItemCall.toOption_run_metadata (hcall ▸ hfunction), Option.map_map]
  rfl

/-- The function of a reserved name. -/
theorem listed?_reservedCall (hreserved : (Reserved.ofName? (String.ofList name)).isSome = true)
    (hfilled : ∀ p ∈ x.listed? (String.ofList (listText itemType a)) options lookup w,
      ∀ e ∈ p.1, e.text ≠ "") :
    x.listed? (String.ofList (listText itemType (a ++ callStage name []))) options lookup w =
      (x.listed? (String.ofList (listText itemType a)) options lookup w).bind fun p =>
        (p.1.mapM (Entry.valued? p.2 (String.ofList name))).map fun made =>
          (Entries.filled made, p.2) := by
  obtain ⟨r, hr⟩ := Option.isSome_iff_exists.1 hreserved
  have hcalled : Chars.name? false name = some (name, []) := by
    simpa using Reserved.named_of_ofName? hr
  have has : readArguments (listOptions options) [] = .ok [] := rfl
  obtain ⟨call, hcall, hlisted⟩ :=
    listed?_callStage hitems htype ha hcalled Chars.Balanced.nil.closes has fun s item => rfl
  rw [hlisted]
  cases hp : x.listed? (String.ofList (listText itemType a)) options lookup w with
  | none => rfl
  | some p =>
    rw [Option.bind_some, Option.bind_some, ← hcall,
      ItemCall.toOption_run_reserved (hcall ▸ hr) (hfilled p hp), Option.map_map]
    rfl

end

end Expander

/-- The function and the pattern for the metadata of a name agree: they expand to the same list, or
both fail. If the name is reserved and no entry is empty, the function of that name and the pattern
expand to the same text, or both fail. -/
theorem metadata_forms_agree (x : Expander) {options : Options} (hitems : options.items = true)
    (htruncate : options.truncate = false) {itemType chain name : String}
    (htype : Chars.name? true itemType.toList = some (itemType.toList, []))
    (hchain : ∀ stage ∈ (Rest.ofText chain).stages, stage.isTransform = true)
    (hname : Chars.name? true name.toList = some (name.toList, [])) (lookup : Lookup) (w : World) :
    (x.expandList ("@(" ++ itemType ++ chain ++ "->Metadata(`" ++ name ++ "`))") options
        lookup).answer? w =
      (x.expandList ("@(" ++ itemType ++ chain ++ "->\"%(" ++ name ++ ")\")") options
        lookup).answer? w ∧
    ((Reserved.ofName? name).isSome = true →
      (∀ entries ∈ x.entries? ("@(" ++ itemType ++ chain ++ ")") options lookup w,
        ∀ e ∈ entries, e.text ≠ "") →
      (x.expandEscaped ("@(" ++ itemType ++ chain ++ "->" ++ name ++ "())") options
          lookup).answer? w =
        (x.expandEscaped ("@(" ++ itemType ++ chain ++ "->\"%(" ++ name ++ ")\")") options
          lookup).answer? w) := by
  have hcall : "@(" ++ itemType ++ chain ++ "->Metadata(`" ++ name ++ "`))" =
      String.ofList (listText itemType.toList (chain.toList ++ metadataCall name.toList)) := by
    refine String.toList_injective ?_
    simp [listText, metadataCall, callStage, applied, Chars.quotedList, Chars.join]
  have hpattern : "@(" ++ itemType ++ chain ++ "->\"%(" ++ name ++ ")\")" =
      String.ofList (listText itemType.toList
        (chain.toList ++ patternStage '"' (metadataText name.toList))) := by
    refine String.toList_injective ?_
    simp [listText, patternStage, metadataText]
  have hreserved : "@(" ++ itemType ++ chain ++ "->" ++ name ++ "())" =
      String.ofList (listText itemType.toList (chain.toList ++ callStage name.toList [])) := by
    refine String.toList_injective ?_
    simp [listText, callStage, applied]
  have hmetadata := isTransform_stages_append hchain (isTransform_metadataCall hname)
  have hreference := isTransform_stages_append hchain
    (isTransform_patternStage rfl (quote_not_mem_metadataText hname))
  rw [hcall, hpattern]
  refine ⟨?_, fun hr hfilled => ?_⟩
  · rw [Expander.answer?_expandList_listText hitems htruncate htype hmetadata,
      Expander.answer?_expandList_listText hitems htruncate htype hreference,
      Expander.listed?_metadataCall hitems htype hchain hname,
      Expander.listed?_metadataPattern hitems htype hchain hname, Option.map_bind, Option.map_bind]
    simp only [Function.comp_def, Option.map_map, Entries.pieces_spread, Entries.pieces_filled]
  · obtain ⟨r, hr'⟩ := Option.isSome_iff_exists.1 hr
    have hmember := isTransform_stages_append hchain
      (isTransform_callStage (Reserved.named_of_ofName? hr') Chars.Balanced.nil.closes)
    rw [hreserved, Expander.answer?_expandEscaped_listText hitems htype hmember,
      Expander.answer?_expandEscaped_listText hitems htype hreference,
      Expander.listed?_metadataPattern hitems htype hchain hname,
      Expander.listed?_reservedCall hitems htype hchain (by rwa [String.ofList_toList])]
    intro p hp
    refine hfilled p.1 ?_
    rw [← Expression.ofList_listText, ← Expander.map_fst_listed?]
    exact Option.mem_map_of_mem Prod.fst hp

theorem metadata_forms_agree_of_marks :
    ∃ lookup : Lookup,
      ((({} : Expander).expandList ("@(" ++ "I" ++ "->Reverse()" ++ "->Metadata(`" ++ "M" ++ "`))")
        .all lookup).answer? .bare).map Prod.fst = some ["c", "a;b", "d"] ∧
      (({} : Expander).expandList ("@(" ++ "I" ++ "->Reverse()" ++ "->Metadata(`" ++ "M" ++ "`))")
          .all lookup).answer? .bare =
        (({} : Expander).expandList ("@(" ++ "I" ++ "->Reverse()" ++ "->\"%(" ++ "M" ++ ")\")")
          .all lookup).answer? .bare ∧
      ((({} : Expander).expandEscaped ("@(" ++ "I" ++ "->Reverse()" ++ "->" ++ "FILENAME" ++ "())")
        .all lookup).answer? .bare).map Prod.fst = some "y;x%3b" ∧
      (({} : Expander).expandEscaped ("@(" ++ "I" ++ "->Reverse()" ++ "->" ++ "FILENAME" ++ "())")
          .all lookup).answer? .bare =
        (({} : Expander).expandEscaped
          ("@(" ++ "I" ++ "->Reverse()" ++ "->\"%(" ++ "FILENAME" ++ ")\")")
          .all lookup).answer? .bare := by
  refine ⟨{ scopes := [.ofDocument [] [("I", [{ spec := "x%3b.c", metadata := [("M", " a%3bb ; d")] },
    { spec := "y.h", metadata := [("M", "c;")] }])]] }, ?_, ?_, ?_, ?_⟩
  · decide +kernel
  · exact (metadata_forms_agree {} rfl rfl (by decide +kernel) (by decide +kernel)
      (by decide +kernel) _ _).1
  · decide +kernel
  · exact (metadata_forms_agree {} rfl rfl (by decide +kernel) (by decide +kernel)
      (by decide +kernel) _ _).2 (by decide +kernel) (by decide +kernel)

end BuildExpr
