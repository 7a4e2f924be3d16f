import BuildExpr.Proofs.Expression.Everywhere
import BuildExpr.Proofs.Expression.ParseShift
import BuildExpr.Proofs.Expression.Stages

/-!
# Item lists as texts

The stages and the separator of an item list are those of the text behind its type (`readParts`),
wherever that text stands and whatever reference it is part of (`toOption_parseStages`). When the
first of two texts has no separator, what is read of both, one behind the other, is what is read of
each of them (`toOption_parseStages_append`).
-/

namespace BuildExpr

namespace RawStage

theorem isFault_shift (k : Nat) (raw : RawStage) : (raw.shift k).isFault = raw.isFault := by
  cases raw <;> rfl

theorem isTransform_shift (k : Nat) (raw : RawStage) :
    (raw.shift k).isTransform = raw.isTransform := by
  cases raw <;> rfl

theorem isFault_of_isTransform {raw : RawStage} (h : raw.isTransform = true) :
    raw.isFault = false := by
  cases raw with
  | fault fault => cases h
  | pattern span value => rfl
  | function span name arguments => rfl
  | separator value => rfl

end RawStage

namespace Rest

theorem stages_at (k : Nat) (cs : List Char) :
    (⟨k, cs⟩ : Rest).stages = (⟨0, cs⟩ : Rest).stages.map (RawStage.shift k) := by
  rw [← stages_shift, shift, Nat.zero_add]

/-- A chain is one in every place. -/
theorem readsStages_at (k : Nat) {cs : List Char}
    (h : ∀ stage ∈ (⟨0, cs⟩ : Rest).stages, stage.isFault = false) :
    ReadsStages false ⟨k, cs⟩ (⟨k, cs⟩ : Rest).stages := by
  refine readsStages_of_stages fun stage hstage => ?_
  rw [stages_at] at hstage
  obtain ⟨raw, hraw, rfl⟩ := List.mem_map.1 hstage
  rw [RawStage.isFault_shift, h raw hraw]

/-- The stages of two texts, one behind the other. -/
theorem readsStages_append (k : Nat) {a b : List Char}
    (ha : ∀ stage ∈ (⟨0, a⟩ : Rest).stages, stage.isTransform = true)
    (hb : ∀ stage ∈ (⟨0, b⟩ : Rest).stages, stage.isFault = false) :
    ReadsStages false ⟨k, a ++ b⟩
      ((⟨k, a⟩ : Rest).stages ++ (⟨k + Chars.byteLength a, b⟩ : Rest).stages) := by
  refine (readsStages_at k fun stage h => RawStage.isFault_of_isTransform (ha stage h)).append
    (fun stage hstage => ?_) (readsStages_at _ hb)
  rw [stages_at] at hstage
  obtain ⟨raw, hraw, rfl⟩ := List.mem_map.1 hstage
  rw [RawStage.isTransform_shift, ha raw hraw]

/-- No blank stands in front of a name. -/
theorem skipBlanks_of_name? {r : Rest} {dash : Bool} {p : Span × Rest} (h : r.name? dash = some p) :
    r.skipBlanks = r := by
  obtain ⟨pos, cs⟩ := r
  cases cs with
  | nil => rfl
  | cons c cs =>
    have hc : Chars.isAsciiBlank c = false := by
      rw [Bool.eq_false_iff]
      intro hblank
      simp only [Chars.isAsciiBlank, Bool.or_eq_true, beq_iff_eq] at hblank
      rcases hblank with (((rfl | rfl) | rfl) | rfl) | rfl <;> cases h
    simp [skipBlanks, hc]

end Rest

namespace Expression

open Agree

variable {read : Reader} {options : Options}

/-! ## Stages and the reference around them -/

theorem toOption_parseArguments (ref ref' : Span) (inside : Rest) :
    (parseArguments read options ref inside).toOption =
      (parseArguments read options ref' inside).toOption := by
  rw [parseArguments, parseArguments]
  split
  · rfl
  · split <;> rfl

theorem toOption_parseStage (ref ref' : Span) (parts : List Transform × Option Expression)
    (raw : RawStage) :
    (parseStage read options ref parts raw).toOption =
      (parseStage read options ref' parts raw).toOption := by
  cases raw with
  | pattern span value => rfl
  | function span name arguments =>
    rw [parseStage, parseStage, Except.toOption_bind, Except.toOption_bind,
      toOption_parseArguments ref ref']
  | separator value => rfl
  | fault fault => rfl

/-- The reference that a chain is part of is only named in its faults. -/
theorem toOption_foldlM_parseStage (ref ref' : Span) (raws : List RawStage)
    (parts : List Transform × Option Expression) :
    (raws.foldlM (parseStage read options ref) parts).toOption =
      (raws.foldlM (parseStage read options ref') parts).toOption := by
  induction raws generalizing parts with
  | nil => rfl
  | cons raw raws ih =>
    rw [List.foldlM_cons, List.foldlM_cons, Except.toOption_bind, Except.toOption_bind,
      toOption_parseStage ref ref']
    exact congrArg _ (funext ih)

/-! ## Stages behind others -/

/-- What a stage adds does not depend on the stages before it. -/
theorem parseStage_behind (ref : Span) (before : List Transform)
    (parts : List Transform × Option Expression) (raw : RawStage) :
    parseStage read options ref (before ++ parts.1, parts.2) raw =
      (parseStage read options ref parts raw).map fun p => (before ++ p.1, p.2) := by
  cases raw with
  | pattern span value =>
    rw [parseStage, parseStage]
    cases read (listOptions options) value with
    | error m => rfl
    | ok e => exact congrArg Except.ok (by rw [List.append_assoc])
  | function span name arguments =>
    rw [parseStage, parseStage]
    cases parseArguments read (listOptions options) ref arguments with
    | error m => rfl
    | ok as => exact congrArg Except.ok (by rw [List.append_assoc])
  | separator value =>
    rw [parseStage, parseStage]
    cases read (listOptions options) value <;> rfl
  | fault fault => rfl

theorem parseStages_behind (ref : Span) (before : List Transform) (raws : List RawStage)
    (parts : List Transform × Option Expression) :
    raws.foldlM (parseStage read options ref) (before ++ parts.1, parts.2) =
      (raws.foldlM (parseStage read options ref) parts).map fun p => (before ++ p.1, p.2) := by
  induction raws generalizing parts with
  | nil => rfl
  | cons raw raws ih =>
    rw [List.foldlM_cons, List.foldlM_cons, parseStage_behind]
    cases parseStage read options ref parts raw with
    | error m => rfl
    | ok next => exact ih next

/-- A chain without a separator leaves the list without one. -/
theorem separator_of_transforms {ref : Span} {raws : List RawStage}
    (hraws : ∀ raw ∈ raws, raw.isTransform = true) {parts last : List Transform × Option Expression}
    (h : raws.foldlM (parseStage read options ref) parts = .ok last) : last.2 = parts.2 := by
  induction raws generalizing parts with
  | nil => rw [← Except.ok.inj h]
  | cons raw raws ih =>
    obtain ⟨hraw, hmore⟩ := List.forall_mem_cons.1 hraws
    rw [List.foldlM_cons] at h
    obtain ⟨next, hnext, h⟩ := Except.bind_eq_ok.1 h
    rw [ih hmore h]
    cases raw with
    | pattern span value =>
      obtain ⟨e, -, hnext⟩ := Except.bind_eq_ok.1 hnext
      rw [← Except.ok.inj hnext]
    | function span name arguments =>
      obtain ⟨as, -, hnext⟩ := Except.bind_eq_ok.1 hnext
      rw [← Except.ok.inj hnext]
    | separator value => cases hraw
    | fault fault => cases hraw

/-! ## The text behind the type -/

/-- The stages and the separator that the text behind the type of an item list is read as. -/
def readParts (options : Options) (cs : List Char) : Option (List Transform × Option Expression) :=
  ((⟨0, cs⟩ : Rest).stages.foldlM (parseStage (parseUpTo (cs.length + 1)) options default)
    ([], none)).toOption

/-- What is read of a text depends on neither its place nor the reference around it. -/
theorem toOption_parseStages {k depth : Nat} {cs : List Char} (hdepth : cs.length < depth)
    (ref : Span) :
    ((⟨k, cs⟩ : Rest).stages.foldlM (parseStage (parseUpTo depth) options ref) ([], none)).toOption =
      (readParts options cs).map (shiftParts k) := by
  have hlength : (⟨0, cs⟩ : Rest).chars.length < min (cs.length + 1) depth := by
    simp only
    omega
  have hagree := (agree_parseUpTo k (cs.length + 1) depth).parseStages options default hlength
    (fun _ => Rest.placed_of_mem_stages) ([], none)
  rw [Rest.stages_at, toOption_foldlM_parseStage ref ((default : Span).shift k),
    readParts, ← Except.toOption_map]
  exact congrArg _ hagree

/-- The parts of an item list have no item list in them. -/
theorem flatParts_of_readParts {cs : List Char} {parts : List Transform × Option Expression}
    (h : readParts options cs = some parts) : TreeNode.FlatParts parts :=
  flat_parts (Except.toOption_eq_some.1 h)

/-- What is read of two texts, one behind the other. -/
theorem toOption_parseStages_append {k depth : Nat} {a b : List Char}
    (ha : ∀ stage ∈ (⟨0, a⟩ : Rest).stages, stage.isTransform = true)
    (hb : ∀ stage ∈ (⟨0, b⟩ : Rest).stages, stage.isFault = false)
    (hdepth : a.length + b.length < depth) (ref : Span) :
    ((⟨k, a ++ b⟩ : Rest).stages.foldlM (parseStage (parseUpTo depth) options ref)
        ([], none)).toOption =
      (readParts options a).bind fun p => (readParts options b).map fun q =>
        (p.1.map (Transform.shift k) ++ q.1.map (Transform.shift (k + Chars.byteLength a)),
          q.2.map (Expression.shift (k + Chars.byteLength a))) := by
  rw [(Rest.readsStages_append k ha hb).stages_eq, List.foldlM_append, Except.toOption_bind,
    toOption_parseStages (by omega)]
  cases hp : readParts options a with
  | none => rfl
  | some p =>
    have hnone : p.2 = none := separator_of_transforms ha (Except.toOption_eq_some.1 hp)
    have hparts : shiftParts k p = (p.1.map (Transform.shift k) ++ [], none) := by
      rw [shiftParts, hnone, List.append_nil, Option.map_none]
    simp only [Option.map_some, Option.bind_some, hparts]
    rw [parseStages_behind ref _ _ ([], none), Except.toOption_map,
      toOption_parseStages (by omega), Option.map_map]
    rfl

/-! ## The text of an item list -/

/-- An item list as text. -/
def itemsText (body : List Char) : List Char := '@' :: '(' :: body ++ [')']

/-- A text that is one item list is read as its body is. -/
theorem parse_items (hitems : options.items = true) {body : List Char}
    (hbody : Chars.Closes '(' ')' { depth := 1 } body) :
    parse options (String.ofList (itemsText body)) =
      (parseItems (parseUpTo (itemsText body).length) options ⟨0, String.ofList (itemsText body)⟩
        ⟨2, body⟩).map fun list => .mk ⟨0, String.ofList (itemsText body)⟩ [.items list] := by
  have hchunks : (⟨0, itemsText body⟩ : Rest).chunks options =
      [.items ⟨0, String.ofList (itemsText body)⟩ ⟨2, body⟩] := by
    have h : Chunk.chunksFrom options 0 [] 0 0 (itemsText body ++ []) =
        [.items ⟨0, String.ofList (itemsText body)⟩ ⟨2, body⟩] :=
      Chunk.chunksFrom_reference (.items hitems hbody) []
    rw [List.append_nil] at h
    exact h
  rw [parse, Rest.ofText, String.toList_ofList, String.length_ofList, parseUpTo, parseLevel,
    hchunks, List.mapM_cons, parseChunk]
  cases parseItems (parseUpTo (itemsText body).length) options
    ⟨0, String.ofList (itemsText body)⟩ ⟨2, body⟩ <;> rfl

/-- An item list as text: its type and the text behind it. -/
def listText (itemType cs : List Char) : List Char := '@' :: '(' :: (itemType ++ cs) ++ [')']

theorem parseItems_append {pos : Nat} (ref : Span) {itemType cs : List Char}
    (htype : Chars.name? true itemType = some (itemType, [])) (hcs : Chars.StopsName cs) :
    parseItems read options ref ⟨pos, itemType ++ cs⟩ =
      ((⟨pos + Chars.byteLength itemType, cs⟩ : Rest).stages.foldlM (parseStage read options ref)
        ([], none)).map fun parts =>
          .mk ref ⟨pos, String.ofList itemType⟩ parts.1 parts.2 := by
  have hname : (⟨pos, itemType ++ cs⟩ : Rest).name? true =
      some (⟨pos, String.ofList itemType⟩, ⟨pos + Chars.byteLength itemType, cs⟩) := by
    rw [Rest.name?, Chars.name?_append_stop hcs htype, Option.map_some]
  rw [parseItems, Rest.skipBlanks_of_name? hname, hname]
  dsimp only
  cases (⟨pos + Chars.byteLength itemType, cs⟩ : Rest).stages.foldlM
    (parseStage read options ref) ([], none) <;> rfl

theorem ofList_listText (itemType text : String) :
    String.ofList (listText itemType.toList text.toList) = "@(" ++ itemType ++ text ++ ")" := by
  refine String.toList_injective ?_
  simp [listText]

/-- The tree of an item list with given stages and separator. -/
def listTree (itemType cs : List Char) (parts : List Transform × Option Expression) : Expression :=
  .mk ⟨0, String.ofList (listText itemType cs)⟩
    [.items (.mk ⟨0, String.ofList (listText itemType cs)⟩ ⟨2, String.ofList itemType⟩
      parts.1 parts.2)]

theorem balanced_append {itemType cs : List Char}
    (htype : Chars.name? true itemType = some (itemType, [])) (hbalanced : Chars.Balanced cs) :
    Chars.Balanced (itemType ++ cs) :=
  (Chars.balanced_of_isRefPart fun _ => Chars.isRefPart_of_mem_name? htype).append hbalanced

/-- An item list is read as its stages and its separator. -/
theorem parse_listText (hitems : options.items = true) {itemType cs : List Char}
    (htype : Chars.name? true itemType = some (itemType, [])) (hbalanced : Chars.Balanced cs)
    (hstops : Chars.StopsName cs) :
    parse options (String.ofList (listText itemType cs)) =
      ((⟨2 + Chars.byteLength itemType, cs⟩ : Rest).stages.foldlM
        (parseStage (parseUpTo (String.ofList (listText itemType cs)).length) options
          ⟨0, String.ofList (listText itemType cs)⟩) ([], none)).map (listTree itemType cs) := by
  have hparse := parse_items hitems (balanced_append htype hbalanced).closes
  have htext : itemsText (itemType ++ cs) = listText itemType cs := rfl
  rw [htext, parseItems_append _ htype hstops] at hparse
  rw [hparse, String.length_ofList]
  cases (⟨2 + Chars.byteLength itemType, cs⟩ : Rest).stages.foldlM
    (parseStage (parseUpTo (listText itemType cs).length) options
      ⟨0, String.ofList (listText itemType cs)⟩) ([], none) <;> rfl

section

variable (hitems : options.items = true) {itemType : List Char}
  (htype : Chars.name? true itemType = some (itemType, []))

include hitems htype

theorem toOption_parse_listText {cs : List Char}
    (hcs : ∀ stage ∈ (⟨0, cs⟩ : Rest).stages, stage.isFault = false) :
    (parse options (String.ofList (listText itemType cs))).toOption =
      (readParts options cs).map fun parts =>
        listTree itemType cs (shiftParts (2 + Chars.byteLength itemType) parts) := by
  have hreads := Rest.readsStages_of_stages hcs
  have hlength : cs.length < (String.ofList (listText itemType cs)).length := by
    simp only [String.length_ofList, listText, List.length_append, List.length_cons]
    omega
  rw [parse_listText hitems htype hreads.balanced hreads.stopsName, Except.toOption_map,
    toOption_parseStages hlength, Option.map_map]
  rfl

/-- An item list is read as the stages of two texts behind its type, one behind the other. -/
theorem toOption_parse_listText_append {a b : List Char}
    (ha : ∀ stage ∈ (⟨0, a⟩ : Rest).stages, stage.isTransform = true)
    (hb : ∀ stage ∈ (⟨0, b⟩ : Rest).stages, stage.isFault = false) :
    (parse options (String.ofList (listText itemType (a ++ b)))).toOption =
      (readParts options a).bind fun p => (readParts options b).map fun q =>
        listTree itemType (a ++ b)
          (p.1.map (Transform.shift (2 + Chars.byteLength itemType)) ++
            q.1.map (Transform.shift (2 + Chars.byteLength itemType + Chars.byteLength a)),
          q.2.map (Expression.shift (2 + Chars.byteLength itemType + Chars.byteLength a))) := by
  have hreads := Rest.readsStages_append 0 ha hb
  have hlength : a.length + b.length < (String.ofList (listText itemType (a ++ b))).length := by
    simp only [String.length_ofList, listText, List.length_append, List.length_cons]
    omega
  rw [parse_listText hitems htype hreads.balanced hreads.stopsName, Except.toOption_map,
    toOption_parseStages_append ha hb hlength, Option.map_bind]
  simp only [Function.comp_def, Option.map_map]

end

end Expression

end BuildExpr
