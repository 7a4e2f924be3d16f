import BuildExpr.Proofs.Expansion.QuotedCalls

/-!
# Metadata filters

The functions that keep the entries with a metadata value, without it or with any value at all, and
the one that asks whether there is such an entry, test each entry in the same way
(`Entry.hasValue?`). The filters look at all entries and so fail together, and else each entry is
kept by one of the two that are opposites (`filters_partition`). The question ends at the first
entry that passes and may be answered where the filters fail.
-/

namespace BuildExpr

open Eval Expression

/-- Whether a metadata value of an entry is a given one, in any case of letters. -/
def Entry.hasValue? (w : World) (name value : String) (e : Entry) : Option Bool :=
  (e.metadataItem.metadataValue w name).toOption.map fun found =>
    Text.eqIgnoreCase (Text.unescape found) value

theorem Text.eqIgnoreCase_empty (s : String) : eqIgnoreCase s "" = s.isEmpty := by
  rw [Bool.eq_iff_iff, eqIgnoreCase_iff]
  simp

namespace ItemCall

/-! ## Filters -/

/-- A filter that succeeds has answers for all entries. -/
theorem toOption_keep (test : Entry → Except Diagnostic Bool) (entries : List Entry) :
    (keep test entries).toOption =
      if entries.all fun e => (test e).toOption.isSome then
        some (entries.filter fun e => (test e).toOption == some true)
      else none := by
  induction entries with
  | nil => rfl
  | cons e entries ih =>
    rw [keep, Except.toOption_bind, List.all_cons, List.filter_cons]
    cases test e with
    | error d => rfl
    | ok kept =>
      have hok : (Except.ok kept : Except Diagnostic Bool).toOption = some kept := rfl
      rw [hok, Option.bind_some, Option.isSome_some, Bool.true_and, Except.toOption_bind, ih]
      cases entries.all fun e => (test e).toOption.isSome <;> cases kept <;> rfl

/-- A question over entries that all have answers. -/
theorem anyPasses_of_all {test : Entry → Except Diagnostic Bool} {entries : List Entry}
    (h : entries.all fun e => (test e).toOption.isSome) :
    anyPasses test entries = .ok (entries.any fun e => (test e).toOption == some true) := by
  induction entries with
  | nil => rfl
  | cons e entries ih =>
    rw [List.all_cons, Bool.and_eq_true] at h
    rw [anyPasses, List.any_cons]
    cases htest : test e with
    | error d =>
      rw [htest] at h
      cases h.1
    | ok passed =>
      cases passed with
      | true => rfl
      | false => exact ih h.2

/-! ## Runs of the functions -/

variable {call : ItemCall} {s : Setting} {w : World} (name value : String) (entries : List Entry)

theorem toOption_hasValue (e : Entry) :
    (call.hasValue w name value e).toOption = e.hasValue? w name value := by
  rw [hasValue, Except.toOption_bind, metadataValue, Entry.hasValue?]
  cases e.metadataItem.metadataValue w name <;> rfl

/-- The entries that a filter keeps of entries that all have the value or have it not. -/
def keptBy? (w : World) (name value : String) (wanted : Bool) (entries : List Entry) :
    Option (List Entry) :=
  if entries.all fun e => (e.hasValue? w name value).isSome then
    some (entries.filter fun e => e.hasValue? w name value == some wanted)
  else none

theorem toOption_keep_of {test : Entry → Except Diagnostic Bool} {wanted : Bool}
    (h : ∀ e, (test e).toOption = (e.hasValue? w name value).map (· == wanted)) :
    (keep test entries).toOption = keptBy? w name value wanted entries := by
  have hpass (answer : Option Bool) :
      (answer.map (· == wanted) == some true) = (answer == some wanted) := by
    cases answer with
    | none => rfl
    | some b => cases b <;> cases wanted <;> rfl
  rw [toOption_keep, keptBy?]
  simp only [h, Option.isSome_map, hpass]

theorem toOption_run_metadataValue {wanted : Bool}
    (h : ItemFunction.ofName call.name = .metadataValue wanted) :
    (call.run s w [.text name, .text value] entries).toOption =
      keptBy? w name value wanted entries := by
  have hrun : call.run s w [.text name, .text value] entries =
      keep (fun e => do return (← call.hasValue w name value e) == wanted) entries := by
    rw [run, h]
    rfl
  rw [hrun]
  refine toOption_keep_of name value entries fun e => ?_
  rw [Except.toOption_bind, toOption_hasValue]
  cases e.hasValue? w name value <;> rfl

/-- Entries have a metadata value when it is not the empty one. -/
theorem toOption_run_hasMetadata (h : ItemFunction.ofName call.name = .hasMetadata) :
    (call.run s w [.text name] entries).toOption = keptBy? w name "" false entries := by
  have hrun : call.run s w [.text name] entries =
      keep (fun e => do return !(Text.unescape (← call.metadataValue w name e)).isEmpty) entries := by
    rw [run, h]
    rfl
  rw [hrun]
  refine toOption_keep_of name "" entries fun e => ?_
  rw [Except.toOption_bind, metadataValue, Entry.hasValue?]
  cases e.metadataItem.metadataValue w name with
  | error cause => rfl
  | ok found =>
    simp only [Except.toOption, Option.bind_some, Option.map_some, Text.eqIgnoreCase_empty]
    cases (Text.unescape found).isEmpty <;> rfl

/-- Where the filters succeed, so does the question whether any entry has the value. -/
theorem run_anyHaveMetadataValue (h : ItemFunction.ofName call.name = .anyHaveMetadataValue)
    {kept : List Entry} (hkept : keptBy? w name value true entries = some kept) :
    call.run s w [.text name, .text value] entries =
      .ok [{ text := if kept.isEmpty then "false" else "true" }] := by
  have hrun : call.run s w [.text name, .text value] entries =
      (do
        let found ← anyPasses (call.hasValue w name value) entries
        return [{ text := if found then "true" else "false" }]) := by
    rw [run, h]
    rfl
  rw [keptBy?] at hkept
  split at hkept
  · rename_i hall
    obtain rfl := Option.some.inj hkept
    have hall' : entries.all fun e => (call.hasValue w name value e).toOption.isSome := by
      simpa only [toOption_hasValue] using hall
    rw [hrun, anyPasses_of_all hall']
    simp only [toOption_hasValue]
    have hany : (entries.any fun e => e.hasValue? w name value == some true) =
        !(entries.filter fun e => e.hasValue? w name value == some true).isEmpty := by
      rw [Bool.eq_iff_iff]
      simp [List.filter_eq_nil_iff]
    rw [hany]
    cases (entries.filter fun e => e.hasValue? w name value == some true).isEmpty <;> rfl
  · cases hkept

/-! ## What they keep -/

/-- What two opposite filters keep makes up the entries, and nothing is kept by both. -/
theorem partition_of_keptBy? {kept dropped : List Entry}
    (hkept : keptBy? w name value true entries = some kept)
    (hdropped : keptBy? w name value false entries = some dropped) :
    kept.Sublist entries ∧ dropped.Sublist entries ∧ (kept ++ dropped).Perm entries ∧
      kept.Disjoint dropped := by
  rw [keptBy?] at hkept hdropped
  split at hkept
  · rename_i hall
    rw [if_pos hall] at hdropped
    obtain rfl := Option.some.inj hkept
    obtain rfl := Option.some.inj hdropped
    have hopposite : (entries.filter fun e => e.hasValue? w name value == some false) =
        entries.filter fun e => !(e.hasValue? w name value == some true) := by
      refine List.filter_congr fun e he => ?_
      obtain ⟨b, hb⟩ := Option.isSome_iff_exists.1 (List.all_eq_true.1 hall e he)
      rw [hb]
      cases b <;> rfl
    rw [hopposite]
    refine ⟨List.filter_sublist, List.filter_sublist, List.filter_append_perm _ entries, ?_⟩
    intro e hkept hdropped
    have hpasses := (List.mem_filter.1 hkept).2
    have hfails := (List.mem_filter.1 hdropped).2
    rw [hpasses] at hfails
    cases hfails
  · cases hkept

end ItemCall

/-! ## Calls of the functions -/

namespace Expander

variable {x : Expander} {options : Options} (hitems : options.items = true)
  {itemType chain function : String}
  (htype : Chars.name? true itemType.toList = some (itemType.toList, []))
  (hchain : ∀ stage ∈ (Rest.ofText chain).stages, stage.isTransform = true)
  (hfunction : Chars.name? false function.toList = some (function.toList, []))
  {lookup : Lookup} {w : World}

include hitems htype hchain hfunction

theorem entries?_metadataValue {wanted : Bool}
    (h : ItemFunction.ofName function = .metadataValue wanted) (name value : String) :
    x.entries? (quotedCall itemType chain function [name, value]) options lookup w =
      (x.listed? ("@(" ++ itemType ++ chain ++ ")") options lookup w).bind fun p =>
        ItemCall.keptBy? p.2 name value wanted p.1 := by
  obtain ⟨call, rfl, hentries⟩ := x.entries?_quotedCall hitems htype hchain hfunction lookup w [name, value]
  rw [hentries]
  exact congrArg _ (funext fun p => ItemCall.toOption_run_metadataValue name value p.1 h)

theorem entries?_hasMetadata (h : ItemFunction.ofName function = .hasMetadata) (name : String) :
    x.entries? (quotedCall itemType chain function [name]) options lookup w =
      (x.listed? ("@(" ++ itemType ++ chain ++ ")") options lookup w).bind fun p =>
        ItemCall.keptBy? p.2 name "" false p.1 := by
  obtain ⟨call, rfl, hentries⟩ := x.entries?_quotedCall hitems htype hchain hfunction lookup w [name]
  rw [hentries]
  exact congrArg _ (funext fun p => ItemCall.toOption_run_hasMetadata name p.1 h)

/-- A call of one entry expands to its text. -/
theorem expandEscaped_quotedCall {args : List String} {text : String}
    (h : x.entries? (quotedCall itemType chain function args) options lookup w = some [{ text }]) :
    ((x.expandEscaped (quotedCall itemType chain function args) options lookup).result w).1.toOption =
      some text := by
  rw [← map_fst_listed?] at h
  obtain ⟨⟨entries, w'⟩, hlisted, hentries⟩ := Option.map_eq_some_iff.1 h
  obtain rfl : entries = [{ text }] := hentries
  have hshown : options.shown [text] = [text] := by simp [Options.shown, Setting.entryLimit]
  rw [← map_fst_answer?, answer?_expandEscaped_quotedCall hitems htype hchain hfunction, hlisted]
  simp [hshown, Text.join, Chars.join]

theorem expandEscaped_anyHaveMetadataValue
    (h : ItemFunction.ofName function = .anyHaveMetadataValue) {name value : String}
    {kept : List Entry}
    (hkept : ((x.listed? ("@(" ++ itemType ++ chain ++ ")") options lookup w).bind fun p =>
      ItemCall.keptBy? p.2 name value true p.1) = some kept) :
    ((x.expandEscaped (quotedCall itemType chain function [name, value]) options lookup).result
      w).1.toOption = some (if kept.isEmpty then "false" else "true") := by
  refine expandEscaped_quotedCall hitems htype hchain hfunction ?_
  obtain ⟨call, rfl, hentries⟩ := x.entries?_quotedCall hitems htype hchain hfunction lookup w [name, value]
  obtain ⟨p, hp, hkept⟩ := Option.bind_eq_some_iff.1 hkept
  rw [hentries, hp, Option.bind_some, List.map_cons, List.map_singleton,
    ItemCall.run_anyHaveMetadataValue name value p.1 h hkept]
  rfl

end Expander

/-- The filters for a metadata value part the entries of a list: they succeed together, and then
each of them keeps entries in their order, and every entry is kept by one of them. The entries that
have any value are those that are not without one, and the question whether any has the value is
answered as the filter for it keeps one or none. -/
theorem filters_partition (x : Expander) {options : Options} (hitems : options.items = true)
    {itemType chain : String}
    (htype : Chars.name? true itemType.toList = some (itemType.toList, []))
    (hchain : ∀ stage ∈ (Rest.ofText chain).stages, stage.isTransform = true)
    (name value : String) (lookup : Lookup) (w : World) :
    ((x.entries? (quotedCall itemType chain "WithMetadataValue" [name, value]) options lookup
          w).isSome =
        (x.entries? (quotedCall itemType chain "WithoutMetadataValue" [name, value]) options lookup
          w).isSome) ∧
      (∀ kept dropped,
        x.entries? (quotedCall itemType chain "WithMetadataValue" [name, value]) options lookup w =
          some kept →
        x.entries? (quotedCall itemType chain "WithoutMetadataValue" [name, value]) options lookup
          w = some dropped →
        ∃ entries, x.entries? ("@(" ++ itemType ++ chain ++ ")") options lookup w = some entries ∧
          kept.Sublist entries ∧ dropped.Sublist entries ∧ (kept ++ dropped).Perm entries ∧
          kept.Disjoint dropped) ∧
      x.entries? (quotedCall itemType chain "HasMetadata" [name]) options lookup w =
        x.entries? (quotedCall itemType chain "WithoutMetadataValue" [name, ""]) options lookup w ∧
      ∀ kept,
        x.entries? (quotedCall itemType chain "WithMetadataValue" [name, value]) options lookup w =
          some kept →
        ((x.expandEscaped (quotedCall itemType chain "AnyHaveMetadataValue" [name, value]) options
          lookup).result w).1.toOption = some (if kept.isEmpty then "false" else "true") := by
  have hwithName : ItemFunction.ofName "WithMetadataValue" = .metadataValue true := by decide +kernel
  have hwithoutName : ItemFunction.ofName "WithoutMetadataValue" = .metadataValue false := by
    decide +kernel
  have hwith (value : String) :
      x.entries? (quotedCall itemType chain "WithMetadataValue" [name, value]) options lookup w = _ :=
    Expander.entries?_metadataValue hitems htype hchain (by decide) hwithName name value
  have hwithout (value : String) :
      x.entries? (quotedCall itemType chain "WithoutMetadataValue" [name, value]) options lookup w =
        _ :=
    Expander.entries?_metadataValue hitems htype hchain (by decide) hwithoutName name value
  have hhas : x.entries? (quotedCall itemType chain "HasMetadata" [name]) options lookup w = _ :=
    Expander.entries?_hasMetadata hitems htype hchain (by decide) (by decide +kernel) name
  refine ⟨?_, fun kept dropped hkept hdropped => ?_, ?_, fun kept hkept => ?_⟩
  · rw [hwith, hwithout]
    cases x.listed? ("@(" ++ itemType ++ chain ++ ")") options lookup w with
    | none => rfl
    | some p =>
      simp only [Option.bind_some, ItemCall.keptBy?]
      split <;> rfl
  · rw [hwith] at hkept
    rw [hwithout] at hdropped
    obtain ⟨p, hp, hkept⟩ := Option.bind_eq_some_iff.1 hkept
    rw [hp, Option.bind_some] at hdropped
    refine ⟨p.1, ?_, ItemCall.partition_of_keptBy? name value p.1 hkept hdropped⟩
    rw [← Expander.map_fst_listed?, hp, Option.map_some]
  · rw [hhas, hwithout]
  · rw [hwith] at hkept
    exact Expander.expandEscaped_anyHaveMetadataValue hitems htype hchain (by decide)
      (by decide +kernel) hkept

/-- Items of which two have one include. -/
def repeatedItems : Lookup where
  scopes := [.ofDocument [] [("I",
    [{ spec := "x", metadata := [("M", "A%3bb")] }, { spec := "x", metadata := [("M", "a;B")] },
      { spec := "y", metadata := [("M", "a;b ")] }, { spec := "z", metadata := [("M", "a;b")] }])]]

theorem filters_partition_of_repeated :
    ∃ kept dropped : List Entry,
      ({} : Expander).entries? (quotedCall "I" "->Reverse()" "WithMetadataValue" ["M", "a;b"]) .all
        repeatedItems .bare = some kept ∧ kept.map Entry.text = ["z", "x", "x"] ∧
      ({} : Expander).entries? (quotedCall "I" "->Reverse()" "WithoutMetadataValue" ["M", "a;b"])
        .all repeatedItems .bare = some dropped ∧ dropped.map Entry.text = ["y"] ∧
      (∃ entries, ({} : Expander).entries? ("@(" ++ "I" ++ "->Reverse()" ++ ")") .all repeatedItems
        .bare = some entries ∧ kept.Sublist entries ∧ dropped.Sublist entries ∧
          (kept ++ dropped).Perm entries ∧ kept.Disjoint dropped) ∧
      ((({} : Expander).expandEscaped
        (quotedCall "I" "->Reverse()" "AnyHaveMetadataValue" ["M", "a;b"]) .all
          repeatedItems).result .bare).1.toOption = some "true" := by
  have hkept : (({} : Expander).entries? (quotedCall "I" "->Reverse()" "WithMetadataValue"
      ["M", "a;b"]) .all repeatedItems .bare).map (List.map Entry.text) =
        some ["z", "x", "x"] := by
    decide +kernel
  have hdropped : (({} : Expander).entries? (quotedCall "I" "->Reverse()" "WithoutMetadataValue"
      ["M", "a;b"]) .all repeatedItems .bare).map (List.map Entry.text) = some ["y"] := by
    decide +kernel
  obtain ⟨kept, hkept, hkeptTexts⟩ := Option.map_eq_some_iff.1 hkept
  obtain ⟨dropped, hdropped, hdroppedTexts⟩ := Option.map_eq_some_iff.1 hdropped
  obtain ⟨-, hparts, -, hany⟩ := @filters_partition {} .all rfl "I" "->Reverse()"
    (by decide +kernel) (by decide +kernel) "M" "a;b" repeatedItems .bare
  have hfilled : kept.isEmpty = false := by
    cases kept with
    | nil => cases hkeptTexts
    | cons e kept => rfl
  have hanswer := hany kept hkept
  rw [hfilled] at hanswer
  exact ⟨kept, dropped, hkept, hkeptTexts, hdropped, hdroppedTexts,
    hparts kept dropped hkept hdropped, hanswer⟩

end BuildExpr
