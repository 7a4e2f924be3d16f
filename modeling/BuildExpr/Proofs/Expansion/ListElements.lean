import BuildExpr.Proofs.Expansion.Items
import BuildExpr.Proofs.Expansion.Staged
import BuildExpr.Proofs.Text.Escaping

/-!
# Elements of lists

The elements of an array become entries of a list and nothing else does: the separators between
elements stay raw, and each element is escaped, so that the entries are the values in the array that
are no arrays themselves (`splitList_escaped`). The same holds of the items of a list, whose
includes stand in the text with a `;` between them (`expandEscaped_items`).

The expansion of two texts with a `;` between them is that of each with a `;` between them
(`expandEscaped_append`), and the entries are those of the first and those of the second
(`expand_append`). Reading is local: nothing in the first text, be it an unfinished `%(`, begins a
reference that ends behind the `;`, for the one reference that could have a `;` in it would have
been reported as unclosed (`Token.Readable.append`). Only where item lists are copied as text does
what follows decide how a text is read, so the options are those without such copies.
-/

namespace BuildExpr

/-! ## Lists one behind the other -/

namespace Expander

open Eval

variable {x : Expander} {options : Options} {lookup : Lookup}

/-- The expansion of two texts with a `;` between them. -/
theorem expandEscaped_append {w : World}
    (hoptions : options.items = true ∨ options.metadata = false) {a b ta tb : String}
    (ha : (x.expandEscaped a options lookup).result w = (.ok ta, w))
    (hb : (x.expandEscaped b options lookup).result w = (.ok tb, w)) :
    (x.expandEscaped (a ++ ";" ++ b) options lookup).result w = (.ok (ta ++ ";" ++ tb), w) := by
  cases hany : options.expandsAnything with
  | false =>
    simp only [expandEscaped, hany, Bool.not_false, if_true] at ha hb ⊢
    cases ha
    cases hb
    rfl
  | true =>
    obtain ⟨ea, hparsea, hvaluea⟩ := exists_value_of_expandEscaped hany ha
    obtain ⟨eb, hparseb, hvalueb⟩ := exists_value_of_expandEscaped hany hb
    obtain ⟨xs, hxs, hreadx⟩ := Token.exists_readable hoptions hparsea
    obtain ⟨ys, hys, hready⟩ := Token.exists_readable hoptions hparseb
    have hread := Token.Readable.append hoptions hreadx hready
    have htext : Token.textAll (xs ++ .char ';' :: ys) = (a ++ ";" ++ b).toList := by
      rw [Token.textAll_append, Token.textAll_cons, hxs, hys]
      simp [Token.text]
    obtain ⟨e, he, hvalue⟩ := Token.parse_of_readable hread
    rw [htext, String.ofList_toList] at he
    refine result_expandEscaped he ?_
    rw [Token.evalExpression_eq hreadx hxs.symm hparsea] at hvaluea
    rw [Token.evalExpression_eq hready hys.symm hparseb] at hvalueb
    rw [hvalue, List.map_append, List.map_cons, Token.segment, String.append_assoc]
    refine result_evalSegments_append hvaluea ?_
    rw [evalSegments_literal]
    exact result_bind_eq_ok.2 ⟨tb, w, hvalueb, rfl⟩

/-- The entries of a text are those of what it expands to. -/
theorem expandList_of_expandEscaped {text t : String} {w w' : World}
    (h : (x.expandEscaped text options lookup).result w = (.ok t, w')) :
    (x.expandList text options lookup).result w =
      (.ok ((Text.splitList t).map Text.unescape), w') :=
  result_bind_eq_ok.2 ⟨t, w', h, rfl⟩

/-- Expansion goes over the concatenation of lists: while the extended table of functions is closed
and no item list is copied as text, two texts that expand also expand with a `;` between them, to
what they expand to with a `;` between, and to the entries of the first and those of the second. -/
theorem expand_append {w wa wb : World}
    (hclosed : FunctionTable.isOpen x.allFunctions w.vars = false)
    (hoptions : options.items = true ∨ options.metadata = false) {a b ta tb : String}
    (ha : (x.expandEscaped a options lookup).result w = (.ok ta, wa))
    (hb : (x.expandEscaped b options lookup).result w = (.ok tb, wb)) :
    (x.expandEscaped (a ++ ";" ++ b) options lookup).result w = (.ok (ta ++ ";" ++ tb), w) ∧
      ∃ as bs, (x.expandList a options lookup).result w = (.ok as, w) ∧
        (x.expandList b options lookup).result w = (.ok bs, w) ∧
        (x.expandList (a ++ ";" ++ b) options lookup).result w = (.ok (as ++ bs), w) := by
  obtain rfl := eq_of_expandEscaped hclosed ha
  obtain rfl := eq_of_expandEscaped hclosed hb
  have hboth := expandEscaped_append hoptions ha hb
  refine ⟨hboth, _, _, expandList_of_expandEscaped ha, expandList_of_expandEscaped hb, ?_⟩
  rw [expandList_of_expandEscaped hboth, String.append_assoc, Text.splitList_append,
    List.map_append]

theorem expand_append_of_unfinished :
    (({} : Expander).expandEscaped ("%(M" ++ ";" ++ "$(P))") .all
        { scopes := [.ofDocument [("P", "x;y")] []] }).result .bare =
      (.ok ("%(M" ++ ";" ++ "x;y)"), .bare) ∧
    ∃ as bs,
      (({} : Expander).expandList "%(M" .all
          { scopes := [.ofDocument [("P", "x;y")] []] }).result .bare = (.ok as, .bare) ∧
        (({} : Expander).expandList "$(P))" .all
          { scopes := [.ofDocument [("P", "x;y")] []] }).result .bare = (.ok bs, .bare) ∧
        (({} : Expander).expandList ("%(M" ++ ";" ++ "$(P))") .all
          { scopes := [.ofDocument [("P", "x;y")] []] }).result .bare = (.ok (as ++ bs), .bare) := by
  have hfirst : (({} : Expander).expandEscaped "%(M" .all
      { scopes := [.ofDocument [("P", "x;y")] []] } |>.result .bare).1.toOption = some "%(M" := by
    decide +kernel
  have hsecond : (({} : Expander).expandEscaped "$(P))" .all
      { scopes := [.ofDocument [("P", "x;y")] []] } |>.result .bare).1.toOption = some "x;y)" := by
    decide +kernel
  obtain ⟨wa, ha⟩ := exists_of_toOption hfirst
  obtain ⟨wb, hb⟩ := exists_of_toOption hsecond
  exact expand_append (by decide +kernel) (.inl rfl) ha hb

/-- An item list that is copied as text reaches over the `;`, and the metadata reference in it, which
belongs to a transform, is copied with it. -/
example :
    ((({} : Expander).expandEscaped "@(" { metadata := true } {}).result .bare).1.toOption =
        some "@(" ∧
      ((({} : Expander).expandEscaped "%(M))" { metadata := true } {}).result .bare).1.toOption =
        some ")" ∧
      ((({} : Expander).expandEscaped "@(;%(M))" { metadata := true } {}).result .bare).1.toOption =
        some "@(;%(M))" := by
  decide +kernel

end Expander

namespace Value

/-! ## Values -/

mutual

/-- The values in a value that are no arrays, in order. -/
def leaves : Value → List Value
  | array elements => leavesAll elements
  | v => [v]

/-- The values in values that are no arrays, in order. -/
def leavesAll : List Value → List Value
  | [] => []
  | v :: vs => leaves v ++ leavesAll vs

end

theorem leaves_of_ne_array {v : Value} (h : ∀ elements, v ≠ .array elements) : v.leaves = [v] := by
  cases v with
  | array elements => exact absurd rfl (h elements)
  | _ => rw [leaves]; simp

theorem escaped_of_ne_array {v : Value} (h : ∀ elements, v ≠ .array elements) :
    v.escaped = Text.escape v.display := by
  cases v with
  | array elements => exact absurd rfl (h elements)
  | _ => rw [escaped]; simp

mutual

/-- The entries of a value are its leaves. -/
theorem splitList_escaped : ∀ v : Value,
    (Text.splitList v.escaped).map Text.unescape = Text.entriesOf (v.leaves.map display)
  | .array elements => by
    rw [escaped, leaves, Text.splitList_join, splitList_escapedAll elements]
  | .null | .text _ | .char _ | .bool _ | .int _ | .double _ | .version _ | .dateTime _
  | .timeSpan _ => by
    rw [escaped_of_ne_array (by simp), leaves_of_ne_array (by simp), Text.splitList_escape,
      List.map_singleton]

theorem splitList_escapedAll : ∀ vs : List Value,
    ((escapedAll vs).flatMap Text.splitList).map Text.unescape =
      Text.entriesOf ((leavesAll vs).map display)
  | [] => rfl
  | v :: vs => by
    rw [escapedAll, leavesAll, List.flatMap_cons, List.map_append, splitList_escaped v,
      splitList_escapedAll vs, List.map_append, Text.entriesOf_append]

end

/-- A value that is no array is one entry at most. -/
theorem length_splitList_escaped {v : Value} (h : ∀ elements, v ≠ .array elements) :
    (Text.splitList v.escaped).length ≤ 1 := by
  have hentries := congrArg List.length v.splitList_escaped
  rw [leaves_of_ne_array h, List.map_singleton, Text.entriesOf_singleton, List.length_map]
    at hentries
  rw [hentries]
  split <;> simp

end Value

/-! ## Items -/

/-- The texts of a list that are shown: all, or the first ones and a mark. -/
def Options.shown (options : Options) (texts : List String) : List String :=
  if options.truncate && Setting.entryLimit < texts.length then
    texts.take Setting.entryLimit ++ [Setting.ellipsis]
  else texts

theorem Options.map_escape_shown (options : Options) (texts : List String) :
    (options.shown texts).map Text.escape = options.shown (texts.map Text.escape) := by
  have hellipsis : Text.escape Setting.ellipsis = Setting.ellipsis := by decide
  rw [shown, shown, List.length_map]
  split
  · rw [List.map_append, List.map_take, List.map_singleton, hellipsis]
  · rfl

/-- Entries with the same text between them. -/
theorem Entries.join_pure (separator : String) (entries : List Entry) :
    Entries.join (fun _ => return separator) entries =
      return Text.join separator (entries.map Entry.text) := by
  induction entries with
  | nil => rfl
  | cons e entries ih =>
    cases entries with
    | nil =>
      rw [Entries.join]
      simp [Text.join, Chars.join]
    | cons next entries =>
      rw [Entries.join, ih]
      simp [Text.join, Chars.join, String.append_assoc]

theorem Setting.map_text_shownEntries (s : Setting) (entries : List Entry) :
    (s.shownEntries entries).map Entry.text = s.options.shown (entries.map Entry.text) := by
  rw [shownEntries, Options.shown, List.length_map]
  split
  · rw [List.map_append, List.map_take, List.map_singleton]
  · rfl

theorem Setting.map_text_entries (s : Setting) (itemType : String) :
    (s.entries itemType).map Entry.text = (s.lookup.items itemType).map Item.spec := by
  rw [entries, List.map_map]
  rfl

/-- The text of a list without stages and separator. -/
theorem Setting.pipeline_nil (s : Setting) (item : Option Item) (list itemType : String)
    (entries : List Entry) :
    s.pipeline item list itemType ([], none) entries =
      return Text.join ";" (s.options.shown (entries.map Entry.text)) := by
  rw [pipeline, evalTransforms, pure_bind, joined]
  simp only [Option.elim_none]
  rw [Entries.join_pure, map_text_shownEntries]

namespace Expander

variable {options : Options} {itemType : String}

/-- An item list expands to the includes of the items of its type. -/
theorem expandEscaped_items (x : Expander) (hitems : options.items = true)
    (htype : Chars.name? true itemType.toList = some (itemType.toList, [])) (lookup : Lookup)
    (w : World) :
    (x.expandEscaped ("@(" ++ itemType ++ ")") options lookup).result w =
      (.ok (Text.join ";" (options.shown ((lookup.items itemType).map Item.spec))), w) := by
  have htext : "@(" ++ itemType ++ ")" =
      String.ofList (Expression.listText itemType.toList []) := by
    rw [← String.toList_inj]
    simp [Expression.listText]
  have hstages : (⟨0, []⟩ : Rest).stages = [] := by decide
  have hparse : Expression.parse options (String.ofList (Expression.listText itemType.toList [])) =
      .ok (Expression.listTree itemType.toList [] ([], none)) :=
    Except.toOption_eq_some.1
      (Expression.toOption_parse_listText hitems htype (by simp [hstages]))
  rw [htext, result_expandEscaped_listText_iff hitems hparse, String.ofList_toList,
    Setting.pipeline_nil, Setting.map_text_entries]
  rfl

end Expander

/-- The elements of a list survive rendering and splitting: the entries of a value in escaped form
are the plain texts of its leaves, and those of an item list are the raw texts that the includes of
its items are the escaped forms of, all without the blanks at their ends and without blank ones. -/
theorem list_elements :
    (∀ v : Value, (Text.splitList v.escaped).map Text.unescape =
          Text.entriesOf (v.leaves.map Value.display) ∧
        ((∀ elements, v ≠ .array elements) → (Text.splitList v.escaped).length ≤ 1)) ∧
      ∀ (x : Expander) (options : Options) (lookup : Lookup) (itemType : String)
        (texts : List String) (w : World), options.items = true →
        Chars.name? true itemType.toList = some (itemType.toList, []) →
        (lookup.items itemType).map Item.spec = texts.map Text.escape →
        (x.expandList ("@(" ++ itemType ++ ")") options lookup).result w =
          (.ok (Text.entriesOf (options.shown texts)), w) := by
  refine ⟨fun v => ⟨v.splitList_escaped, Value.length_splitList_escaped⟩, ?_⟩
  intro x options lookup itemType texts w hitems htype hspecs
  have hescaped := x.expandEscaped_items hitems htype lookup w
  rw [hspecs, ← Options.map_escape_shown] at hescaped
  rw [Expander.expandList_of_expandEscaped hescaped, Text.splitList_join_escape]

theorem list_elements_of_marks :
    (Text.splitList (Value.array [.text " ;%", .array [.text "a", .null], .bool true]).escaped).map
        Text.unescape = [";%", "a", "True"] ∧
      (({} : Expander).expandList ("@(" ++ "I" ++ ")") .all { scopes := [.ofDocument []
          [("I", [{ spec := "a%3bb" }, { spec := " " }, { spec := "50%25 " }])]] }).result .bare =
        (.ok ["a;b", "50%"], .bare) := by
  obtain ⟨hvalues, hitems⟩ := list_elements
  have hleaves : Text.entriesOf ((Value.array
      [.text " ;%", .array [.text "a", .null], .bool true]).leaves.map Value.display) =
      [";%", "a", "True"] := by
    decide +kernel
  have hspecs : (({ scopes := [.ofDocument []
      [("I", [{ spec := "a%3bb" }, { spec := " " }, { spec := "50%25 " }])]] } : Lookup).items
      "I").map Item.spec = ["a;b", " ", "50% "].map Text.escape := by
    decide +kernel
  have hentries : Text.entriesOf (Options.all.shown ["a;b", " ", "50% "]) = ["a;b", "50%"] := by
    decide +kernel
  refine ⟨by rw [(hvalues _).1, hleaves], ?_⟩
  rw [hitems {} .all _ "I" _ .bare rfl (by decide +kernel) hspecs, hentries]

end BuildExpr
