import BuildExpr.Proofs.Expansion.LastStage
import BuildExpr.Proofs.Expansion.Template

/-!
# Calls with texts in quotes

A call of an item function is written behind a chain of stages, with its arguments escaped and in
quotes (`quotedCall`). It gives the entries of one run of the function on those of the chain
(`Expander.listed?_quotedCall`) and expands to their texts
(`Expander.answer?_expandEscaped_quotedCall`).
-/

namespace BuildExpr

open Eval Expression

namespace Chars

theorem inert_escape (cs : List Char) : Inert (escape cs) := by
  intro options
  have hnil : Token.Scan options [] := .nil
  have hscan := Slot.scan_escape cs hnil
  rwa [List.append_nil] at hscan

theorem quote_not_mem_escape (cs : List Char) : '\'' ∉ escape cs :=
  fun h => absurd (eq_percent_of_mem_escape h rfl) (by decide)

end Chars

/-- A call on the items of a type after a chain of stages, with texts in quotes as its arguments. -/
def quotedCall (itemType chain function : String) (args : List String) : String :=
  "@(" ++ itemType ++ chain ++ "->" ++ function ++ "(" ++
    Text.join ", " (args.map fun arg => "'" ++ Text.escape arg ++ "'") ++ "))"

theorem quotedCall_eq (itemType chain function : String) (args : List String) :
    quotedCall itemType chain function args =
      String.ofList (listText itemType.toList (chain.toList ++
        callStage function.toList
          (Chars.quotedList '\'' (args.map fun arg => Chars.escape arg.toList)))) := by
  refine String.toList_injective ?_
  simp [quotedCall, listText, callStage, applied, Chars.quotedList, Text.join, Text.escape,
    Function.comp_def]

example : quotedCall "I" "->Reverse()" "WithMetadataValue" ["M", "a;b"] =
    "@(I->Reverse()->WithMetadataValue('M', 'a%3bb'))" := by
  decide +kernel

/-- No argument of such a call ends before its closing quote or mentions anything. -/
theorem of_mem_escaped {args : List String} {value : List Char}
    (h : value ∈ args.map fun arg => Chars.escape arg.toList) :
    '\'' ∉ value ∧ Chars.Inert value := by
  obtain ⟨arg, -, rfl⟩ := List.mem_map.1 h
  exact ⟨Chars.quote_not_mem_escape _, Chars.inert_escape _⟩

namespace Expander

variable {x : Expander} {options : Options} (hitems : options.items = true)
  {itemType chain function : String}
  (htype : Chars.name? true itemType.toList = some (itemType.toList, []))

include hitems htype

variable (hchain : ∀ stage ∈ (Rest.ofText chain).stages, stage.isTransform = true)
  (hfunction : Chars.name? false function.toList = some (function.toList, []))
  {lookup : Lookup} {w : World}

include hchain hfunction

variable (x lookup w) in
/-- The entries of such a call are those of a run of the function on the entries of the chain. -/
theorem listed?_quotedCall (args : List String) :
    ∃ call : ItemCall, call.name = function ∧
      x.listed? (quotedCall itemType chain function args) options lookup w =
        (x.listed? ("@(" ++ itemType ++ chain ++ ")") options lookup w).bind fun p =>
          (call.run (x.setting options lookup w) p.2 (args.map .text) p.1).toOption.map fun made =>
            (made, p.2) := by
  obtain ⟨call, hcall, hlisted⟩ :=
    listed?_callStage_quoted hitems htype hchain hfunction rfl fun value => of_mem_escaped
  rw [String.ofList_toList] at hcall
  have hargs : ((args.map fun arg => Chars.escape arg.toList).map fun value =>
      Value.text (Text.unescape (String.ofList value))) = args.map .text := by
    rw [List.map_map]
    exact List.map_congr_left fun arg _ => congrArg Value.text (Text.unescape_escape arg)
  exact ⟨call, hcall, by rw [quotedCall_eq, hlisted, hargs, ← ofList_listText]⟩

variable (x lookup w) in
theorem entries?_quotedCall (args : List String) :
    ∃ call : ItemCall, call.name = function ∧
      x.entries? (quotedCall itemType chain function args) options lookup w =
        (x.listed? ("@(" ++ itemType ++ chain ++ ")") options lookup w).bind fun p =>
          (call.run (x.setting options lookup w) p.2 (args.map .text) p.1).toOption := by
  obtain ⟨call, hcall, hlisted⟩ := x.listed?_quotedCall hitems htype hchain hfunction lookup w args
  refine ⟨call, hcall, ?_⟩
  rw [← map_fst_listed?, hlisted, Option.map_bind]
  refine congrArg _ (funext fun p => ?_)
  rw [Function.comp_apply, Option.map_map]
  exact Option.map_id'

/-- Such a call expands to the texts of its entries. -/
theorem answer?_expandEscaped_quotedCall (args : List String) :
    (x.expandEscaped (quotedCall itemType chain function args) options lookup).answer? w =
      (x.listed? (quotedCall itemType chain function args) options lookup w).map fun p =>
        (Text.join ";" (options.shown (p.1.map Entry.text)), p.2) := by
  have hquotes : ∀ value ∈ args.map fun arg => Chars.escape arg.toList, '\'' ∉ value :=
    fun value hvalue => (of_mem_escaped hvalue).1
  rw [quotedCall_eq]
  exact answer?_expandEscaped_listText hitems htype
    (isTransform_stages_append hchain (isTransform_callStage hfunction
      (Chars.balanced_quotedList rfl hquotes).closes))

end Expander

end BuildExpr
