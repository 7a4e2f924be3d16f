import BuildExpr.Proofs.Expansion.Modes

/-!
# The extended table

What it means to open the extended table of functions. As long as it is closed no expansion changes
the surroundings, whether it succeeds or fails (`Expander.afterAll_of_closed`): all functions that
can be resolved then only look at them. Opening it takes nothing away (`Expander.run_of_closed`):
the functions that are always found are looked for first, so whatever is resolved while the table is
closed is resolved to the same function while it is open.
-/

namespace BuildExpr

open Eval

namespace Expander

/-! ## Closed -/

/-- An expansion of a text. -/
structure Call where
  expander : Expander
  text : String
  options : Options
  lookup : Lookup
  mode : Mode

/-- The surroundings after an expansion, whether it succeeds or fails. -/
def Call.after (w : World) (c : Call) : World :=
  ((c.expander.run c.text c.options c.lookup c.mode).result w).2

/-- The surroundings after expansions, each of which starts in those the one before it left. -/
def afterAll (calls : List Call) (w : World) : World := calls.foldl Call.after w

theorem related_keeps {x : Expander} (hclosed : x.allFunctions = some false) (options : Options)
    (lookup : Lookup) :
    x.Related (fun _ f _ => f.Keeps) (fun _ => True) options lookup lookup x where
  pure a := .pure a
  bind hf hg := hf.bind hg
  throw d := .throw d
  location := rfl
  definingProject := rfl
  setting w := Setting.related_keeps (by simp [setting, hclosed, FunctionTable.isOpen])
  eval h w := by
    rw [result_eval]
    exact h w w

/-- An expansion leaves the surroundings as they are as long as the extended table is closed. -/
theorem keeps_run {x : Expander} (hclosed : x.allFunctions = some false) (text : String)
    (options : Options) (lookup : Lookup) (mode : Mode) :
    (x.run text options lookup mode).Keeps :=
  related_run (related_keeps hclosed options lookup) text mode

/-- Any number of expansions leave the surroundings as they are as long as the extended table is
closed in each of them. -/
theorem afterAll_of_closed {calls : List Call}
    (hclosed : ∀ c ∈ calls, c.expander.allFunctions = some false) (w : World) :
    afterAll calls w = w := by
  induction calls generalizing w with
  | nil => rfl
  | cons c calls ih =>
    obtain ⟨hfirst, hrest⟩ := List.forall_mem_cons.1 hclosed
    have hkept : c.after w = w := keeps_run hfirst c.text c.options c.lookup c.mode w
    show afterAll calls (c.after w) = w
    rw [hkept, ih hrest]

/-- Calls that would set a variable and write a file, the first in an argument and the second in a
stage of an item list. -/
def mutations (allFunctions : Option Bool) : List Call :=
  [ { expander := { allFunctions }, options := .all, lookup := {}, mode := .typed
      text := "$(P.Trim($([Environment]::SetEnvironmentVariable(A, b))))" },
    { expander := { allFunctions }, options := .all, mode := .items {}
      lookup := { scopes := [.ofDocument [] [("I", [{ spec := "/i" }])]] }
      text := "@(I->'$([System.IO.File]::WriteAllText(%(Identity), y))');@(I->Trim())" } ]

theorem afterAll_of_closed_of_mutations :
    (∀ c ∈ mutations (some false), c.expander.allFunctions = some false) ∧
      afterAll (mutations (some false)) .bare = .bare ∧
      ((afterAll (mutations (some true)) .bare).vars,
        (afterAll (mutations (some true)) .bare).files.entries.map Prod.fst) =
          ([("A", "b")], [[['i']]]) := by
  have hclosed : ∀ c ∈ mutations (some false), c.expander.allFunctions = some false := by
    simp [mutations]
  exact ⟨hclosed, afterAll_of_closed hclosed .bare, by decide +kernel⟩

end Expander

/-! ## Open -/

/-- Whether an evaluation succeeds as another one does. -/
def Eval.Extends {α : Type} (f g : Eval α) : Prop :=
  ∀ w a w', f.result w = (.ok a, w') → g.result w = (.ok a, w')

theorem Eval.Extends.refl {α : Type} (f : Eval α) : f.Extends f := fun _ _ _ h => h

theorem Eval.sequenced_extends : Eval.Sequenced fun _ f g => f.Extends g where
  pure _ := .refl _
  bind hf hg w b w' h := by
    obtain ⟨a, w₁, ha, hb⟩ := result_bind_eq_ok.1 h
    exact result_bind_eq_ok.2 ⟨a, w₁, hf w a w₁ ha, hg a w₁ b w' hb⟩

namespace Setting

/-- The setting with the extended table open. -/
def withExtended (s : Setting) : Setting := { s with opened := true }

theorem callStatic_extends {s : Setting} (hs : s.opened = false) (expression type member : String)
    (args : List Value) :
    (s.callStatic expression type member args).Extends
      (s.withExtended.callStatic expression type member args) := by
  intro w v w' h
  rw [callStatic, hs] at h
  rw [callStatic, show s.withExtended.opened = true from rfl]
  cases hf : FunctionTable.resolveStatic false type member args.length with
  | ok f =>
    rw [hf] at h
    rw [FunctionTable.resolveStatic_of_closed hf true]
    exact h
  | error r =>
    rw [hf] at h
    cases h

theorem registryValue_withExtended (s : Setting) (expression spec : String) :
    s.withExtended.registryValue expression spec = s.registryValue expression spec := by
  simp only [registryValue, withExtended]

theorem run_withExtended (s : Setting) (call : ItemCall) (w : World) (args : List Value)
    (entries : List Entry) :
    call.run s.withExtended w args entries = call.run s w args entries :=
  call.run_congr rfl rfl w args entries

/-- Nothing but static calls depends on whether the extended table is open, and those succeed as
they do while it is closed. -/
theorem related_withExtended {s : Setting} (hs : s.opened = false) :
    s.Related (fun _ f g => f.Extends g) (fun _ => True) s.withExtended where
  toSequenced := sequenced_extends
  property _ _ := rfl
  shownValue _ := rfl
  shownEntries _ := rfl
  entries _ := rfl
  registryValue _ := by
    rw [registryValue_withExtended]
    exact .refl _
  metadataValue _ _ := .refl _
  callStatic _ type member args := callStatic_extends hs _ type member args
  callMember _ _ _ _ := .refl _
  notIndexed _ _ := .refl _
  memberMissing _ _ := .refl _
  run _ _ args entries := by
    simp only [run_withExtended]
    exact .refl _

end Setting

namespace Expander

theorem related_extended (x : Expander) (options : Options) (lookup : Lookup) :
    ({ x with allFunctions := some false } : Expander).Related (fun _ f g => f.Extends g)
      (fun _ => True) options lookup lookup { x with allFunctions := some true } where
  toSequenced := sequenced_extends
  throw _ := .refl _
  location := rfl
  definingProject := rfl
  setting _ := Setting.related_withExtended rfl
  eval h w a w' ha := by
    rw [result_eval_eq_ok] at ha ⊢
    exact h w w a w' ha

/-- What expands while the extended table is closed expands to the same while it is open. -/
theorem run_of_closed {x : Expander} {text : String} {options : Options} {lookup : Lookup}
    {mode : Mode} {answer : mode.Answer} {w w' : World}
    (h : (({ x with allFunctions := some false } : Expander).run text options lookup mode).result w =
      (.ok answer, w')) :
    (({ x with allFunctions := some true } : Expander).run text options lookup mode).result w =
      (.ok answer, w') :=
  related_run (related_extended x options lookup) text mode w answer w' h

theorem run_of_closed_of_list :
    ∃ w,
      (({ allFunctions := some false } : Expander).run
        "$([System.Math]::Max($([System.String]::Copy('ab').Length), 1));@(I->ToUpper())" .all
        { scopes := [.ofDocument [] [("I", [{ spec := "i" }])]] } .list).result .bare =
          (.ok ["2", "I"], w) ∧
      (({ allFunctions := some true } : Expander).run
        "$([System.Math]::Max($([System.String]::Copy('ab').Length), 1));@(I->ToUpper())" .all
        { scopes := [.ofDocument [] [("I", [{ spec := "i" }])]] } .list).result .bare =
          (.ok ["2", "I"], w) := by
  have hlist : ((({ allFunctions := some false } : Expander).expandList
      "$([System.Math]::Max($([System.String]::Copy('ab').Length), 1));@(I->ToUpper())" .all
      { scopes := [.ofDocument [] [("I", [{ spec := "i" }])]] }).result .bare).1.toOption =
        some ["2", "I"] := by
    decide +kernel
  obtain ⟨w, hclosed⟩ := exists_of_toOption hlist
  exact ⟨w, hclosed, @run_of_closed {} _ .all _ .list _ _ w hclosed⟩

end Expander

end BuildExpr
