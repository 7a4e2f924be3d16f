import BuildExpr.Proofs.Evaluation.Related
import Mathlib.Data.List.Forall2

/-!
# Results of evaluations

`Eval.result` runs an evaluation in given surroundings. An evaluation `Keeps` the surroundings when
it ends in those it started in, with or without success; as long as the extended table is not open
every evaluation of a tree does (`keeps_evalExpression`), since no function that may be called
changes anything.
-/

namespace BuildExpr

/-- Surroundings with neither files nor variables. -/
def World.bare : World := { current := ['/'], files := { now := DateTime.epoch } }

namespace Eval

variable {α β : Type}

/-- The answer of an evaluation in given surroundings and the surroundings after it. -/
def result (f : Eval α) (w : World) : Except Diagnostic α × World := f.run.run w

@[simp] theorem result_pure (a : α) (w : World) : result (pure a) w = (.ok a, w) := rfl

@[simp] theorem result_throw (d : Diagnostic) (w : World) :
    result (throw d : Eval α) w = (.error d, w) := rfl

theorem result_bind (f : Eval α) (g : α → Eval β) (w : World) :
    result (f >>= g) w =
      match f.result w with
      | (.ok a, w') => (g a).result w'
      | (.error d, w') => (.error d, w') := by
  simp only [result, ExceptT.run_bind, StateT.run_bind]
  rcases h : (ExceptT.run f).run w with ⟨a | d, w'⟩ <;> rfl

@[simp] theorem result_look (f : World → Except Diagnostic α) (w : World) :
    result (look f) w = (f w, w) := by
  have : result (look f) w = result (look fun _ => f w) w := rfl
  rw [this]
  cases f w <;> rfl

theorem result_get_bind (g : World → Eval β) (w : World) :
    result (get >>= g) w = (g w).result w := rfl

theorem result_set_bind (g : PUnit → Eval β) (w' w : World) :
    result (set w' >>= g) w = (g ⟨⟩).result w' := rfl

/-- Two evaluations in sequence succeed when both do. -/
theorem result_bind_eq_ok {f : Eval α} {g : α → Eval β} {b : β} {w w' : World} :
    result (f >>= g) w = (.ok b, w') ↔
      ∃ a w₁, f.result w = (.ok a, w₁) ∧ (g a).result w₁ = (.ok b, w') := by
  rw [result_bind]
  rcases f.result w with ⟨d | a, w₁⟩
  · simp
  · constructor
    · exact fun h => ⟨a, w₁, rfl, h⟩
    · rintro ⟨a', w₁', h, hg⟩
      cases h
      exact hg

theorem result_bind_of_error {f : Eval α} {g : α → Eval β} {d : Diagnostic} {w w' : World}
    (h : f.result w = (.error d, w')) : result (f >>= g) w = (.error d, w') := by
  rw [result_bind, h]

theorem result_eq_of_toOption {f : Eval α} {a : α} {w : World}
    (h : (f.result w).1.toOption = some a) : f.result w = (.ok a, (f.result w).2) := by
  rcases hresult : f.result w with ⟨d | b, w'⟩
  · rw [hresult] at h
    cases h
  · rw [hresult] at h
    obtain rfl : b = a := Option.some.inj h
    rfl

theorem exists_of_toOption {f : Eval α} {a : α} {w : World}
    (h : (f.result w).1.toOption = some a) : ∃ w', f.result w = (.ok a, w') :=
  ⟨_, result_eq_of_toOption h⟩

/-- Evaluations over a list that succeed give one answer for each element, in whatever surroundings
the elements before leave. -/
theorem forall₂_of_mapM {f : α → Eval β} {as : List α} {bs : List β} {w w' : World}
    (h : (as.mapM f).result w = (.ok bs, w')) :
    List.Forall₂ (fun a b => ∃ w₁ w₂, (f a).result w₁ = (.ok b, w₂)) as bs := by
  induction as generalizing bs w with
  | nil =>
    cases h
    exact .nil
  | cons a as ih =>
    rw [List.mapM_cons] at h
    obtain ⟨b, w₁, hb, h⟩ := result_bind_eq_ok.1 h
    obtain ⟨more, w₂, hmore, hreturn⟩ := result_bind_eq_ok.1 h
    cases hreturn
    exact .cons ⟨w, w₁, hb⟩ (ih hmore)

/-! ## Surroundings that stay -/

/-- An evaluation that ends in the surroundings it started in. -/
def Keeps (f : Eval α) : Prop := ∀ w, (f.result w).2 = w

namespace Keeps

theorem pure (a : α) : Keeps (Pure.pure a) := fun _ => rfl

theorem throw (d : Diagnostic) : Keeps (throw d : Eval α) := fun _ => rfl

theorem look (f : World → Except Diagnostic α) : Keeps (look f) := fun w => by rw [result_look]

theorem bind {f : Eval α} {g : α → Eval β} (hf : f.Keeps) (hg : ∀ a, (g a).Keeps) :
    (f >>= g).Keeps := by
  intro w
  rw [result_bind]
  have hw := hf w
  rcases hresult : f.result w with ⟨d | a, w'⟩
  · rw [hresult] at hw
    exact hw
  · rw [hresult] at hw
    exact (hg a w').trans hw

end Keeps

end Eval

/-! ## Functions that are found -/

namespace FunctionTable

variable {type member : String} {count : Nat} {f : Function}

theorem accept_eq_ok {g : Function} :
    accept g type member count = .ok f ↔ g = f ∧ f.accepts count = true := by
  rw [accept]
  constructor
  · intro h
    split at h
    · obtain rfl := Except.ok.inj h
      exact ⟨rfl, ‹_›⟩
    · cases h
  · rintro ⟨rfl, haccepts⟩
    rw [if_pos haccepts]

/-- A static function is found when it is in the tables that are looked at and takes the
arguments. -/
theorem resolveStatic_eq_ok {opened : Bool} :
    resolveStatic opened type member count = .ok f ↔
      find? (if opened then statics ++ extended else statics) (typeKey type) (memberKey member) =
        some f ∧ f.accepts count = true := by
  rw [resolveStatic]
  split
  · rename_i g hg
    rw [hg, accept_eq_ok, Option.some.injEq]
  · rename_i hnone
    rw [hnone]
    constructor
    · -- what is not in the tables is refused in one way or another
      intro h
      split at h
      · cases h
      · split at h <;> cases h
    · rintro ⟨hfound, -⟩
      cases hfound

/-- What is found while the extended table is closed is also found, as the same function, while it
is open. -/
theorem resolveStatic_of_closed (h : resolveStatic false type member count = .ok f) :
    ∀ opened, resolveStatic opened type member count = .ok f
  | false => h
  | true => by
    obtain ⟨hfound, haccepts⟩ := resolveStatic_eq_ok.1 h
    refine resolveStatic_eq_ok.2 ⟨?_, haccepts⟩
    -- the functions that are always found are looked for first
    show (statics ++ extended).find? _ = some f
    rw [List.find?_append, show statics.find? _ = some f from hfound, Option.some_or]

theorem resolveMember_eq_ok {receiver : Value} :
    resolveMember receiver member count = .ok f ↔
      find? members (Text.foldAscii receiver.typeName) (memberKey member) = some f ∧
        f.accepts count = true := by
  rw [resolveMember]
  split
  · rename_i g hg
    rw [hg, accept_eq_ok, Option.some.injEq]
  · rename_i hnone
    rw [hnone]
    constructor
    · intro h
      cases h
    · rintro ⟨hfound, -⟩
      cases hfound

end FunctionTable

/-- An item function looks at no more of its setting than at the directory that paths are read from
and at the registry. -/
theorem ItemCall.run_congr (call : ItemCall) {s s' : Setting} (hbase : s'.base = s.base)
    (hregistry : s'.registry = s.registry) (w : World) (args : List Value) (entries : List Entry) :
    call.run s' w args entries = call.run s w args entries := by
  cases s
  cases s'
  dsimp only at hbase hregistry
  subst hbase hregistry
  unfold ItemCall.run
  rfl

/-! ## Evaluations of a tree -/

open Eval

section Closed

variable {s : Setting}

theorem keeps_apply {f : Function} (hf : f.isReader = true) (args : List Value)
    (report : Failure → Diagnostic) : (s.apply f args report).Keeps := by
  intro w
  have hworld := f.run_world_of_isReader hf (s.context w) args
  rcases hrun : f.run (s.context w) args with ⟨answer, w'⟩
  rw [hrun] at hworld
  unfold Setting.apply
  simp only [result_get_bind, result_set_bind, hrun]
  cases answer with
  | ok v => exact hworld
  | error e => exact hworld

theorem keeps_callStatic (hs : s.opened = false) (expression type member : String)
    (args : List Value) : (s.callStatic expression type member args).Keeps := by
  rw [Setting.callStatic, hs]
  split
  · rename_i f hf
    have hmem := List.mem_of_find?_eq_some (FunctionTable.resolveStatic_eq_ok.1 hf).1
    exact keeps_apply (FunctionTable.isReader_of_mem_statics f hmem) _ _
  · exact .throw _

theorem keeps_callMember (expression : String) (receiver : Value) (member : String)
    (args : List Value) : (s.callMember expression receiver member args).Keeps := by
  rw [Setting.callMember]
  split
  · rename_i f hf
    have hmem := List.mem_of_find?_eq_some (FunctionTable.resolveMember_eq_ok.1 hf).1
    exact keeps_apply (FunctionTable.isReader_of_mem_members f hmem) _ _
  · exact .throw _

/-- All that an evaluation asks of its setting keeps the surroundings, as long as the extended table
is not open. -/
theorem Setting.related_keeps (hs : s.opened = false) :
    s.Related (fun _ f _ => f.Keeps) (fun _ => True) s where
  pure a := .pure a
  bind hf hg := hf.bind hg
  property _ _ := rfl
  shownValue _ := rfl
  shownEntries _ := rfl
  entries _ := rfl
  registryValue _ := .look _
  metadataValue _ _ := .look _
  callStatic _ type member args := keeps_callStatic hs _ type member args
  callMember _ receiver member args := keeps_callMember _ receiver member args
  notIndexed _ _ := .throw _
  memberMissing _ _ := .throw _
  run _ _ _ _ := .look _

/-- No evaluation changes the surroundings as long as the extended table is not open. -/
theorem keeps_evalExpression (hs : s.opened = false) (item : Option Item) (e : Expression) :
    (evalExpression s item e).Keeps :=
  related_evalExpression (Setting.related_keeps hs) item e (.all (fun _ => trivial) _)

/-- Nor does the evaluation of the entries of an item list. -/
theorem keeps_evalEntries (hs : s.opened = false) (list : ItemList) :
    (evalEntries s list).Keeps :=
  related_evalEntries (Setting.related_keeps hs) (.all (fun _ => trivial) _)

end Closed

end BuildExpr
