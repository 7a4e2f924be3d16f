import BuildExpr.Proofs.Evaluation.Names
import BuildExpr.Proofs.History
import BuildExpr.Proofs.NameMap
import BuildExpr.Scope
import Mathlib.Data.List.Infix
import Mathlib.Logic.Function.Basic

/-!
# The stack of scopes

Scopes are built by edits and pushed on a lookup, from which they are popped again. What the lookup
answers is read off the steps (`Lookup.scopes_shadow`). A scope remains as long as the steps after
its push pop no more than they push at any time, and the innermost scope that remains and has a
property or items of a type answers for them.

A scope is pushed as it is at that time. It may be pushed again, and edits to it after a push are
edits of a scope to be pushed later.
-/

namespace BuildExpr

open History Text

namespace Scope

/-! ## Edits of a scope -/

/-- An edit of a scope. -/
inductive Edit
  | setProperty (name value : String)
  | addItem (item : Item)

namespace Edit

/-- The scope after an edit. -/
def after (s : Scope) : Edit → Scope
  | setProperty name value => s.setProperty name value
  | addItem item => s.addItem item

/-- Whether an edit sets a property, in any case of letters. -/
def Sets (name : String) : Edit → Prop
  | setProperty n _ => SameName n name
  | addItem _ => False

/-- The value that an edit sets. -/
def value? : Edit → Option String
  | setProperty _ value => some value
  | addItem _ => none

/-- The item that an edit adds. -/
def item? : Edit → Option Item
  | setProperty .. => none
  | addItem item => some item

theorem decides_property? (name : String) :
    Decides after (Sets name) value? (fun s => s.property? name) := by
  refine ⟨fun s e he => ?_, fun s e he => ?_⟩
  · cases e with
    | setProperty n value =>
      show (s.properties.insert n value).get? name = some value
      rw [NameMap.get?_insert]
      exact if_pos he
    | addItem item => exact he.elim
  · cases e with
    | setProperty n value =>
      show (s.properties.insert n value).get? name = s.properties.get? name
      rw [NameMap.get?_insert]
      exact if_neg he
    | addItem item => rfl

end Edit

/-- The scope that edits make. -/
def ofEdits (edits : List Edit) : Scope := edits.foldl Edit.after {}

/-- The last of the edits that set a property gave it a value. -/
def SetLast (edits : List Edit) (name value : String) : Prop :=
  ∃ spelled, Last (Edit.Sets name) (.setProperty spelled value) edits

/-- The items of a type that edits add, in order. -/
def added (edits : List Edit) (itemType : String) : List Item :=
  (edits.filterMap Edit.item?).filter fun item => eqIgnoreCase item.itemType itemType

theorem ofEdits_concat (edits : List Edit) (e : Edit) :
    ofEdits (edits ++ [e]) = e.after (ofEdits edits) := by
  rw [ofEdits, List.foldl_append]
  rfl

theorem property?_ofEdits {edits : List Edit} {name value : String} :
    (ofEdits edits).property? name = some value ↔ SetLast edits name value := by
  have hfirst : ({} : Scope).property? name ≠ some value := by
    simp [property?, NameMap.get?, NameMap.entry?]
  rw [ofEdits, (Edit.decides_property? name).observe_run hfirst edits]
  constructor
  · rintro ⟨e, hlast, he⟩
    cases e with
    | setProperty spelled v =>
      obtain rfl := Option.some.inj he
      exact ⟨spelled, hlast⟩
    | addItem item => cases he
  · rintro ⟨spelled, hlast⟩
    exact ⟨_, hlast, rfl⟩

theorem added_addItem (edits : List Edit) (item : Item) (itemType : String) :
    added (edits ++ [.addItem item]) itemType =
      if SameName item.itemType itemType then added edits itemType ++ [item]
      else added edits itemType := by
  by_cases h : SameName item.itemType itemType
  · simp [added, Edit.item?, h]
  · simp [added, Edit.item?, h]

/-- A scope has the items of a type that were added, and no list of them when there are none. -/
theorem items?_ofEdits (edits : List Edit) (itemType : String) :
    (ofEdits edits).items? itemType =
      if added edits itemType = [] then none else some (added edits itemType) := by
  induction edits using List.reverseRecOn with
  | nil => rfl
  | append_singleton edits e ih =>
    rw [ofEdits_concat]
    cases e with
    | setProperty name value =>
      have hadded : added (edits ++ [.setProperty name value]) itemType = added edits itemType := by
        simp [added, Edit.item?]
      rw [hadded, ← ih]
      rfl
    | addItem item =>
      rw [added_addItem]
      show ((ofEdits edits).items.insert item.itemType
        (((ofEdits edits).items? item.itemType).getD [] ++ [item])).get? itemType = _
      rw [NameMap.get?_insert]
      by_cases h : SameName item.itemType itemType
      · have hbefore : ((ofEdits edits).items? item.itemType).getD [] = added edits itemType := by
          rw [items?, NameMap.get?_congr _ h, ← items?, ih]
          split
          case isTrue hnil => rw [hnil]; rfl
          case isFalse => rfl
        rw [if_pos h, if_pos h, hbefore, if_neg (by simp)]
      · rw [if_neg h, if_neg h, ← ih]
        rfl

end Scope

namespace Lookup

open Scope

/-! ## Steps -/

/-- Scopes that are built, by number, and the lookup that they are pushed on. -/
structure Desk where
  drafts : Nat → Scope := fun _ => {}
  lookup : Lookup := {}

/-- A step of work with scopes. -/
inductive Step
  | edit (draft : Nat) (e : Edit)
  | push (draft : Nat)
  | pop

namespace Step

/-- The desk after a step. -/
def after (d : Desk) : Step → Desk
  | edit draft e => { d with drafts := Function.update d.drafts draft (e.after (d.drafts draft)) }
  | push draft => { d with lookup := d.lookup.push (d.drafts draft) }
  | pop => { d with lookup := d.lookup.pop }

/-- The edit of a scope that a step makes. -/
def edit? (draft : Nat) : Step → Option Edit
  | edit i e => if i = draft then some e else none
  | push _ | pop => none

/-- Whether a step pushes a scope. -/
def isPush : Step → Bool
  | push _ => true
  | edit .. | pop => false

/-- Whether a step pops a scope. -/
def isPop : Step → Bool
  | pop => true
  | edit .. | push _ => false

end Step

/-- The desk after steps in turn, with no scopes at first. -/
def afterAll (steps : List Step) : Desk := steps.foldl Step.after {}

/-- The edits of a scope. -/
def editsOf (draft : Nat) (steps : List Step) : List Edit := steps.filterMap (Step.edit? draft)

/-- At no time do steps pop more scopes than they push, so those there before remain. -/
def Keeps (steps : List Step) : Prop :=
  ∀ part, part <+: steps → part.countP Step.isPop ≤ part.countP Step.isPush

/-- The scope that is pushed after some of the steps remains to their end. -/
def Remains (steps before : List Step) (draft : Nat) : Prop :=
  ∃ after, steps = before ++ .push draft :: after ∧ Keeps after

/-- The innermost of the remaining scopes whose edits have a property is that of certain edits. -/
def Innermost (steps : List Step) (p : List Edit → Prop) (edits : List Edit) : Prop :=
  ∃ before draft, Remains steps before draft ∧ editsOf draft before = edits ∧ p edits ∧
    ∀ before' draft', Remains steps before' draft' → before.length < before'.length →
      ¬p (editsOf draft' before')

/-- A block of steps that pops as many scopes as it pushes, and none of those there before. -/
def Balanced (block : List Step) : Prop :=
  Keeps block ∧ block.countP Step.isPop = block.countP Step.isPush

/-! ## Counting pushes and pops -/

variable {steps : List Step} {draft : Nat}

theorem keeps_nil : Keeps [] := by
  intro part hpart
  rw [List.prefix_nil.1 hpart]
  exact Nat.le_refl 0

theorem keeps_concat {step : Step} :
    Keeps (steps ++ [step]) ↔ Keeps steps ∧
      (steps ++ [step]).countP Step.isPop ≤ (steps ++ [step]).countP Step.isPush := by
  simp only [Keeps, List.prefix_concat_iff, forall_eq_or_imp]
  exact and_comm

theorem drafts_afterAll (steps : List Step) (draft : Nat) :
    (afterAll steps).drafts draft = ofEdits (editsOf draft steps) := by
  induction steps using List.reverseRecOn with
  | nil => rfl
  | append_singleton steps step ih =>
    rw [afterAll, List.foldl_append, editsOf, List.filterMap_append]
    cases step with
    | edit i e =>
      show Function.update (afterAll steps).drafts i (e.after ((afterAll steps).drafts i)) draft = _
      by_cases h : i = draft
      · subst h
        rw [Function.update_self, ih]
        simp [Step.edit?, ofEdits_concat, editsOf]
      · rw [Function.update_of_ne (Ne.symm h), ih]
        simp [Step.edit?, h, editsOf]
    | push | pop =>
      show (afterAll steps).drafts draft = ofEdits (editsOf draft steps ++ [])
      rw [List.append_nil, ih]

/-- The scope that is pushed after some of the steps remains when more scopes are popped after their
end. -/
def RemainsUnder (pops : Nat) (steps before : List Step) (draft : Nat) : Prop :=
  ∃ after, steps = before ++ .push draft :: after ∧ Keeps after ∧
    after.countP Step.isPop + pops ≤ after.countP Step.isPush

theorem remainsUnder_zero {before : List Step} :
    RemainsUnder 0 steps before draft ↔ Remains steps before draft := by
  constructor
  · rintro ⟨after, rfl, hkeeps, -⟩
    exact ⟨after, rfl, hkeeps⟩
  · rintro ⟨after, rfl, hkeeps⟩
    exact ⟨after, rfl, hkeeps, hkeeps after List.prefix_rfl⟩

theorem not_remainsUnder_nil {pops : Nat} {before : List Step} :
    ¬RemainsUnder pops [] before draft := by
  rintro ⟨after, h, -⟩
  simp at h

/-- How many scopes a step and some pops after it take from those before the step. -/
def Step.taken (pops : Nat) : Step → Nat
  | edit .. => pops
  | push _ => pops - 1
  | pop => pops + 1

theorem keeps_concat_under {step : Step} {pops : Nat} :
    (Keeps (steps ++ [step]) ∧
      (steps ++ [step]).countP Step.isPop + pops ≤ (steps ++ [step]).countP Step.isPush) ↔
    Keeps steps ∧ steps.countP Step.isPop + step.taken pops ≤ steps.countP Step.isPush := by
  rw [keeps_concat, List.countP_append, List.countP_append, List.countP_singleton,
    List.countP_singleton]
  constructor
  · rintro ⟨⟨hkeeps, -⟩, hpops⟩
    have hle := hkeeps steps List.prefix_rfl
    refine ⟨hkeeps, ?_⟩
    cases step <;> simp [Step.taken, Step.isPop, Step.isPush] at hpops ⊢ <;> omega
  · rintro ⟨hkeeps, hpops⟩
    refine ⟨⟨hkeeps, ?_⟩, ?_⟩ <;>
      cases step <;> simp [Step.taken, Step.isPop, Step.isPush] at hpops ⊢ <;> omega

/-- What remains after one more step is the scope that it pushes, or one that was pushed before. -/
theorem remainsUnder_concat {pops : Nat} {before : List Step} {step : Step} :
    RemainsUnder pops (steps ++ [step]) before draft ↔
      (pops = 0 ∧ before = steps ∧ step = .push draft) ∨
      RemainsUnder (step.taken pops) steps before draft := by
  constructor
  · rintro ⟨after, h, hkeeps⟩
    rcases List.eq_nil_or_concat after with rfl | ⟨more, last, rfl⟩
    · obtain ⟨hbefore, hstep⟩ := List.append_inj' h rfl
      have hzero : pops = 0 := by simpa using hkeeps.2
      exact .inl ⟨hzero, hbefore.symm, by simpa using hstep⟩
    · rw [List.concat_eq_append] at h hkeeps
      rw [← List.cons_append, ← List.append_assoc] at h
      obtain ⟨hsteps, hlast⟩ := List.append_inj' h rfl
      obtain rfl : step = last := by simpa using hlast
      exact .inr ⟨more, hsteps, keeps_concat_under.1 hkeeps⟩
  · rintro (⟨rfl, rfl, rfl⟩ | ⟨after, rfl, hkeeps⟩)
    · exact ⟨[], rfl, keeps_nil, Nat.le_refl 0⟩
    · exact ⟨after ++ [step], by simp, keeps_concat_under.2 hkeeps⟩

/-! ## The stack -/

theorem afterAll_concat (steps : List Step) (step : Step) :
    afterAll (steps ++ [step]) = step.after (afterAll steps) := by
  rw [afterAll, List.foldl_append]
  rfl

/-- The scopes below some of the innermost ones are those that remain when these are popped, each
with the edits that it had when it was pushed. -/
theorem exists_remaining (steps : List Step) (pops : Nat) :
    ∃ remaining : List (List Step × Nat),
      (afterAll steps).lookup.scopes.drop pops =
        remaining.map (fun r => ofEdits (editsOf r.2 r.1)) ∧
      (∀ before draft, (before, draft) ∈ remaining ↔ RemainsUnder pops steps before draft) ∧
      remaining.Pairwise fun r r' => r'.1.length < r.1.length := by
  induction steps using List.reverseRecOn generalizing pops with
  | nil =>
    refine ⟨[], by simp [afterAll], fun before draft => ?_, List.Pairwise.nil⟩
    simp [not_remainsUnder_nil]
  | append_singleton steps step ih =>
    obtain ⟨remaining, hscopes, hmem, hsorted⟩ := ih (step.taken pops)
    rw [afterAll_concat]
    simp only [remainsUnder_concat]
    cases step with
    | edit i e => exact ⟨remaining, hscopes, by simpa using hmem, hsorted⟩
    | pop =>
      refine ⟨remaining, ?_, by simpa using hmem, hsorted⟩
      rw [← hscopes]
      exact List.drop_tail
    | push i =>
      cases pops with
      | zero =>
        refine ⟨(steps, i) :: remaining, ?_, fun before draft => ?_, ?_⟩
        · rw [List.map_cons, ← hscopes, ← drafts_afterAll]
          rfl
        · rw [List.mem_cons, hmem, Prod.mk.injEq]
          simp [eq_comm]
        · refine List.pairwise_cons.2 ⟨fun r hr => ?_, hsorted⟩
          obtain ⟨after, hsteps, -⟩ := (hmem r.1 r.2).1 hr
          rw [hsteps]
          simp
      | succ pops =>
        refine ⟨remaining, ?_, by simpa using hmem, hsorted⟩
        rw [← hscopes]
        rfl

/-- What the scopes have of something is what the innermost of the remaining scopes that has it
has. -/
theorem findSome?_scopes {α : Type} {f : Scope → Option α} {p : List Edit → Prop}
    (hp : ∀ edits, p edits ↔ (f (ofEdits edits)).isSome) (steps : List Step) (a : α) :
    (afterAll steps).lookup.scopes.findSome? f = some a ↔
      ∃ edits, Innermost steps p edits ∧ f (ofEdits edits) = some a := by
  obtain ⟨remaining, hscopes, hmem, hsorted⟩ := exists_remaining steps 0
  simp only [remainsUnder_zero] at hmem
  rw [List.drop_zero] at hscopes
  rw [hscopes, List.findSome?_map, List.findSome?_eq_some_iff]
  constructor
  · rintro ⟨inner, ⟨before, draft⟩, outer, rfl, ha, hinner⟩
    refine ⟨editsOf draft before, ⟨before, draft, (hmem _ _).1 (by simp), rfl, ?_,
      fun before' draft' hremains hlt hp' => ?_⟩, ha⟩
    · rw [hp]
      exact Option.isSome_iff_exists.2 ⟨a, ha⟩
    · -- Scopes pushed later stand before the one that answers.
      rw [List.pairwise_append, List.pairwise_cons] at hsorted
      obtain ⟨-, ⟨houter, -⟩, -⟩ := hsorted
      rcases List.mem_append.1 ((hmem before' draft').2 hremains) with hin | hin
      · have hnone : f (ofEdits (editsOf draft' before')) = none := hinner _ hin
        rw [hp, hnone] at hp'
        cases hp'
      · rcases List.mem_cons.1 hin with heq | hin
        · obtain ⟨rfl, -⟩ := Prod.mk.inj heq
          exact Nat.lt_irrefl _ hlt
        · exact Nat.lt_asymm hlt (houter _ hin)
  · rintro ⟨_, ⟨before, draft, hremains, rfl, -, hinner⟩, ha⟩
    obtain ⟨inner, outer, rfl⟩ := List.append_of_mem ((hmem before draft).2 hremains)
    refine ⟨inner, (before, draft), outer, rfl, ha, fun r hr => ?_⟩
    have hlt := (List.pairwise_append.1 hsorted).2.2 r hr (before, draft) (by simp)
    have hnot := hinner r.1 r.2 ((hmem r.1 r.2).1 (by simp [hr])) hlt
    rw [hp, Option.not_isSome_iff_eq_none] at hnot
    exact hnot

theorem findSome?_scopes_eq_none {α : Type} {f : Scope → Option α} (steps : List Step) :
    (afterAll steps).lookup.scopes.findSome? f = none ↔
      ∀ before draft, Remains steps before draft → f (ofEdits (editsOf draft before)) = none := by
  obtain ⟨remaining, hscopes, hmem, -⟩ := exists_remaining steps 0
  simp only [remainsUnder_zero] at hmem
  rw [List.drop_zero] at hscopes
  rw [hscopes, List.findSome?_map, List.findSome?_eq_none_iff, Prod.forall]
  simp only [hmem]
  rfl

/-- What is left of the stack after a block that pops none of the scopes that were there before, but
for those that it leaves itself, is what was there before. -/
theorem scopes_block {block : List Step} (d : Desk) (left : Nat) (hkeeps : Keeps block)
    (hleft : block.countP Step.isPop + left = block.countP Step.isPush) :
    (block.foldl Step.after d).lookup.scopes.drop left = d.lookup.scopes := by
  induction block using List.reverseRecOn generalizing left with
  | nil =>
    obtain rfl : left = 0 := by simpa using hleft
    rfl
  | append_singleton block step ih =>
    obtain ⟨hbefore, -⟩ := keeps_concat.1 hkeeps
    have hle := hbefore block List.prefix_rfl
    rw [List.countP_append, List.countP_append, List.countP_singleton,
      List.countP_singleton] at hleft
    rw [List.foldl_append]
    cases step with
    | edit i e => exact ih left hbefore (by simpa [Step.isPop, Step.isPush] using hleft)
    | pop =>
      rw [← ih (left + 1) hbefore (by simp [Step.isPop, Step.isPush] at hleft; omega)]
      exact List.drop_tail
    | push i =>
      cases left with
      | zero =>
        simp [Step.isPop, Step.isPush] at hleft
        omega
      | succ left =>
        exact ih left hbefore (by simp [Step.isPop, Step.isPush] at hleft; omega)

theorem isSome_property?_ofEdits (edits : List Edit) (name : String) :
    (∃ value, SetLast edits name value) ↔ ((ofEdits edits).property? name).isSome := by
  simp only [Option.isSome_iff_exists, property?_ofEdits]

theorem isSome_items?_ofEdits (edits : List Edit) (itemType : String) :
    added edits itemType ≠ [] ↔ ((ofEdits edits).items? itemType).isSome := by
  rw [items?_ofEdits]
  split
  case isTrue h => simp [h]
  case isFalse h => simp [h]

/-- Scopes shadow those further out and bring them back. After any steps, a property has the value
that was set last in the innermost of the remaining scopes that set it; the items of a type are
those that were added to the innermost of the remaining scopes that have any, in order and without
those of other scopes; and after a balanced block of more steps all answers are what they were. -/
theorem scopes_shadow (steps : List Step) :
    (∀ name value, (afterAll steps).lookup.property? name = some value ↔
      ∃ edits, Innermost steps (fun edits => ∃ v, SetLast edits name v) edits ∧
        SetLast edits name value) ∧
    (∀ itemType,
      (∃ edits, Innermost steps (fun edits => added edits itemType ≠ []) edits ∧
        (afterAll steps).lookup.items itemType = added edits itemType) ∨
      ((∀ before draft, Remains steps before draft → added (editsOf draft before) itemType = []) ∧
        (afterAll steps).lookup.items itemType = [])) ∧
    ∀ block, Balanced block →
      (afterAll (steps ++ block)).lookup.property? = (afterAll steps).lookup.property? ∧
        (afterAll (steps ++ block)).lookup.items = (afterAll steps).lookup.items := by
  refine ⟨fun name value => ?_, fun itemType => ?_, fun block hblock => ?_⟩
  · rw [Lookup.property?, findSome?_scopes (isSome_property?_ofEdits · name)]
    simp only [property?_ofEdits]
  · cases hfound : (afterAll steps).lookup.scopes.findSome? (fun s => s.items? itemType) with
    | some items =>
      left
      obtain ⟨edits, hinner, hitems⟩ :=
        (findSome?_scopes (isSome_items?_ofEdits · itemType) steps items).1 hfound
      refine ⟨edits, hinner, ?_⟩
      rw [items?_ofEdits] at hitems
      rw [Lookup.items, hfound, Option.getD_some]
      split at hitems
      · cases hitems
      · exact (Option.some.inj hitems).symm
    | none =>
      right
      refine ⟨fun before draft hremains => ?_, by rw [Lookup.items, hfound]; rfl⟩
      have hnone := (findSome?_scopes_eq_none steps).1 hfound before draft hremains
      rw [items?_ofEdits] at hnone
      split at hnone
      · assumption
      · cases hnone
  · have hscopes : (afterAll (steps ++ block)).lookup.scopes = (afterAll steps).lookup.scopes := by
      rw [afterAll, List.foldl_append]
      exact scopes_block (afterAll steps) 0 hblock.1 hblock.2
    constructor
    · funext name
      rw [Lookup.property?, hscopes, Lookup.property?]
    · funext itemType
      rw [Lookup.items, hscopes, Lookup.items]

end Lookup

end BuildExpr
