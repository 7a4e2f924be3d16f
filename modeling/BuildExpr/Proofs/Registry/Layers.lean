import BuildExpr.Proofs.History
import BuildExpr.Proofs.NameMap
import BuildExpr.Registry.Basic
import Mathlib.Data.Finset.Card

/-!
# Registries as layered maps

A registry after any calls is read off the calls: a value of a view is that of the last call that
set it there, unless its key was removed or the registry cleared since. The default view answers
where the view asked has no such value (`Registry.layered_map`).

What is stored for a pair of a view and a key in normal form is a function of the pair, so putting
values in a place and dropping a place each have one lemma that says what every place holds
afterwards. Which calls decide a value, and which decide whether a pair is there, then follows call
by call.
-/

namespace BuildExpr

namespace Registry

open History

/-! ## Places -/

/-- The registry with values in one place, which is a view and a key in normal form. -/
def put (r : Registry) (view : RegistryView) (key : String) (values : NameMap RegistryValue) :
    Registry :=
  { r with
    keys := r.keys.filter (fun (place, _) => place != (view, key)) ++ [((view, key), values)] }

/-- The registry without a place. -/
def drop (r : Registry) (view : RegistryView) (key : String) : Registry :=
  { r with keys := r.keys.filter fun (place, _) => place != (view, key) }

theorem set_eq (r : Registry) (view : RegistryView) (name : String) (value : RegistryValue)
    {spelled key : String} (h : RegistryKey.normalize spelled = .ok key) :
    r.set view spelled name value =
      .ok (r.put view key (((r.values? view key).getD {}).insert name value)) := by
  rw [set, h]
  rfl

theorem remove_eq (r : Registry) (view : RegistryView) {spelled key : String}
    (h : RegistryKey.normalize spelled = .ok key) :
    r.remove view spelled = .ok ((r.values? view key).isSome, r.drop view key) := by
  rw [remove, h]
  rfl

theorem get?_eq (r : Registry) (view : RegistryView) (name : String) {spelled key : String}
    (h : RegistryKey.normalize spelled = .ok key) :
    r.get? view spelled name = .ok (r.lookup? view key name <|> r.lookup? .default key name) := by
  rw [get?, h]
  rfl

/-- Dropping a place takes away what is found there and leaves all else that is found. -/
theorem find?_others (keys : List ((RegistryView × String) × NameMap RegistryValue))
    (place place' : RegistryView × String) :
    (keys.filter fun (p, _) => p != place).find? (fun (p, _) => p == place') =
      if place = place' then none else keys.find? fun (p, _) => p == place' := by
  rw [List.find?_filter]
  split
  case isTrue h => simp [h]
  case isFalse h =>
    congr 1
    funext entry
    by_cases heq : entry.1 = place' <;> simp [heq, Ne.symm h]

@[simp] theorem values?_drop (r : Registry) (view view' : RegistryView) (key key' : String) :
    (r.drop view key).values? view' key' =
      if (view, key) = (view', key') then none else r.values? view' key' := by
  rw [values?, drop, find?_others]
  split <;> rfl

@[simp] theorem values?_put (r : Registry) (view view' : RegistryView) (key key' : String)
    (values : NameMap RegistryValue) :
    (r.put view key values).values? view' key' =
      if (view, key) = (view', key') then some values else r.values? view' key' := by
  rw [values?, put, List.find?_append, find?_others]
  by_cases h : (view, key) = (view', key')
  · simp [h]
  · simp [h, values?]

/-- The places of a registry are distinct. -/
def Distinct (r : Registry) : Prop := (r.keys.map Prod.fst).Nodup

theorem distinct_drop {r : Registry} (h : r.Distinct) (view : RegistryView) (key : String) :
    (r.drop view key).Distinct :=
  h.sublist (List.filter_sublist.map Prod.fst)

theorem distinct_put {r : Registry} (h : r.Distinct) (view : RegistryView) (key : String)
    (values : NameMap RegistryValue) : (r.put view key values).Distinct := by
  have hothers := distinct_drop h view key
  rw [Distinct, put, List.map_append, List.nodup_append]
  refine ⟨hothers, by simp, ?_⟩
  rintro place hplace _ hnew rfl
  simp_all

theorem mem_places {r : Registry} {view : RegistryView} {key : String} :
    (view, key) ∈ r.keys.map Prod.fst ↔ (r.values? view key).isSome := by
  rw [values?, Option.isSome_map, List.find?_isSome]
  simp

/-! ## Calls -/

/-- A call that changes a registry. -/
inductive Call
  | set (view : RegistryView) (key name : String) (value : RegistryValue)
  | remove (view : RegistryView) (key : String)
  | clear

namespace Call

/-- What a call makes of a registry, or the fault that it fails with. -/
def run (r : Registry) : Call → Except Fault Registry
  | set view key name value => r.set view key name value
  | remove view key => do return (← r.remove view key).2
  | clear => .ok r.clear

/-- The registry after a call, which is the one before when the call fails. -/
def after (r : Registry) (c : Call) : Registry :=
  match c.run r with
  | .ok r' => r'
  | .error _ => r

/-- The key of a call. -/
def key? : Call → Option String
  | set _ key _ _ | remove _ key => some key
  | clear => none

/-- The value that a call sets. -/
def value? : Call → Option RegistryValue
  | set _ _ _ value => some value
  | remove .. | clear => none

/-- Whether a call decides if a pair of a view and a key in normal form is there. -/
def Concerns (view : RegistryView) (key : String) : Call → Prop
  | set v k _ _ | remove v k => v = view ∧ RegistryKey.normalize k = .ok key
  | clear => True

/-- Whether a call decides the value with a name in a view and a key in normal form. -/
def Touches (view : RegistryView) (key name : String) : Call → Prop
  | set v k n _ => v = view ∧ RegistryKey.normalize k = .ok key ∧ Text.SameName n name
  | remove v k => v = view ∧ RegistryKey.normalize k = .ok key
  | clear => True

/-- A call fails exactly when its key is not valid. -/
theorem run_eq_error {r : Registry} {c : Call} {fault : Fault} :
    c.run r = .error fault ↔
      ∃ key, c.key? = some key ∧ RegistryKey.normalize key = .error fault := by
  have hkey (spelled : String) : (∃ key, some spelled = some key ∧
      RegistryKey.normalize key = .error fault) ↔ RegistryKey.normalize spelled = .error fault := by
    simp
  cases c with
  | set view spelled name value =>
    rw [key?, hkey, run]
    cases h : RegistryKey.normalize spelled with
    | error cause => simp [Registry.set, h, Bind.bind, Except.bind]
    | ok key => simp [set_eq r view name value h]
  | remove view spelled =>
    rw [key?, hkey, run]
    cases h : RegistryKey.normalize spelled with
    | error cause => simp [Registry.remove, h, Bind.bind, Except.bind]
    | ok key => simp [remove_eq r view h, Bind.bind, Except.bind, pure, Except.pure]
  | clear => simp [run, key?]

theorem after_of_error {r : Registry} {c : Call} {fault : Fault} (h : c.run r = .error fault) :
    after r c = r := by
  rw [after, h]

theorem after_set (r : Registry) (view : RegistryView) (name : String) (value : RegistryValue)
    {spelled key : String} (h : RegistryKey.normalize spelled = .ok key) :
    after r (.set view spelled name value) =
      r.put view key (((r.values? view key).getD {}).insert name value) := by
  rw [after, run, set_eq r view name value h]

theorem after_remove (r : Registry) (view : RegistryView) {spelled key : String}
    (h : RegistryKey.normalize spelled = .ok key) :
    after r (.remove view spelled) = r.drop view key := by
  rw [after, run, remove_eq r view h]
  rfl

/-- What a call can do. -/
inductive Effect (r : Registry) : Call → Registry → Prop
  | set (view : RegistryView) (name : String) (value : RegistryValue) {spelled key : String} :
    RegistryKey.normalize spelled = .ok key → Effect r (.set view spelled name value)
      (r.put view key (((r.values? view key).getD {}).insert name value))
  | remove (view : RegistryView) {spelled key : String} :
    RegistryKey.normalize spelled = .ok key → Effect r (.remove view spelled) (r.drop view key)
  | clear : Effect r .clear {}
  | fail {c : Call} {spelled : String} {fault : Fault} : c.key? = some spelled →
    RegistryKey.normalize spelled = .error fault → Effect r c r

theorem effect_after (r : Registry) (c : Call) : Effect r c (after r c) := by
  cases c with
  | set view spelled name value =>
    cases h : RegistryKey.normalize spelled with
    | ok key =>
      rw [after_set r view name value h]
      exact .set view name value h
    | error fault =>
      rw [after_of_error (run_eq_error.2 ⟨spelled, rfl, h⟩)]
      exact .fail rfl h
  | remove view spelled =>
    cases h : RegistryKey.normalize spelled with
    | ok key =>
      rw [after_remove r view h]
      exact .remove view h
    | error fault =>
      rw [after_of_error (run_eq_error.2 ⟨spelled, rfl, h⟩)]
      exact .fail rfl h
  | clear => exact .clear

theorem concerns_of_touches {view : RegistryView} {key name : String} {c : Call}
    (h : c.Touches view key name) : c.Concerns view key := by
  cases c with
  | set => exact ⟨h.1, h.2.1⟩
  | remove => exact h
  | clear => trivial

/-- A call that fails decides nothing. -/
theorem not_concerns_of_error {view : RegistryView} {key spelled : String} {c : Call}
    {fault : Fault} (hkey : c.key? = some spelled)
    (h : RegistryKey.normalize spelled = .error fault) : ¬c.Concerns view key := by
  cases c with
  | set _ k | remove _ k =>
    obtain rfl := Option.some.inj hkey
    rintro ⟨-, hok⟩
    rw [h] at hok
    cases hok
  | clear => cases hkey

/-- A call does not concern the other places. -/
theorem place_ne {view v : RegistryView} {key k spelled : String}
    (h : RegistryKey.normalize spelled = .ok k)
    (hc : ¬(v = view ∧ RegistryKey.normalize spelled = .ok key)) : (v, k) ≠ (view, key) := by
  intro heq
  obtain ⟨rfl, rfl⟩ := Prod.mk.inj heq
  exact hc ⟨rfl, h⟩

namespace Effect

variable {r r' : Registry} {c : Call} {view : RegistryView} {key name : String}

theorem distinct (h : Effect r c r') (hr : r.Distinct) : r'.Distinct := by
  cases h with
  | set => exact distinct_put hr _ _ _
  | remove => exact distinct_drop hr _ _
  | clear => exact List.nodup_nil
  | fail => exact hr

/-- A place is there after a call that concerns it if the call set a value in it. -/
theorem isSome_values? (h : Effect r c r') (hc : c.Concerns view key) :
    (r'.values? view key).isSome = c.value?.isSome := by
  cases h with
  | set _ _ _ hnormal | remove _ hnormal =>
    obtain ⟨rfl, hkey⟩ := hc
    obtain rfl := Except.ok.inj (hnormal.symm.trans hkey)
    simp [value?]
  | clear => rfl
  | fail hkey herror => exact absurd hc (not_concerns_of_error hkey herror)

/-- Places that a call does not concern keep their values. -/
theorem values?_eq (h : Effect r c r') (hc : ¬c.Concerns view key) :
    r'.values? view key = r.values? view key := by
  cases h with
  | set _ _ _ hnormal => rw [values?_put, if_neg (place_ne hnormal hc)]
  | remove _ hnormal => rw [values?_drop, if_neg (place_ne hnormal hc)]
  | clear => exact absurd trivial hc
  | fail => rfl

theorem lookup?_eq_value? (h : Effect r c r') (hc : c.Touches view key name) :
    r'.lookup? view key name = c.value? := by
  cases h with
  | set _ _ _ hnormal =>
    obtain ⟨rfl, hkey, hname⟩ := hc
    obtain rfl := Except.ok.inj (hnormal.symm.trans hkey)
    simp [lookup?, value?, NameMap.get?_insert, show Text.eqIgnoreCase _ _ = true from hname]
  | remove _ hnormal =>
    obtain ⟨rfl, hkey⟩ := hc
    obtain rfl := Except.ok.inj (hnormal.symm.trans hkey)
    simp [lookup?, value?]
  | clear => rfl
  | fail hkey herror => exact absurd (concerns_of_touches hc) (not_concerns_of_error hkey herror)

theorem lookup?_eq (h : Effect r c r') (hc : ¬c.Touches view key name) :
    r'.lookup? view key name = r.lookup? view key name := by
  by_cases hplace : c.Concerns view key
  · -- The call sets another name of the same key.
    cases h with
    | set _ n _ hnormal =>
      obtain ⟨rfl, hkey⟩ := hplace
      obtain rfl := Except.ok.inj (hnormal.symm.trans hkey)
      have hname : Text.eqIgnoreCase n name = false := by
        rw [Bool.eq_false_iff]
        exact fun hname => hc ⟨rfl, hkey, hname⟩
      rw [lookup?, values?_put, if_pos rfl, Option.bind_some, NameMap.get?_insert, hname, lookup?]
      cases r.values? _ _ <;> rfl
    | remove => exact absurd hplace hc
    | clear => exact absurd trivial hc
    | fail hkey herror => exact absurd hplace (not_concerns_of_error hkey herror)
  · rw [lookup?, h.values?_eq hplace, lookup?]

end Effect

theorem decides_lookup? (view : RegistryView) (key name : String) :
    Decides after (Touches view key name) value? (fun r => r.lookup? view key name) :=
  ⟨fun r c hc => (effect_after r c).lookup?_eq_value? hc,
    fun r c hc => (effect_after r c).lookup?_eq hc⟩

theorem decides_presence (view : RegistryView) (key : String) :
    Decides after (Concerns view key) (fun c => c.value?.isSome)
      (fun r => (r.values? view key).isSome) := by
  refine ⟨fun r c hc => (effect_after r c).isSome_values? hc, fun r c hc => ?_⟩
  show ((after r c).values? view key).isSome = _
  rw [(effect_after r c).values?_eq hc]

end Call

/-! ## Runs -/

/-- The registry after calls in turn that starts without keys. -/
def afterAll (calls : List Call) : Registry := calls.foldl Call.after {}

/-- The last call that decides the value with a name, in a view and a key in normal form, set it:
no call has set it again, removed the key or cleared the registry since. -/
def LastSet (calls : List Call) (view : RegistryView) (key name : String)
    (value : RegistryValue) : Prop :=
  ∃ spelled other, Last (Call.Touches view key name) (.set view spelled other value) calls

/-- The value that a view shows: the one set in the view, or else the one set in the default
view. -/
def Shown (calls : List Call) (view : RegistryView) (key name : String)
    (value : RegistryValue) : Prop :=
  LastSet calls view key name value ∨
    (∀ other, ¬LastSet calls view key name other) ∧ LastSet calls .default key name value

/-- The last call that concerns a pair of a view and a key in normal form set a value there. -/
def Present (calls : List Call) (view : RegistryView) (key : String) : Prop :=
  ∃ spelled name value, Last (Call.Concerns view key) (.set view spelled name value) calls

theorem distinct_afterAll (calls : List Call) : (afterAll calls).Distinct := by
  induction calls using List.reverseRecOn with
  | nil => exact List.nodup_nil
  | append_singleton calls c ih =>
    rw [afterAll, List.foldl_append]
    exact (Call.effect_after _ c).distinct ih

theorem lookup?_afterAll (calls : List Call) (view : RegistryView) (key name : String)
    (value : RegistryValue) :
    (afterAll calls).lookup? view key name = some value ↔ LastSet calls view key name value := by
  rw [afterAll, (Call.decides_lookup? view key name).observe_run (by simp [lookup?, values?]) calls]
  constructor
  · rintro ⟨c, hlast, hvalue⟩
    cases c with
    | set v spelled other value' =>
      obtain rfl := Option.some.inj hvalue
      obtain ⟨rfl, -⟩ := hlast.holds
      exact ⟨spelled, other, hlast⟩
    | remove | clear => cases hvalue
  · rintro ⟨spelled, other, hlast⟩
    exact ⟨_, hlast, rfl⟩

theorem isSome_values?_afterAll (calls : List Call) (view : RegistryView) (key : String) :
    ((afterAll calls).values? view key).isSome ↔ Present calls view key := by
  rw [afterAll, (Call.decides_presence view key).observe_run (by simp [values?]) calls]
  constructor
  · rintro ⟨c, hlast, hvalue⟩
    cases c with
    | set v spelled name value =>
      obtain ⟨rfl, -⟩ := hlast.holds
      exact ⟨spelled, name, value, hlast⟩
    | remove | clear => cases hvalue
  · rintro ⟨spelled, name, value, hlast⟩
    exact ⟨_, hlast, rfl⟩

theorem orElse_lookup?_afterAll (calls : List Call) (view : RegistryView) (key name : String)
    (value : RegistryValue) :
    ((afterAll calls).lookup? view key name <|> (afterAll calls).lookup? .default key name) =
      some value ↔ Shown calls view key name value := by
  unfold Shown
  simp only [← lookup?_afterAll]
  cases (afterAll calls).lookup? view key name <;> simp

/-- A key that is valid has an answer, which is what the view shows. -/
theorem get?_afterAll (calls : List Call) (view : RegistryView) (key name : String)
    (answer : Option RegistryValue) :
    (afterAll calls).get? view key name = .ok answer ↔
      ∃ normal, RegistryKey.normalize key = .ok normal ∧
        ∀ value, answer = some value ↔ Shown calls view normal name value := by
  cases hkey : RegistryKey.normalize key with
  | error fault => simp [get?, hkey, Bind.bind, Except.bind]
  | ok normal =>
    rw [get?_eq _ view name hkey]
    simp only [Except.ok.injEq, exists_eq_left', ← orElse_lookup?_afterAll]
    constructor
    · rintro rfl value
      rfl
    · exact fun h => (Option.ext h).symm

theorem get?_eq_error (r : Registry) (view : RegistryView) (key name : String) (fault : Fault) :
    r.get? view key name = .error fault ↔ RegistryKey.normalize key = .error fault := by
  cases hkey : RegistryKey.normalize key with
  | error cause => simp [get?, hkey, Bind.bind, Except.bind]
  | ok normal => simp [get?_eq r view name hkey]

/-- A registry without keys answers as if there were none. -/
theorem get?_of_size_eq_zero {r : Registry} (h : r.size = 0) :
    r.get? = NoRegistry.get? := by
  obtain ⟨keys⟩ := r
  obtain rfl : keys = [] := List.length_eq_zero_iff.1 h
  funext view key name
  rw [get?, NoRegistry.get?]
  cases RegistryKey.normalize key <;> rfl

/-- A registry is a layered map. After any calls, each view shows what was set in it last, and
where it has nothing what was set last in the default view; the size is the number of pairs of a
view and a key that are there; and a registry without pairs answers as if there were none. Calls
with a key that is not valid fail and change nothing, and asking for such a key fails. -/
theorem layered_map (calls : List Call) :
    (∀ view key name answer, (afterAll calls).get? view key name = .ok answer ↔
      ∃ normal, RegistryKey.normalize key = .ok normal ∧
        ∀ value, answer = some value ↔ Shown calls view normal name value) ∧
    (∀ view key name fault, (afterAll calls).get? view key name = .error fault ↔
      RegistryKey.normalize key = .error fault) ∧
    (∀ c fault, (Call.run (afterAll calls) c = .error fault ↔
        ∃ key, c.key? = some key ∧ RegistryKey.normalize key = .error fault) ∧
      (Call.run (afterAll calls) c = .error fault → afterAll (calls ++ [c]) = afterAll calls)) ∧
    (∃ places : Finset (RegistryView × String),
      (∀ view key, (view, key) ∈ places ↔ Present calls view key) ∧
        (afterAll calls).size = places.card) ∧
    ((afterAll calls).size = 0 → (afterAll calls).get? = NoRegistry.get?) := by
  refine ⟨get?_afterAll calls, get?_eq_error _, fun c fault => ⟨Call.run_eq_error, fun h => ?_⟩,
    ⟨((afterAll calls).keys.map Prod.fst).toFinset, fun view key => ?_, ?_⟩,
    get?_of_size_eq_zero⟩
  · rw [afterAll, List.foldl_append]
    exact Call.after_of_error h
  · rw [List.mem_toFinset, mem_places, isSome_values?_afterAll]
  · rw [List.toFinset_card_of_nodup (distinct_afterAll calls), List.length_map, size]

end Registry

end BuildExpr
