/-!
# Computations that may fail

A computation that may fail succeeds exactly when its steps do, in order. The fault that it ends in
is that of one of its steps, so what holds of the faults of all steps holds of its fault
(`Except.Reports`).
-/

namespace BuildExpr

namespace Except

variable {ε α β : Type}

theorem bind_eq_ok {x : Except ε α} {f : α → Except ε β} {b : β} :
    x >>= f = .ok b ↔ ∃ a, x = .ok a ∧ f a = .ok b := by
  constructor
  · intro h
    cases x with
    | ok a => exact ⟨a, rfl, h⟩
    | error e => cases h
  · rintro ⟨a, rfl, h⟩
    exact h

theorem map_eq_ok {x : Except ε α} {f : α → β} {b : β} :
    x.map f = .ok b ↔ ∃ a, x = .ok a ∧ f a = b := by
  cases x <;> simp [Except.map]

theorem mapM_nil_eq_ok {f : α → Except ε β} {bs : List β} :
    ([] : List α).mapM f = .ok bs ↔ bs = [] :=
  ⟨fun h => (Except.ok.inj h).symm, fun h => by rw [h]; rfl⟩

theorem mapM_cons_eq_ok {f : α → Except ε β} {a : α} {as : List α} {bs : List β} :
    (a :: as).mapM f = .ok bs ↔ ∃ b more, f a = .ok b ∧ as.mapM f = .ok more ∧ bs = b :: more := by
  simp only [List.mapM_cons, bind_eq_ok]
  constructor
  · rintro ⟨b, hb, more, hmore, h⟩
    exact ⟨b, more, hb, hmore, (Except.ok.inj h).symm⟩
  · rintro ⟨b, more, hb, hmore, rfl⟩
    exact ⟨b, hb, more, hmore, rfl⟩

theorem mapM_congr {f g : α → Except ε β} {as : List α} (h : ∀ a ∈ as, f a = g a) :
    as.mapM f = as.mapM g := by
  induction as with
  | nil => rfl
  | cons a as ih =>
    obtain ⟨ha, has⟩ := List.forall_mem_cons.1 h
    rw [List.mapM_cons, List.mapM_cons, ha, ih has]

theorem foldlM_congr {f g : β → α → Except ε β} {as : List α} (h : ∀ b, ∀ a ∈ as, f b a = g b a)
    (b : β) : as.foldlM f b = as.foldlM g b := by
  induction as generalizing b with
  | nil => rfl
  | cons a as ih =>
    rw [List.foldlM_cons, List.foldlM_cons, h b a (by simp)]
    exact congrArg _ (funext (ih fun b a ha => h b a (by simp [ha])))

/-- Steps that all succeed give the list of what they give. -/
theorem mapM_eq_ok_map {f : α → Except ε β} {g : α → β} {as : List α}
    (h : ∀ a ∈ as, f a = .ok (g a)) : as.mapM f = .ok (as.map g) := by
  induction as with
  | nil => rfl
  | cons a as ih =>
    obtain ⟨ha, has⟩ := List.forall_mem_cons.1 h
    exact mapM_cons_eq_ok.2 ⟨_, _, ha, ih has, rfl⟩

theorem mapM_append_eq_ok {f : α → Except ε β} {as as' : List α} {bs : List β} :
    (as ++ as').mapM f = .ok bs ↔
      ∃ first more, as.mapM f = .ok first ∧ as'.mapM f = .ok more ∧ bs = first ++ more := by
  induction as generalizing bs with
  | nil =>
    constructor
    · exact fun h => ⟨[], bs, rfl, h, rfl⟩
    · rintro ⟨first, more, hfirst, hmore, rfl⟩
      rw [mapM_nil_eq_ok.1 hfirst]
      exact hmore
  | cons a as ih =>
    simp only [List.cons_append, mapM_cons_eq_ok, ih]
    constructor
    · rintro ⟨b, _, hb, ⟨first, more, hfirst, hmore, rfl⟩, rfl⟩
      exact ⟨b :: first, more, ⟨b, first, hb, hfirst, rfl⟩, hmore, rfl⟩
    · rintro ⟨_, more, ⟨b, first, hb, hfirst, rfl⟩, hmore, rfl⟩
      exact ⟨b, first ++ more, hb, ⟨first, more, hfirst, hmore, rfl⟩, rfl⟩

/-- Steps that succeed alike lead to the same end. -/
theorem foldlM_eq_ok_of_steps {f g : β → α → Except ε β}
    (hstep : ∀ b a b', f b a = .ok b' → g b a = .ok b') {as : List α} {b b' : β}
    (h : as.foldlM f b = .ok b') : as.foldlM g b = .ok b' := by
  induction as generalizing b with
  | nil => exact h
  | cons a as ih =>
    rw [List.foldlM_cons, bind_eq_ok] at h ⊢
    obtain ⟨next, hnext, h⟩ := h
    exact ⟨next, hstep b a next hnext, ih h⟩

/-- A computation that all elements of a list begin with may be made once, if there are any. -/
theorem mapM_bind {γ : Type} {as : List α} (has : as ≠ []) (x : Except ε γ)
    (f : γ → α → Except ε β) :
    (as.mapM fun a => x >>= fun c => f c a) = x >>= fun c => as.mapM (f c) := by
  cases x with
  | ok c => rfl
  | error e =>
    obtain ⟨a, as, rfl⟩ := List.exists_cons_of_ne_nil has
    rw [List.mapM_cons]
    rfl

/-- What a property of results needs to hold of all results of a list. -/
theorem forall_of_mapM_eq_ok {f : α → Except ε β} {p : β → Prop} {as : List α} {bs : List β}
    (h : as.mapM f = .ok bs) (hp : ∀ a ∈ as, ∀ b, f a = .ok b → p b) : ∀ b ∈ bs, p b := by
  induction as generalizing bs with
  | nil =>
    rw [mapM_nil_eq_ok.1 h]
    simp
  | cons a as ih =>
    obtain ⟨b, more, hb, hmore, rfl⟩ := mapM_cons_eq_ok.1 h
    intro c hc
    rcases List.mem_cons.1 hc with rfl | hc
    · exact hp a (by simp) _ hb
    · exact ih hmore (fun a ha => hp a (by simp [ha])) c hc

theorem exists_of_mapM_eq_ok {f : α → Except ε β} {as : List α} {bs : List β}
    (h : as.mapM f = .ok bs) : ∀ a ∈ as, ∃ b, f a = .ok b := by
  induction as generalizing bs with
  | nil => simp
  | cons a as ih =>
    obtain ⟨b, more, hb, hmore, -⟩ := mapM_cons_eq_ok.1 h
    exact List.forall_mem_cons.2 ⟨⟨b, hb⟩, ih hmore⟩

/-- What holds of the steps that succeed holds on a list that succeeds, when both renamings are
compatible with each step. -/
theorem mapM_map_eq_ok {α' β' : Type} {f : α → Except ε β} {f' : α' → Except ε β'} {g : α → α'}
    {g' : β → β'} {as : List α} {bs : List β} (h : as.mapM f = .ok bs)
    (hstep : ∀ a ∈ as, ∀ b ∈ bs, f a = .ok b → f' (g a) = .ok (g' b)) :
    (as.map g).mapM f' = .ok (bs.map g') := by
  induction as generalizing bs with
  | nil =>
    rw [mapM_nil_eq_ok.1 h]
    rfl
  | cons a as ih =>
    obtain ⟨b, more, hb, hmore, rfl⟩ := mapM_cons_eq_ok.1 h
    have hfirst : f' (g a) = .ok (g' b) := hstep a (by simp) b (by simp) hb
    have hrest := ih hmore fun a ha b hb => hstep a (by simp [ha]) b (by simp [hb])
    exact mapM_cons_eq_ok.2 ⟨g' b, more.map g', hfirst, hrest, rfl⟩

/-- Two computations that differ by renaming what they take and give do so on lists too. -/
theorem mapM_map_eq {α' β' : Type} {f : α → Except ε β} {f' : α' → Except ε β'} {g : α → α'}
    {g' : β → β'} {as : List α} (h : ∀ a ∈ as, f' (g a) = (f a).map g') :
    (as.map g).mapM f' = (as.mapM f).map (List.map g') := by
  induction as with
  | nil => rfl
  | cons a as ih =>
    rw [List.map_cons, List.mapM_cons, List.mapM_cons, h a (by simp),
      ih fun a ha => h a (by simp [ha])]
    cases f a with
    | error e => rfl
    | ok b => cases as.mapM f <;> rfl

theorem forM_eq_ok {f : α → Except ε Unit} {as : List α} :
    forM as f = .ok () ↔ ∀ a ∈ as, f a = .ok () := by
  induction as with
  | nil => exact iff_of_true rfl (by simp)
  | cons a as ih =>
    rw [List.forM_cons, bind_eq_ok, List.forall_mem_cons, ← ih]
    exact ⟨fun ⟨_, ha, has⟩ => ⟨ha, has⟩, fun ⟨ha, has⟩ => ⟨(), ha, has⟩⟩

/-! ## Faults -/

/-- A property of the fault that a computation ends in. -/
def Reports (p : ε → Prop) (x : Except ε α) : Prop := ∀ e, x = .error e → p e

namespace Reports

variable {p q : ε → Prop}

theorem ok (a : α) : Reports p (.ok a) := fun _ h => by cases h

theorem error {e : ε} (h : p e) : Reports p (.error e : Except ε α) :=
  fun _ he => Except.error.inj he ▸ h

theorem mono {x : Except ε α} (h : Reports p x) (hpq : ∀ e, p e → q e) : Reports q x :=
  fun e he => hpq e (h e he)

theorem bind {x : Except ε α} {f : α → Except ε β} (hx : Reports p x) (hf : ∀ a, Reports p (f a)) :
    Reports p (x >>= f) := by
  cases x with
  | ok a => exact hf a
  | error e => exact .error (hx e rfl)

theorem mapM {f : α → Except ε β} {as : List α} (h : ∀ a ∈ as, Reports p (f a)) :
    Reports p (as.mapM f) := by
  induction as with
  | nil => exact .ok []
  | cons a as ih =>
    obtain ⟨hfirst, hmore⟩ := List.forall_mem_cons.1 h
    rw [List.mapM_cons]
    exact .bind hfirst fun _ => .bind (ih hmore) fun _ => .ok _

theorem foldlM {f : β → α → Except ε β} {as : List α} (h : ∀ b, ∀ a ∈ as, Reports p (f b a))
    (b : β) : Reports p (as.foldlM f b) := by
  induction as generalizing b with
  | nil => exact .ok b
  | cons a as ih =>
    rw [List.foldlM_cons]
    exact .bind (h b a (by simp)) fun _ => ih (fun b a ha => h b a (by simp [ha])) _

end Reports

/-! ## Results without faults -/

theorem toOption_eq_some {x : Except ε α} {a : α} : x.toOption = some a ↔ x = .ok a := by
  cases x <;> simp [Except.toOption]

theorem exists_of_isSome {x : Except ε α} (h : x.toOption.isSome = true) : ∃ a, x = .ok a := by
  obtain ⟨a, ha⟩ := Option.isSome_iff_exists.1 h
  exact ⟨a, toOption_eq_some.1 ha⟩

theorem toOption_map (f : α → β) (x : Except ε α) : (x.map f).toOption = x.toOption.map f := by
  cases x <;> rfl

theorem toOption_bind (x : Except ε α) (f : α → Except ε β) :
    (x >>= f).toOption = x.toOption.bind fun a => (f a).toOption := by
  cases x <;> rfl

end Except

end BuildExpr
