import Mathlib.Data.List.Induction

/-!
# Histories of operations

A history lists operations in the order in which they were carried out. Where the operations with
a property decide what is observed of a state and the others leave it as it was, the observation
after a whole history is what the last operation with the property made of it
(`History.Decides.observe_run`).
-/

namespace BuildExpr

namespace History

variable {ε σ α : Type}

/-- An operation of a history that has a property, where none after it has. -/
def Last (p : ε → Prop) (e : ε) (history : List ε) : Prop :=
  ∃ before after, history = before ++ e :: after ∧ p e ∧ ∀ f ∈ after, ¬p f

theorem not_last_nil {p : ε → Prop} {e : ε} : ¬Last p e [] := by
  rintro ⟨before, after, h, -⟩
  simp at h

theorem Last.holds {p : ε → Prop} {e : ε} {history : List ε} : Last p e history → p e := by
  rintro ⟨_, _, -, he, -⟩
  exact he

/-- The last of a longer history is the new operation if that has the property, and else the one
it was before. -/
theorem last_concat {p : ε → Prop} {e f : ε} {history : List ε} :
    Last p e (history ++ [f]) ↔ p f ∧ e = f ∨ ¬p f ∧ Last p e history := by
  constructor
  · rintro ⟨before, after, h, he, hafter⟩
    rcases List.eq_nil_or_concat after with rfl | ⟨more, g, rfl⟩
    · obtain ⟨-, hf⟩ := List.append_inj' h rfl
      obtain rfl : f = e := by simpa using hf
      exact .inl ⟨he, rfl⟩
    · rw [List.concat_eq_append, ← List.cons_append, ← List.append_assoc] at h
      obtain ⟨rfl, hg⟩ := List.append_inj' h rfl
      obtain rfl : f = g := by simpa using hg
      refine .inr ⟨hafter f (by simp), before, more, rfl, he, fun g hg => hafter g ?_⟩
      simp [hg]
  · rintro (⟨hf, rfl⟩ | ⟨hf, before, after, rfl, he, hafter⟩)
    · exact ⟨history, [], rfl, hf, by simp⟩
    · refine ⟨before, after ++ [f], by simp, he, fun g hg => ?_⟩
      rcases List.mem_append.1 hg with hg | hg
      · exact hafter g hg
      · obtain rfl := List.mem_singleton.1 hg
        exact hf

theorem last_append_of_forall_not {p : ε → Prop} {e : ε} {history more : List ε}
    (hmore : ∀ f ∈ more, ¬p f) : Last p e (history ++ more) ↔ Last p e history := by
  induction more using List.reverseRecOn with
  | nil => rw [List.append_nil]
  | append_singleton more f ih =>
    rw [← List.append_assoc, last_concat, ih fun g hg => hmore g (List.mem_append_left _ hg)]
    have hf : ¬p f := hmore f (by simp)
    simp [hf]

theorem last_map {p : ε → Prop} {g : α → ε} {e : ε} {history : List α} :
    Last p e (history.map g) ↔ ∃ a, g a = e ∧ Last (fun a => p (g a)) a history := by
  induction history using List.reverseRecOn with
  | nil => simp [not_last_nil]
  | append_singleton history a ih =>
    rw [List.map_append, List.map_singleton, last_concat, ih]
    simp only [last_concat]
    by_cases ha : p (g a)
    · simp [ha, eq_comm]
    · simp [ha]

/-- What is observed of a state is decided by the operations with a property: each gives its own
observation, and all others keep the one there was. -/
structure Decides (step : σ → ε → σ) (p : ε → Prop) (given : ε → α) (observe : σ → α) :
    Prop where
  decided (s : σ) {e : ε} : p e → observe (step s e) = given e
  kept (s : σ) {e : ε} : ¬p e → observe (step s e) = observe s

/-- An observation that the first state does not allow is made after a history exactly when the
last operation that decides it gives it. -/
theorem Decides.observe_run {step : σ → ε → σ} {p : ε → Prop} {given : ε → α} {observe : σ → α}
    (h : Decides step p given observe) {first : σ} {a : α} (hfirst : observe first ≠ a)
    (history : List ε) :
    observe (history.foldl step first) = a ↔ ∃ e, Last p e history ∧ given e = a := by
  -- The last operation is the one to look at, so the history is taken apart from its end.
  induction history using List.reverseRecOn with
  | nil => simp [hfirst, not_last_nil]
  | append_singleton history f ih =>
    rw [List.foldl_append, List.foldl_cons, List.foldl_nil]
    by_cases hf : p f
    · simp [h.decided _ hf, last_concat, hf]
    · simp [h.kept _ hf, ih, last_concat, hf]

end History

end BuildExpr
