import BuildExpr.NameMap
import BuildExpr.Proofs.Text.LetterCase

/-!
# Entries of maps from names

Setting a name either takes the place of its entry or goes to the end of the entries
(`NameMap.insertEntry_cases`). In a map whose names are distinct, the entries are those that asking
for their names finds (`NameMap.mem_entries_iff`).
-/

namespace BuildExpr

namespace NameMap

open Text

variable {α : Type}

/-- Setting a name keeps the place of its entry, and a name that has none goes to the end. -/
theorem insertEntry_cases (name : String) (a : α) (entries : List (String × α)) :
    (∃ before n b after, SameName n name ∧ (∀ e ∈ before, ¬SameName e.1 name) ∧
      entries = before ++ (n, b) :: after ∧
      insertEntry name a entries = before ++ (name, a) :: after) ∨
    ((∀ e ∈ entries, ¬SameName e.1 name) ∧
      insertEntry name a entries = entries ++ [(name, a)]) := by
  induction entries with
  | nil => exact .inr ⟨by simp, rfl⟩
  | cons e entries ih =>
    obtain ⟨n, b⟩ := e
    rw [insertEntry]
    by_cases hn : SameName n name
    · rw [if_pos hn]
      exact .inl ⟨[], n, b, entries, hn, by simp, rfl, rfl⟩
    · rw [if_neg hn]
      rcases ih with ⟨before, n', b', after, hn', hbefore, rfl, h⟩ | ⟨hfresh, h⟩
      · exact .inl ⟨(n, b) :: before, n', b', after, hn', List.forall_mem_cons.2 ⟨hn, hbefore⟩, rfl,
          by rw [h]; rfl⟩
      · exact .inr ⟨List.forall_mem_cons.2 ⟨hn, hfresh⟩, by rw [h]; rfl⟩

/-- Asking for a name passes over the entries of others. -/
theorem find?_of_forall_not {entries : List (String × α)} {name other : String}
    (h : ∀ e ∈ entries, ¬SameName e.1 name) (hother : SameName name other) :
    entries.find? (fun (n, _) => eqIgnoreCase n other) = none := by
  rw [List.find?_eq_none]
  intro e he hsame
  refine h e he ?_
  show (foldAscii e.1 == foldAscii name) = true
  rw [foldAscii_eq hother]
  exact hsame

theorem isSome_entry? {m : NameMap α} {name : String} :
    (m.entry? name).isSome ↔ ∃ e ∈ m.entries, SameName e.1 name := by
  unfold entry?
  rw [List.find?_isSome]

/-- The entry of a name that was set is the new one, with its spelling. -/
theorem entry?_insert (m : NameMap α) (name other : String) (a : α) :
    entry? (m.insert name a) other =
      if SameName name other then some (name, a) else m.entry? other := by
  obtain ⟨entries⟩ := m
  rw [insert, entry?, entry?]
  rcases insertEntry_cases name a entries with
    ⟨before, n, b, after, hn, hbefore, rfl, h⟩ | ⟨hfresh, h⟩
  · have hsame : eqIgnoreCase n other = eqIgnoreCase name other := eqIgnoreCase_trans hn
    rw [h, List.find?_append, List.find?_append]
    by_cases hother : SameName name other
    · rw [find?_of_forall_not hbefore hother, if_pos hother]
      simp [show eqIgnoreCase name other = true from hother]
    · simp [hsame, hother]
  · rw [h, List.find?_append]
    by_cases hother : SameName name other
    · rw [find?_of_forall_not hfresh hother, if_pos hother]
      simp [show eqIgnoreCase name other = true from hother]
    · simp [hother]

/-- A name that was set has its new value, and all others keep theirs. -/
theorem get?_insert (m : NameMap α) (name other : String) (a : α) :
    (m.insert name a).get? other =
      if eqIgnoreCase name other then some a else m.get? other := by
  unfold get?
  rw [entry?_insert]
  by_cases hother : SameName name other
  · rw [if_pos hother, if_pos hother]
    rfl
  · rw [if_neg hother, if_neg hother]

theorem entry?_erase (m : NameMap α) (name other : String) :
    entry? (m.erase name) other = if SameName name other then none else m.entry? other := by
  rw [erase, entry?, List.find?_filter]
  split
  case isTrue h =>
    rw [List.find?_eq_none]
    intro e he
    simp [eqIgnoreCase, foldAscii_eq h]
  case isFalse h =>
    unfold entry?
    congr 1
    funext e
    have hother : eqIgnoreCase name other = false := Bool.eq_false_iff.2 h
    cases hname : eqIgnoreCase e.1 name with
    | false => simp [hname]
    | true => simp [eqIgnoreCase_trans hname, hother]

/-- No two names of a map differ only in case. -/
def Distinct (m : NameMap α) : Prop :=
  m.entries.Pairwise fun e f => ¬SameName e.1 f.1

theorem mem_entries_iff {m : NameMap α} (h : m.Distinct) {name : String} {a : α} :
    (name, a) ∈ m.entries ↔ m.entry? name = some (name, a) := by
  obtain ⟨entries⟩ := m
  constructor
  · intro hmem
    obtain ⟨before, after, rfl⟩ := List.append_of_mem hmem
    rw [Distinct, List.pairwise_append] at h
    have hbefore : ∀ e ∈ before, ¬SameName e.1 name := fun e he => h.2.2 e he (name, a) (by simp)
    unfold entry?
    rw [List.find?_append, find?_of_forall_not hbefore (eqIgnoreCase_self name)]
    simp
  · intro hfound
    unfold entry? at hfound
    exact List.mem_of_find?_eq_some hfound

/-! ## What all names have -/

/-- Setting a name keeps what holds of all names, if it holds of the new one. -/
theorem forall_insert {P : String → Prop} {m : NameMap α} (h : ∀ e ∈ m.entries, P e.1)
    {name : String} (hname : P name) (a : α) : ∀ e ∈ (m.insert name a).entries, P e.1 := by
  obtain ⟨entries⟩ := m
  rw [insert]
  rcases insertEntry_cases name a entries with ⟨before, n, b, after, -, -, rfl, hnew⟩ | ⟨-, hnew⟩
  · rw [hnew]
    intro e he
    rcases List.mem_append.1 he with he | he
    · exact h e (List.mem_append_left _ he)
    · rcases List.mem_cons.1 he with rfl | he
      · exact hname
      · exact h e (List.mem_append_right _ (List.mem_cons_of_mem _ he))
  · rw [hnew]
    intro e he
    rcases List.mem_append.1 he with he | he
    · exact h e he
    · obtain rfl := List.mem_singleton.1 he
      exact hname

/-- Setting a name keeps a relation between each name and those after it, when the relation does
not look at spellings and a name without an entry may come last. -/
theorem pairwise_insert {R : String → String → Prop} {m : NameMap α}
    (h : m.entries.Pairwise fun e f => R e.1 f.1) {name : String}
    (hleft : ∀ {n other}, SameName n name → R n other → R name other)
    (hright : ∀ {n other}, SameName n name → R other n → R other name)
    (hlast : (∀ e ∈ m.entries, ¬SameName e.1 name) → ∀ e ∈ m.entries, R e.1 name) (a : α) :
    (m.insert name a).entries.Pairwise fun e f => R e.1 f.1 := by
  obtain ⟨entries⟩ := m
  rw [insert]
  rcases insertEntry_cases name a entries with
    ⟨before, n, b, after, hn, -, rfl, hnew⟩ | ⟨hfresh, hnew⟩
  · rw [hnew]
    rw [List.pairwise_append, List.pairwise_cons] at h ⊢
    obtain ⟨hbefore, ⟨hn', hafter⟩, hacross⟩ := h
    refine ⟨hbefore, ⟨fun e he => hleft hn (hn' e he), hafter⟩, fun e he f hf => ?_⟩
    rcases List.mem_cons.1 hf with rfl | hf
    · exact hright hn (hacross e he (n, b) (by simp))
    · exact hacross e he f (List.mem_cons_of_mem _ hf)
  · rw [hnew, List.pairwise_append]
    refine ⟨h, List.pairwise_singleton .., fun e he f hf => ?_⟩
    obtain rfl := List.mem_singleton.1 hf
    exact hlast hfresh e he

end NameMap

end BuildExpr
