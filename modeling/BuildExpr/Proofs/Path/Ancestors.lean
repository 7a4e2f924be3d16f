import BuildExpr.Proofs.Path.Names

/-!
# The directories above a path

A full path is a slash with names behind it, and perhaps a slash at its end (`Path.IsFull`). The
directory part of a full path is full again and passes by no directory on the way (`IsFull.step`),
so a walk upwards meets all directories above the path, down to the root (`IsFull.mem_ancestors`).
-/

namespace BuildExpr

namespace Path

/-! ## Full paths -/

/-- Names of segments: they are not empty and hold no separators. -/
def Named (names : List (List Char)) : Prop := ∀ name ∈ names, name ≠ [] ∧ Bare name

/-- The path of names from the root on. -/
def rootedAt (names : List (List Char)) : List Char := '/' :: Chars.join ['/'] names

/-- Whether a path is one of names from the root on, perhaps with a separator at its end. -/
inductive IsFull : List Char → Prop
  | rootedAt {names : List (List Char)} (h : Named names) : IsFull (rootedAt names)
  | slashed {names : List (List Char)} (h : Named names) (hne : names ≠ []) :
      IsFull (Path.rootedAt names ++ ['/'])

theorem named_resolved (p : List Char) : Named (resolved p) := by
  intro name hname
  rcases mem_of_mem_resolved (List.mem_reverse.1 hname) with h | h
  · cases h
  · exact of_mem_names h

theorem isFull_normalize {p : List Char} (h : isRooted p = true) : IsFull (normalize p) := by
  rw [normalize_eq, root, if_pos h]
  split
  · rename_i hend
    have hne := (Bool.and_eq_true_iff.1 hend).2
    exact .slashed (named_resolved p) (by simpa using hne)
  · rw [List.append_nil]
    exact .rootedAt (named_resolved p)

theorem isRooted_fullBase {current : List Char} (hcurrent : isRooted current = true)
    (base : Option (List Char)) : isRooted (fullBase current base) = true := by
  cases base with
  | none => exact hcurrent
  | some b =>
    rw [fullBase, Option.elim_some]
    split
    · assumption
    · rw [isRooted_combine, hcurrent, Bool.true_or]

/-- A path is full in its full form, if the current directory is rooted. -/
theorem isFull_full {current p full : List Char} {base : Option (List Char)}
    (hcurrent : isRooted current = true) (h : Path.full current base p = .ok full) :
    IsFull full := by
  rw [(full_eq_ok h).2]
  exact isFull_normalize (by rw [isRooted_combine, isRooted_fullBase hcurrent, Bool.true_or])

/-! ## Names from the root on -/

section

variable {names : List (List Char)} (hnames : Named names)

theorem rootedAt_concat (hne : names ≠ []) (name : List Char) :
    rootedAt (names ++ [name]) = rootedAt names ++ '/' :: name := by
  rw [rootedAt, rootedAt, Chars.join_concat _ hne]
  rfl

include hnames

theorem backslash_not_mem_rootedAt : '\\' ∉ rootedAt names := by
  rw [rootedAt, List.mem_cons, not_or]
  refine ⟨by decide, fun h => ?_⟩
  rcases Chars.mem_join h with h | ⟨name, hname, h⟩
  · cases h
  · exact (hnames name hname).2.backslash_not_mem h

theorem fileName_rootedAt (hne : names ≠ []) : fileName (rootedAt names) ≠ [] := by
  obtain ⟨init, name, rfl⟩ := List.eq_nil_or_concat names |>.resolve_left hne
  obtain ⟨hname, hbare⟩ := hnames name (by simp)
  by_cases hinit : init = []
  · subst hinit
    exact (fileName_append_bare [] hbare).symm ▸ hname
  · rw [List.concat_eq_append, rootedAt_concat hinit, fileName_append_bare _ hbare]
    exact hname

/-- The directory part of a path is what stands before the separator of its last segment. -/
theorem directoryName?_rootedAt_append (hne : names ≠ []) {name : List Char} (hname : Bare name) :
    directoryName? (rootedAt names ++ '/' :: name) = some (rootedAt names) := by
  have hself : slashed (rootedAt names ++ '/' :: name) = rootedAt names ++ '/' :: name := by
    rw [slashed_append, slashed_slash_cons, slashed_eq_self (backslash_not_mem_rootedAt hnames),
      slashed_eq_self hname.backslash_not_mem]
  have hend := endsWithSeparator_of_ne (fileName_rootedAt hnames hne)
  rw [directoryName?_of_slashed hself hname (by simp [rootedAt]), dropEndWhile_eq_self hend, if_neg]
  exact List.cons_ne_nil _ _

omit hnames in
theorem directoryName?_singleton {name : List Char} (hname : Bare name) (hne : name ≠ []) :
    directoryName? (rootedAt [name]) = some (rootedAt []) := by
  have hself : slashed ([] ++ '/' :: name) = [] ++ '/' :: name :=
    slashed_eq_self (by simpa using hname.backslash_not_mem)
  exact directoryName?_of_slashed hself hname (by simpa [slashed] using hne)

end

/-! ## Directories above -/

/-- Whether a directory is above a path: it stands before a separator of the path, or is the root
of a longer path. -/
def IsAbove (d p : List Char) : Prop :=
  (d ≠ [] ∧ d ++ ['/'] <+: p) ∨ (d = ['/'] ∧ p ≠ ['/'])

/-- A text that ends with a slash is not one of those that begin a text and end in its last
segment. -/
theorem prefix_append_bare {d p name : List Char} (hname : '/' ∉ name) :
    d ++ ['/'] <+: p ++ name ↔ d ++ ['/'] <+: p := by
  induction name using List.reverseRecOn with
  | nil => rw [List.append_nil]
  | append_singleton name c ih =>
    rw [List.mem_append, not_or] at hname
    rw [← List.append_assoc, List.prefix_concat_iff, ih hname.1, or_iff_right]
    intro h
    have hc := congrArg List.getLast? h
    rw [List.getLast?_concat, List.getLast?_concat] at hc
    exact hname.2 (List.mem_singleton.2 (Option.some.inj hc))

/-- Above a path with one more segment are that path and what is above it. -/
theorem isAbove_append {p name d : List Char} (hp : p ≠ []) (hroot : p ≠ ['/']) (hname : Bare name) :
    IsAbove d (p ++ '/' :: name) ↔ d = p ∨ IsAbove d p := by
  have hprefix : d ++ ['/'] <+: p ++ '/' :: name ↔ d = p ∨ d ++ ['/'] <+: p := by
    have hself : p ++ '/' :: name = p ++ ['/'] ++ name := by
      rw [List.append_assoc, List.singleton_append]
    rw [hself, prefix_append_bare hname.not_mem, List.prefix_concat_iff, List.append_left_inj]
  rw [IsAbove, IsAbove, hprefix]
  constructor
  · rintro (⟨hne, rfl | h⟩ | ⟨rfl, -⟩)
    · exact .inl rfl
    · exact .inr (.inl ⟨hne, h⟩)
    · exact .inr (.inr ⟨rfl, hroot⟩)
  · rintro (rfl | ⟨hne, h⟩ | ⟨rfl, -⟩)
    · exact .inl ⟨hp, .inl rfl⟩
    · exact .inl ⟨hne, .inr h⟩
    · refine .inr ⟨rfl, fun h => hp ?_⟩
      have hlength := congrArg List.length h
      rw [List.length_append, List.length_cons, List.length_singleton] at hlength
      exact List.eq_nil_of_length_eq_zero (by omega)

theorem not_isAbove_root (d : List Char) : ¬ IsAbove d ['/'] := by
  rintro (⟨hne, h⟩ | ⟨-, hroot⟩)
  · have hlength := h.length_le
    rw [List.length_append, List.length_singleton] at hlength
    exact hne (List.eq_nil_of_length_eq_zero (by omega))
  · exact hroot rfl

/-- Above a path of one name is the root only. -/
theorem isAbove_singleton {name d : List Char} (hname : Bare name) (hne : name ≠ []) :
    IsAbove d ('/' :: name) ↔ d = ['/'] := by
  have hself : '/' :: name = ['/'] ++ name := rfl
  rw [IsAbove, hself, prefix_append_bare hname.not_mem]
  constructor
  · rintro (hroot | ⟨rfl, -⟩)
    · exact absurd (.inl hroot) (not_isAbove_root d)
    · rfl
  · rintro rfl
    exact .inr ⟨rfl, by simpa using hne⟩

/-! ## Walking up -/

theorem ancestors_of_none {p : List Char} (h : directoryName? p = none) : ancestors p = [] := by
  rw [ancestors]
  split
  · rfl
  · rename_i d hd
    rw [h] at hd
    cases hd

theorem ancestors_of_some {p d : List Char} (h : directoryName? p = some d) (hd : d ≠ []) :
    ancestors p = d :: ancestors d := by
  rw [ancestors]
  split
  · rename_i hnone
    rw [h] at hnone
    cases hnone
  · rename_i d' hd'
    obtain rfl : d = d' := Option.some.inj (h.symm.trans hd')
    rw [if_neg (by simpa using hd)]

namespace IsFull

/-- One step up from a full path is to the nearest of the directories above it. -/
theorem step {p : List Char} (h : IsFull p) :
    p = ['/'] ∨ ∃ d, directoryName? p = some d ∧ d ≠ [] ∧ IsFull d ∧
      ∀ d', IsAbove d' p ↔ d' = d ∨ IsAbove d' d := by
  have happend {names : List (List Char)} (hnames : Named names) (hne : names ≠ [])
      {name : List Char} (hname : Bare name) :
      ∃ d, directoryName? (Path.rootedAt names ++ '/' :: name) = some d ∧ d ≠ [] ∧ IsFull d ∧
        ∀ d', IsAbove d' (Path.rootedAt names ++ '/' :: name) ↔ d' = d ∨ IsAbove d' d := by
    refine ⟨_, directoryName?_rootedAt_append hnames hne hname, List.cons_ne_nil _ _,
      .rootedAt hnames, fun d' => isAbove_append (List.cons_ne_nil _ _) (fun h => ?_) hname⟩
    exact fileName_rootedAt hnames hne (h ▸ rfl)
  cases h with
  | slashed hnames hne => exact .inr (happend hnames hne bare_nil)
  | @rootedAt names hnames =>
    rcases List.eq_nil_or_concat names with rfl | ⟨init, name, rfl⟩
    · exact .inl rfl
    · rw [List.concat_eq_append] at hnames ⊢
      obtain ⟨hne, hname⟩ := hnames name (by simp)
      by_cases hinit : init = []
      · subst hinit
        refine .inr ⟨_, directoryName?_singleton hname hne, List.cons_ne_nil _ _,
          @IsFull.rootedAt [] nofun, fun d' => ?_⟩
        exact (isAbove_singleton hname hne).trans (or_iff_left (not_isAbove_root d')).symm
      · rw [rootedAt_concat hinit]
        exact .inr (happend (fun n hn => hnames n (by simp [hn])) hinit hname)

/-- A walk up from a full path meets the directories above it. -/
theorem mem_ancestors {p : List Char} (h : IsFull p) {d : List Char} :
    d ∈ ancestors p ↔ IsAbove d p := by
  rcases h.step with rfl | ⟨d', hd', hne, hfull, habove⟩
  · rw [ancestors_of_none rfl]
    exact iff_of_false List.not_mem_nil (not_isAbove_root d)
  · rw [ancestors_of_some hd' hne, List.mem_cons, hfull.mem_ancestors, habove]
  termination_by p.length
  decreasing_by exact length_lt_of_directoryName? hd'

end IsFull

end Path

end BuildExpr
