import BuildExpr.Proofs.Path.Canonical

/-!
# Ways between full paths

The way from a directory to a path climbs, with one `..` for each name that only the directory has,
and then goes down the names that only the path has (`Path.steps`). Each `..` takes back one of the
names of the directory, so that the way, read from the directory, is resolved to the path
(`Path.foldl_steps`), but for a slash at the end of the path that a way from a directory to itself
does not show (`Path.makeRelative_inverted`).
-/

namespace BuildExpr

namespace Path

/-! ## Steps between names -/

theorem take_commonLength (base path : List (List Char)) :
    base.take (commonLength base path) = path.take (commonLength base path) := by
  induction base generalizing path with
  | nil => cases path <;> rfl
  | cons a base ih =>
    cases path with
    | nil => rfl
    | cons b path =>
      rw [commonLength]
      split
      · rename_i h
        rw [List.take_succ_cons, List.take_succ_cons, ih path, beq_iff_eq.1 h]
      · rfl

/-- The steps from a directory to a path with these names. -/
def steps (base path : List (List Char)) : List (List Char) :=
  List.replicate (base.length - commonLength base path) ['.', '.'] ++
    path.drop (commonLength base path)

section

variable {rooted : Bool}

theorem foldl_isName {names : List (List Char)} (h : ∀ name ∈ names, IsName name)
    (done : List (List Char)) :
    names.foldl (resolveSegment rooted) done = names.reverse ++ done := by
  induction names generalizing done with
  | nil => rfl
  | cons name names ih =>
    rw [List.forall_mem_cons] at h
    rw [List.foldl_cons, resolveSegment_isName h.1, ih h.2, List.reverse_cons, List.append_assoc,
      List.singleton_append]

/-- Every `..` takes back a name. -/
theorem foldl_ups {done : List (List Char)} (h : ∀ name ∈ done, IsName name) {k : ℕ}
    (hk : k ≤ done.length) :
    (List.replicate k ['.', '.']).foldl (resolveSegment rooted) done = done.drop k := by
  induction k generalizing done with
  | zero => rfl
  | succ k ih =>
    cases done with
    | nil => exact absurd hk (Nat.not_succ_le_zero k)
    | cons name done =>
      rw [List.forall_mem_cons] at h
      rw [List.replicate_succ, List.foldl_cons, resolveSegment_up_of_isName h.1,
        ih h.2 (Nat.le_of_succ_le_succ hk), List.drop_succ_cons]

/-- The steps lead from the directory to the path. -/
theorem foldl_steps {base path : List (List Char)} (hbase : ∀ name ∈ base, IsName name)
    (hpath : ∀ name ∈ path, IsName name) :
    (steps base path).foldl (resolveSegment rooted) base.reverse = path.reverse := by
  have hclimb : (List.replicate (base.length - commonLength base path) ['.', '.']).foldl
      (resolveSegment rooted) base.reverse = (path.take (commonLength base path)).reverse := by
    rw [foldl_ups (by simpa using hbase) (by simp), ← take_commonLength, List.reverse_take]
  have hdown : ∀ name ∈ path.drop (commonLength base path), IsName name :=
    fun name h => hpath name (List.mem_of_mem_drop h)
  rw [steps, List.foldl_append, hclimb, foldl_isName hdown, ← List.reverse_append,
    List.take_append_drop]

end

theorem named_steps {base path : List (List Char)} (h : Named path) : Named (steps base path) := by
  intro step hstep
  rcases List.mem_append.1 hstep with hstep | hstep
  · rw [List.eq_of_mem_replicate hstep]
    exact ⟨by simp, bare_of_not_mem (by decide) (by decide)⟩
  · exact h step (List.mem_of_mem_drop hstep)

/-! ## The way as a text -/

theorem names_join_of_named {names : List (List Char)} (h : Named names) :
    Path.names (Chars.join ['/'] names) = names := by
  rw [names_join fun name hname => (h name hname).2, List.filter_eq_self]
  intro name hname
  simpa using (h name hname).1

section

variable (base path : List Char)

theorem relative_eq : relative base path =
    if (steps (names base) (names path)).isEmpty then ['.']
    else Chars.join ['/'] (steps (names base) (names path)) ++
      if endsWithSeparator path then ['/'] else [] :=
  rfl

theorem named_steps_names : Named (steps (names base) (names path)) :=
  named_steps fun _ => of_mem_names

/-- The way is read from a directory, and its names lead where its steps do. -/
theorem names_relative : isRooted (relative base path) = false ∧
    ∀ rooted done, (names (relative base path)).foldl (resolveSegment rooted) done =
      (steps (names base) (names path)).foldl (resolveSegment rooted) done := by
  have hnamed := named_steps_names base path
  rw [relative_eq]
  split
  · rename_i hnone
    rw [List.isEmpty_iff.1 hnone]
    exact ⟨rfl, fun _ _ => rfl⟩
  · rename_i hsome
    refine ⟨isRooted_join_append hnamed (by simpa using hsome) _, fun rooted done => ?_⟩
    have hnames := names_root_append [] (Chars.join ['/'] (steps (names base) (names path)))
      (endsWithSeparator path)
    rw [names_join_of_named hnamed] at hnames
    exact congrArg (List.foldl (resolveSegment rooted) done) hnames

theorem relative_ne_nil : relative base path ≠ [] := by
  rw [relative_eq]
  split
  · exact List.cons_ne_nil _ _
  · rename_i hsome
    intro h
    have hjoin := names_join_of_named (named_steps_names base path)
    rw [(List.append_eq_nil_iff.1 h).1] at hjoin
    exact hsome (List.isEmpty_iff.2 hjoin.symm)

/-- The way shows the separator at the end of the path, unless there is no step to take. -/
theorem endsWithSeparator_relative : endsWithSeparator (relative base path) =
    (endsWithSeparator path && !(steps (names base) (names path)).isEmpty) := by
  rw [relative_eq]
  split
  · rename_i hnone
    rw [hnone, Bool.not_true, Bool.and_false]
    rfl
  · rename_i hsome
    rw [Bool.eq_false_iff.2 hsome, Bool.not_false, Bool.and_true]
    cases endsWithSeparator path with
    | true => exact endsWithSeparator_append _ (by simp)
    | false =>
      rw [if_neg Bool.false_ne_true, List.append_nil]
      exact endsWithSeparator_join (named_steps_names base path)

end

/-- Reading a path from a directory keeps the separator at its end. -/
theorem endsWithSeparator_combine {base p : List Char} (hbase : base ≠ []) (hp : p ≠ [])
    (hrel : isRooted p = false) : endsWithSeparator (combine base p) = endsWithSeparator p := by
  obtain ⟨d, hd, -⟩ := exists_combine hbase hp hrel
  have hne : slashed p ≠ [] := by simpa [slashed] using hp
  rw [hd, endsWithSeparator_append d (List.cons_ne_nil _ _), ← List.singleton_append,
    endsWithSeparator_append ['/'] hne, endsWithSeparator_slashed]

/-- The way to a path, read from the directory where it begins, is resolved to the path. Only a
separator at the end of the path is lost, when there is no step to take. -/
theorem normalize_combine_relative {base path : List Char} (hbase : IsCanonical base)
    (hbaseroot : isRooted base = true) (hpath : IsCanonical path)
    (hpathroot : isRooted path = true) :
    normalize (combine base (relative base path)) = path ∨
      relative base path = ['.'] ∧
        normalize (combine base (relative base path)) ++ ['/'] = path := by
  obtain ⟨hrel, hfold⟩ := names_relative base path
  have hrooted : isRooted (combine base (relative base path)) = true := by
    rw [isRooted_combine, hbaseroot, Bool.true_or]
  have hbasenames : ∀ name ∈ names base, IsName name :=
    hbase.names_eq ▸ hbase.isName_of_rooted hbaseroot
  have hpathnames : ∀ name ∈ names path, IsName name :=
    hpath.names_eq ▸ hpath.isName_of_rooted hpathroot
  have hresolved : resolved (combine base (relative base path)) = names path := by
    rw [resolved, names_combine base hrel, List.foldl_append, foldl_isName hbasenames, hfold,
      List.append_nil, foldl_steps hbasenames hpathnames, List.reverse_reverse]
  have hbasene : base ≠ [] := by
    rintro rfl
    cases hbaseroot
  have hway := normalize_eq (combine base (relative base path))
  have hself := eq_join_segments hpath.backslash_not_mem
  rw [hresolved, endsWithSeparator_combine hbasene (relative_ne_nil base path) hrel,
    endsWithSeparator_relative, root, if_pos hrooted] at hway
  rw [← hpath.names_eq, root, if_pos hpathroot] at hself
  cases hsteps : (steps (names base) (names path)).isEmpty with
  | false =>
    rw [hsteps, Bool.not_false, Bool.and_true] at hway
    exact .inl (hway.trans hself.symm)
  | true =>
    rw [hsteps, Bool.not_true, Bool.and_false, Bool.false_and, if_neg Bool.false_ne_true,
      List.append_nil] at hway
    rw [hway]
    cases hend : endsWithSeparator path && !(names path).isEmpty with
    | false =>
      rw [hend, if_neg Bool.false_ne_true, List.append_nil] at hself
      exact .inl hself.symm
    | true =>
      rw [hend, if_pos rfl] at hself
      exact .inr ⟨by rw [relative_eq, hsteps, if_pos rfl], hself.symm⟩

/-- The way from a directory to a path, both with full paths, leads back to the full path of the
path when it is read from the full path of the directory, up to a slash at the end. -/
theorem makeRelative_inverted {current base path way : List Char}
    (hcurrent : isRooted current = true) (h : makeRelative current base path = .ok way) :
    ∃ fullBase fullPath, full current none base = .ok fullBase ∧
      full current none path = .ok fullPath ∧
      (normalize (combine fullBase way) = fullPath ∨
        way = ['.'] ∧ normalize (combine fullBase way) ++ ['/'] = fullPath) := by
  obtain ⟨fullBase, hbase, h⟩ := Except.bind_eq_ok.1 h
  obtain ⟨fullPath, hpath, h⟩ := Except.bind_eq_ok.1 h
  have hbaseroot := isRooted_full hcurrent hbase
  have hpathroot := isRooted_full hcurrent hpath
  have hsame : (root fullBase == root fullPath) = true := by
    rw [root, root, if_pos hbaseroot, if_pos hpathroot]
    rfl
  obtain rfl : relative fullBase fullPath = way := by
    simpa [hsame] using Except.ok.inj h
  exact ⟨fullBase, fullPath, hbase, hpath, normalize_combine_relative (isCanonical_full hbase)
    hbaseroot (isCanonical_full hpath) hpathroot⟩

/-- A directory with a separator at its end, and a path beside it that is written with a detour. -/
theorem makeRelative_inverted_of_sibling :
    isRooted "/w".toList = true ∧
      makeRelative "/w".toList "a/b/".toList "/w\\a//c/../d/".toList = .ok "../d/".toList ∧
      ∃ fullBase fullPath, full "/w".toList none "a/b/".toList = .ok fullBase ∧
        full "/w".toList none "/w\\a//c/../d/".toList = .ok fullPath ∧
        (normalize (combine fullBase "../d/".toList) = fullPath ∨
          "../d/".toList = ['.'] ∧
            normalize (combine fullBase "../d/".toList) ++ ['/'] = fullPath) := by
  have hrooted : isRooted "/w".toList = true := by decide +kernel
  have hway : makeRelative "/w".toList "a/b/".toList "/w\\a//c/../d/".toList =
      .ok "../d/".toList := by
    decide +kernel
  exact ⟨hrooted, hway, makeRelative_inverted hrooted hway⟩

end Path

end BuildExpr
