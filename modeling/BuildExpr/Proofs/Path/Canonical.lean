import BuildExpr.Proofs.Path.Ancestors

/-!
# The canonical form of a path

What stands between the slashes of a path are its segments (`Path.segments`). A path is canonical
when none of them is empty or `.`, and a `..` stands only in front of all names, and nowhere in a
rooted path (`Path.IsCanonical`). Resolving keeps a stack of segments of that shape
(`Path.Kept`), so the plainest form of a path is canonical, and the canonical paths are the ones
that are their own plainest form (`Path.isCanonical_iff`). A full path is rooted besides, so it is
its own full path from everywhere (`Path.canonical_forms`).
-/

namespace BuildExpr

namespace Path

/-! ## The stack of segments -/

/-- The segments that resolving has kept, the last one first: names above a run of `..`, which is
empty in a rooted path. -/
inductive Kept (rooted : Bool) : List (List Char) → Prop
  | ups (k : ℕ) (h : rooted = true → k = 0) : Kept rooted (List.replicate k ['.', '.'])
  | name {done : List (List Char)} (h : Kept rooted done) {segment : List Char}
      (hname : IsName segment) : Kept rooted (segment :: done)

section

variable {rooted : Bool} {done : List (List Char)}

/-- A `..` takes back a name. -/
theorem resolveSegment_up_of_isName {segment : List Char} (h : IsName segment) :
    resolveSegment rooted (segment :: done) ['.', '.'] = done := by
  simp [resolveSegment, h.2.2]

/-- A `..` that finds no name stays, unless the path is rooted. -/
theorem resolveSegment_up_ups (k : ℕ) :
    resolveSegment rooted (List.replicate k ['.', '.']) ['.', '.'] =
      if rooted then List.replicate k ['.', '.'] else List.replicate (k + 1) ['.', '.'] := by
  cases k <;> simp [resolveSegment, List.replicate_succ]

namespace Kept

/-- Resolving one more segment keeps the shape of the stack. -/
theorem step (h : Kept rooted done) (segment : List Char) :
    Kept rooted (resolveSegment rooted done segment) := by
  by_cases hstay : segment = [] ∨ segment = ['.']
  · have hsame : resolveSegment rooted done segment = done := by
      rcases hstay with rfl | rfl <;> rfl
    rwa [hsame]
  rw [not_or] at hstay
  by_cases hup : segment = ['.', '.']
  · subst hup
    cases h with
    | name h hname => rwa [resolveSegment_up_of_isName hname]
    | ups k hk =>
      rw [resolveSegment_up_ups]
      split
      · exact .ups k hk
      · rename_i hrel
        exact .ups (k + 1) fun hrooted => absurd hrooted hrel
  · have hname : IsName segment := ⟨hstay.1, hstay.2, hup⟩
    rw [resolveSegment_isName hname]
    exact .name h hname

theorem run (h : Kept rooted done) (segments : List (List Char)) :
    Kept rooted (segments.foldl (resolveSegment rooted) done) := by
  induction segments generalizing done with
  | nil => exact h
  | cons segment segments ih => exact ih (h.step segment)

/-- Resolving what has been kept changes nothing. -/
theorem foldl_reverse (h : Kept rooted done) :
    done.reverse.foldl (resolveSegment rooted) [] = done := by
  induction h with
  | name h hname ih =>
    rw [List.reverse_cons, List.foldl_append, ih, List.foldl_cons, List.foldl_nil,
      resolveSegment_isName hname]
  | ups k hk =>
    rw [List.reverse_replicate]
    induction k with
    | zero => rfl
    | succ k ih =>
      have hrel : ¬ rooted = true := fun h => absurd (hk h) (Nat.succ_ne_zero k)
      rw [List.replicate_succ', List.foldl_append, ih fun h => absurd h hrel, List.foldl_cons,
        List.foldl_nil, resolveSegment_up_ups, if_neg hrel]
      exact List.replicate_succ'

/-- The kept segments in their order: a run of `..` and then names. -/
theorem exists_ups_append (h : Kept rooted done) : ∃ k names, (rooted = true → k = 0) ∧
    done.reverse = List.replicate k ['.', '.'] ++ names ∧ ∀ name ∈ names, IsName name := by
  induction h with
  | ups k hk => exact ⟨k, [], hk, by rw [List.reverse_replicate, List.append_nil], by simp⟩
  | @name done h segment hname ih =>
    obtain ⟨k, names, hk, hdone, hnames⟩ := ih
    refine ⟨k, names ++ [segment], hk, ?_, ?_⟩
    · rw [List.reverse_cons, hdone, List.append_assoc]
    · intro name hmem
      rcases List.mem_append.1 hmem with hmem | hmem
      · exact hnames name hmem
      · rwa [List.mem_singleton.1 hmem]

theorem of_ups_append {k : ℕ} (hk : rooted = true → k = 0) {names : List (List Char)}
    (hnames : ∀ name ∈ names, IsName name) :
    Kept rooted (List.replicate k ['.', '.'] ++ names).reverse := by
  rw [List.reverse_append, List.reverse_replicate]
  induction names using List.reverseRecOn with
  | nil => exact .ups k hk
  | append_singleton names name ih =>
    rw [List.reverse_append, List.reverse_singleton, List.singleton_append, List.cons_append]
    exact .name (ih fun n hn => hnames n (by simp [hn])) (hnames name (by simp))

end Kept

end

theorem kept_resolved (p : List Char) : Kept (isRooted p) (resolved p).reverse := by
  rw [resolved, List.reverse_reverse]
  exact (Kept.ups 0 fun _ => rfl).run (names p)

/-! ## The segments of a text -/

/-- The segments of a path as it is written: what stands between the slashes behind its root, where
one slash at the end stands behind the last segment. -/
def segments (p : List Char) : List (List Char) :=
  let body := (slashed p).drop (root p).length
  if body.isEmpty then []
  else Chars.splitOn '/' (if endsWithSeparator body then body.dropLast else body)

/-- A path written with slashes is its root and its segments, with a slash at the end or not. -/
theorem eq_join_segments {p : List Char} (hp : '\\' ∉ p) :
    p = root p ++ Chars.join ['/'] (segments p) ++
      if endsWithSeparator p && !(segments p).isEmpty then ['/'] else [] := by
  obtain ⟨body, hbody⟩ : ∃ body, (slashed p).drop (root p).length = body := ⟨_, rfl⟩
  have hself : root p ++ body = p := by
    rw [← hbody, ← root_slashed p, root_append_drop, slashed_eq_self hp]
  simp only [segments, hbody]
  by_cases hnone : body = []
  · subst hnone
    simpa [Chars.join] using hself.symm
  · have hsplit (cs : List Char) : (Chars.splitOn '/' cs).isEmpty = false := by
      obtain ⟨piece, pieces, hpieces⟩ := Chars.exists_splitOn '/' cs
      rw [hpieces]
      rfl
    have hend : endsWithSeparator p = endsWithSeparator body := by
      conv_lhs => rw [← hself]
      exact endsWithSeparator_append _ hnone
    rw [if_neg (by simpa using hnone), Chars.join_splitOn, hsplit, hend, Bool.not_false,
      Bool.and_true]
    split
    · rename_i hslash
      obtain ⟨stem, hstem⟩ := exists_append_slash hslash
      have hslashed : slashed body = body :=
        slashed_eq_self fun hc => hp (hself ▸ List.mem_append_right _ hc)
      rw [hslashed] at hstem
      rw [hstem, List.dropLast_concat, List.append_assoc, ← hstem, hself]
    · rw [List.append_nil, hself]

/-- Segments hold no separators. -/
theorem bare_of_mem_segments {p segment : List Char} (h : segment ∈ segments p) : Bare segment := by
  rw [segments] at h
  split at h
  · cases h
  · refine bare_of_not_mem (Chars.not_mem_of_mem_splitOn h) fun hc =>
      backslash_not_mem_slashed p (List.mem_of_mem_drop (i := (root p).length) ?_)
    have hbody := Chars.mem_of_mem_splitOn h hc
    split at hbody
    · exact List.dropLast_subset _ hbody
    · exact hbody

/-- The names in segments with slashes between them are those that are not empty. -/
theorem names_join {segments : List (List Char)} (h : ∀ segment ∈ segments, Bare segment) :
    names (Chars.join ['/'] segments) = segments.filter fun segment => !segment.isEmpty := by
  have hone {segment : List Char} (hbare : Bare segment) :
      names segment = [segment].filter fun segment => !segment.isEmpty := by
    by_cases hne : segment = []
    · subst hne
      rfl
    · rw [names_of_bare hbare hne]
      simp [hne]
  induction segments with
  | nil => rfl
  | cons segment segments ih =>
    rw [List.forall_mem_cons] at h
    by_cases hlast : segments = []
    · subst hlast
      exact hone h.1
    · rw [Chars.join_cons_of_ne_nil _ _ hlast, List.append_assoc, List.singleton_append,
        names_append_slash, ih h.2, hone h.1, ← List.filter_append, List.singleton_append]

/-- Between a root and a slash at the end, the names in a path are those of what stands there. -/
theorem names_root_append (p body : List Char) (slash : Bool) :
    names (root p ++ body ++ if slash then ['/'] else []) = names body := by
  have hend : names (body ++ if slash then ['/'] else []) = names body := by
    cases slash
    · exact congrArg names (List.append_nil body)
    · rw [if_pos rfl, names_append_slash, names_nil, List.append_nil]
  rw [List.append_assoc]
  rcases root_eq p with hr | hr <;> rw [hr]
  · exact hend
  · rw [List.singleton_append, names_slash_cons, hend]

/-- The names in a path are its segments that are not empty. -/
theorem names_eq_filter_segments {p : List Char} (hp : '\\' ∉ p) :
    names p = (segments p).filter fun segment => !segment.isEmpty := by
  conv_lhs => rw [eq_join_segments hp]
  rw [names_root_append, names_join fun segment => bare_of_mem_segments]

/-! ## The plainest form -/

theorem endsWithSeparator_join {names : List (List Char)} (h : Named names) :
    endsWithSeparator (Chars.join ['/'] names) = false := by
  rcases List.eq_nil_or_concat names with rfl | ⟨init, name, rfl⟩
  · rfl
  · rw [List.concat_eq_append] at h ⊢
    obtain ⟨hne, hbare⟩ := h name (by simp)
    have hend : endsWithSeparator name = false :=
      endsWithSeparator_of_ne (by rwa [fileName_of_bare hbare])
    by_cases hinit : init = []
    · subst hinit
      exact hend
    · rw [Chars.join_concat _ hinit, ← List.append_assoc, endsWithSeparator_append _ hne, hend]

theorem isRooted_join_append {names : List (List Char)} (h : Named names) (hne : names ≠ [])
    (rest : List Char) : isRooted (Chars.join ['/'] names ++ rest) = false := by
  obtain ⟨name, more, rfl⟩ := List.exists_cons_of_ne_nil hne
  obtain ⟨hname, hbare⟩ := h name List.mem_cons_self
  by_cases hmore : more = []
  · subst hmore
    exact (isRooted_append hname rest).trans hbare.isRooted
  · rw [Chars.join_cons_of_ne_nil _ _ hmore, List.append_assoc, List.append_assoc,
      isRooted_append hname, hbare.isRooted]

/-- The plainest form of a path is rooted as the path is. -/
@[simp] theorem isRooted_normalize (p : List Char) : isRooted (normalize p) = isRooted p := by
  rw [normalize_eq, root]
  split
  · rename_i hrooted
    exact hrooted.symm
  · rename_i hrel
    rw [List.nil_append, Bool.eq_false_iff.2 hrel]
    by_cases hnone : resolved p = []
    · simp [hnone, Chars.join, isRooted]
    · exact isRooted_join_append (named_resolved p) hnone _

/-- The segments of the plainest form of a path are those that resolving keeps. -/
theorem segments_normalize (p : List Char) : segments (normalize p) = resolved p := by
  have hroot : root (normalize p) = root p := by rw [root, root, isRooted_normalize]
  have hnamed := named_resolved p
  rw [segments, hroot, slashed_normalize, normalize_eq, List.append_assoc, List.drop_left]
  by_cases hnone : resolved p = []
  · simp [hnone, Chars.join]
  · have hsplit : Chars.splitOn '/' (Chars.join ['/'] (resolved p)) = resolved p :=
      Chars.splitOn_join hnone fun name hname => (hnamed name hname).2.not_mem
    have hbody : Chars.join ['/'] (resolved p) ≠ [] := by
      intro h
      rw [h] at hsplit
      exact (hnamed [] (hsplit ▸ List.mem_singleton_self [])).1 rfl
    have hsome : (resolved p).isEmpty = false := by simpa using hnone
    rw [hsome, Bool.not_false, Bool.and_true]
    cases endsWithSeparator p with
    | true =>
      have hend : endsWithSeparator (Chars.join ['/'] (resolved p) ++ ['/']) = true :=
        endsWithSeparator_append _ (by simp)
      simp [hend, hsplit]
    | false => simp [endsWithSeparator_join hnamed, hbody, hsplit]

/-- Whether a path is in canonical form: written with slashes, without segments that are empty or
`.`, and with `..` only in front of all names and never behind a root. -/
structure IsCanonical (p : List Char) : Prop where
  backslash_not_mem : '\\' ∉ p
  nil_not_mem : [] ∉ segments p
  dot_not_mem : ['.'] ∉ segments p
  ups_first : ∃ k names, segments p = List.replicate k ['.', '.'] ++ names ∧ ['.', '.'] ∉ names
  up_not_mem : isRooted p = true → ['.', '.'] ∉ segments p

theorem isCanonical_normalize (p : List Char) : IsCanonical (normalize p) := by
  obtain ⟨k, names, hk, hsegments, hnames⟩ := (kept_resolved p).exists_ups_append
  rw [List.reverse_reverse, ← segments_normalize] at hsegments
  have hup : ['.', '.'] ∉ names := fun h => (hnames _ h).2.2 rfl
  refine ⟨backslash_not_mem_normalize p, ?_, ?_, ⟨k, names, hsegments, hup⟩, fun hrooted => ?_⟩
  · rw [segments_normalize]
    exact fun h => (named_resolved p [] h).1 rfl
  · rw [hsegments, List.mem_append, not_or]
    exact ⟨fun h => by simpa using List.eq_of_mem_replicate h, fun h => (hnames _ h).2.1 rfl⟩
  · rw [isRooted_normalize] at hrooted
    rwa [hsegments, hk hrooted, List.replicate_zero, List.nil_append]

namespace IsCanonical

variable {p : List Char} (h : IsCanonical p)

include h

theorem names_eq : names p = segments p := by
  rw [names_eq_filter_segments h.backslash_not_mem, List.filter_eq_self]
  intro segment hsegment
  have hne : segment ≠ [] := fun he => h.nil_not_mem (he ▸ hsegment)
  simpa using hne

theorem isName_of_mem {segment : List Char} (hsegment : segment ∈ segments p)
    (hup : segment ≠ ['.', '.']) : IsName segment :=
  ⟨fun he => h.nil_not_mem (he ▸ hsegment), fun he => h.dot_not_mem (he ▸ hsegment), hup⟩

theorem isName_of_rooted (hrooted : isRooted p = true) : ∀ segment ∈ segments p, IsName segment :=
  fun _ hsegment => h.isName_of_mem hsegment fun he => h.up_not_mem hrooted (he ▸ hsegment)

theorem kept : Kept (isRooted p) (segments p).reverse := by
  obtain ⟨k, names, hsegments, hup⟩ := h.ups_first
  rw [hsegments]
  refine .of_ups_append (fun hrooted => ?_) fun name hname => ?_
  · by_contra hk
    refine h.up_not_mem hrooted ?_
    rw [hsegments, List.mem_append, List.mem_replicate]
    exact .inl ⟨hk, rfl⟩
  · exact h.isName_of_mem (hsegments ▸ List.mem_append_right _ hname) fun he => hup (he ▸ hname)

end IsCanonical

/-- The canonical paths are the ones that are their own plainest form. -/
theorem isCanonical_iff {p : List Char} : IsCanonical p ↔ normalize p = p := by
  refine ⟨fun h => ?_, fun h => h ▸ isCanonical_normalize p⟩
  have hresolved : resolved p = segments p := by
    rw [resolved, h.names_eq, ← List.reverse_reverse (segments p), h.kept.foldl_reverse]
  rw [normalize_eq, hresolved]
  exact (eq_join_segments h.backslash_not_mem).symm

/-! ## Full paths -/

section

variable {current p full : List Char} {base : Option (List Char)}

theorem isCanonical_full (h : Path.full current base p = .ok full) : IsCanonical full := by
  rw [← (full_eq_ok_iff.1 h).2.2]
  exact isCanonical_normalize _

theorem isFull_of_isRooted (h : Path.full current base p = .ok full)
    (hrooted : isRooted full = true) : IsFull full := by
  obtain ⟨-, -, rfl⟩ := full_eq_ok_iff.1 h
  exact isFull_normalize ((isRooted_normalize _).symm.trans hrooted)

/-- A path that is rooted, canonical and valid is its own full path, wherever it is read from. -/
theorem full_eq_self (h : IsCanonical p) (hrooted : isRooted p = true)
    (hvalid : validate p = .ok ()) (current : List Char) (base : Option (List Char)) :
    Path.full current base p = .ok p := by
  refine full_eq_ok_iff.2 ⟨hvalid, hvalid, ?_⟩
  rw [combine_of_rooted _ hrooted, slashed_eq_self h.backslash_not_mem, isCanonical_iff.1 h]

theorem isRooted_full (hcurrent : isRooted current = true)
    (h : Path.full current base p = .ok full) : isRooted full = true := by
  rw [(full_eq_ok h).2, isRooted_normalize, isRooted_combine, isRooted_fullBase hcurrent,
    Bool.true_or]

end

/-- The plainest form of a path is its own plainest form and is canonical, with no `..` if the path
is rooted. A full path is a slash with names behind it, and its own full path from everywhere. -/
theorem canonical_forms (p : List Char) :
    normalize (normalize p) = normalize p ∧ IsCanonical (normalize p) ∧
      (isRooted p = true → ['.', '.'] ∉ segments (normalize p)) ∧
      ∀ current base full, isRooted current = true → Path.full current base p = .ok full →
        (∃ rest, full = '/' :: rest) ∧ (∀ segment ∈ segments full, IsName segment) ∧
          ∀ current' base', Path.full current' base' full = .ok full := by
  have hcanonical := isCanonical_normalize p
  refine ⟨isCanonical_iff.1 hcanonical, hcanonical, fun hrooted => ?_, ?_⟩
  · exact hcanonical.up_not_mem (by rwa [isRooted_normalize])
  · intro current base full hcurrent hfull
    have hfullform := isCanonical_full hfull
    have hvalid := (full_eq_ok_iff.1 hfull).2.1
    have hrooted := isRooted_full hcurrent hfull
    obtain ⟨rest, hrest⟩ := exists_slash_cons hrooted
    rw [slashed_eq_self hfullform.backslash_not_mem] at hrest
    exact ⟨⟨rest, hrest⟩, hfullform.isName_of_rooted hrooted,
      full_eq_self hfullform hrooted hvalid⟩

/-- A path with all that resolving takes out, by itself and read from a directory. -/
theorem canonical_forms_of_detour :
    normalize "a/.//..\\../b/".toList = "../b/".toList ∧
      IsCanonical "../b/".toList ∧
      Path.full "/w".toList (some "c".toList) "a/.//..\\../b/".toList = .ok "/w/b/".toList ∧
      segments "/w/b/".toList = ["w".toList, "b".toList] ∧
      (∀ segment ∈ segments "/w/b/".toList, IsName segment) ∧
      Path.full [] none "/w/b/".toList = .ok "/w/b/".toList := by
  have hnormal : normalize "a/.//..\\../b/".toList = "../b/".toList := by decide +kernel
  have hfull : Path.full "/w".toList (some "c".toList) "a/.//..\\../b/".toList =
      .ok "/w/b/".toList := by
    decide +kernel
  obtain ⟨-, hcanonical, -, h⟩ := canonical_forms "a/.//..\\../b/".toList
  obtain ⟨-, hnames, hself⟩ := h "/w".toList (some "c".toList) _ (by decide +kernel) hfull
  exact ⟨hnormal, hnormal ▸ hcanonical, hfull, by decide +kernel, hnames, hself [] none⟩

end Path

end BuildExpr
