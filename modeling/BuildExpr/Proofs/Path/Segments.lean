import BuildExpr.Path.Basic
import BuildExpr.Proofs.Except
import BuildExpr.Proofs.Source.Closing
import BuildExpr.Proofs.Text.Pieces

/-!
# The last segment of a path

A path is its directory part and its last segment (`directoryPart_append_fileName`), and a segment
that does not end with a point is its stem and its extension (`stem_append_extension`). Reading a
path from a directory and resolving its segments keep such a last segment, whatever `.`, `..` and
doubled separators stand before it (`fileName_combine`, `fileName_normalize`), so a full path ends
as the path that it is made from (`fileName_full`).
-/

namespace BuildExpr

namespace Chars

/-! ## Cutting at the last occurrence of a character -/

/-- A text is cut at an occurrence when there is no other behind it. -/
theorem cutLast?_append {sep : Char} {after : List Char} (h : sep ∉ after) (before : List Char) :
    cutLast? sep (before ++ sep :: after) = some (before, after) := by
  have hcut := cut?_append_of_not_mem (show sep ∉ after.reverse by simpa using h) before.reverse
  rw [cutLast?, List.reverse_append, List.reverse_cons, List.append_assoc, List.singleton_append,
    hcut]
  simp

theorem cutLast?_of_not_mem {sep : Char} {cs : List Char} (h : sep ∉ cs) :
    cutLast? sep cs = none := by
  rw [cutLast?, cut?_eq_none.2 (by simpa using h), Option.map_none]

/-- A text without a character, or the parts around its last occurrence. -/
theorem not_mem_or_exists_last (sep : Char) (cs : List Char) :
    sep ∉ cs ∨ ∃ before after, cs = before ++ sep :: after ∧ sep ∉ after := by
  cases h : cut? sep cs.reverse with
  | none => exact .inl (by simpa using cut?_eq_none.1 h)
  | some parts =>
    obtain ⟨after, before⟩ := parts
    refine .inr ⟨before.reverse, after.reverse, ?_, by simpa using not_mem_of_cut?_eq_some h⟩
    rw [← List.reverse_reverse cs, eq_of_cut?_eq_some h]
    simp

end Chars

namespace Path

/-! ## Separators -/

/-- A text without separators. -/
def Bare (cs : List Char) : Prop := ∀ c ∈ cs, isSeparator c = false

theorem bare_nil : Bare [] := by simp [Bare]

theorem Bare.not_mem {cs : List Char} (h : Bare cs) : '/' ∉ cs := fun hc => by cases h _ hc

theorem Bare.backslash_not_mem {cs : List Char} (h : Bare cs) : '\\' ∉ cs :=
  fun hc => by cases h _ hc

theorem bare_of_not_mem {cs : List Char} (h : '/' ∉ cs) (h' : '\\' ∉ cs) : Bare cs := by
  intro c hc
  simp only [isSeparator, Bool.or_eq_false_iff, beq_eq_false_iff_ne]
  exact ⟨fun e => h (e ▸ hc), fun e => h' (e ▸ hc)⟩

@[simp] theorem slashed_append (p q : List Char) : slashed (p ++ q) = slashed p ++ slashed q :=
  List.map_append

@[simp] theorem slashed_slash_cons (p : List Char) : slashed ('/' :: p) = '/' :: slashed p := rfl

theorem slashed_eq_self {p : List Char} (h : '\\' ∉ p) : slashed p = p := by
  refine (List.map_congr_left fun c hc => ?_).trans (List.map_id p)
  exact if_neg (by simpa using fun e : c = '\\' => h (e ▸ hc))

theorem backslash_not_mem_slashed (p : List Char) : '\\' ∉ slashed p := by
  rw [slashed, List.mem_map]
  rintro ⟨c, -, hc⟩
  split at hc
  · cases hc
  · rename_i hne
    exact hne (by simp [hc])

@[simp] theorem slashed_slashed (p : List Char) : slashed (slashed p) = slashed p :=
  slashed_eq_self (backslash_not_mem_slashed p)

/-- A path that starts with a separator is its root and the rest of it. -/
theorem root_append_drop (p : List Char) :
    root (slashed p) ++ (slashed p).drop (root (slashed p)).length = slashed p := by
  rw [root]
  split
  · rename_i hrooted
    cases hp : slashed p with
    | nil => rw [hp] at hrooted; cases hrooted
    | cons c rest =>
      rw [hp] at hrooted
      have hc : c ≠ '\\' := by
        rintro rfl
        exact backslash_not_mem_slashed p (hp ▸ List.mem_cons_self)
      obtain rfl : c = '/' := by simpa [isRooted, isSeparator, hc] using hrooted
      rfl
  · rfl

theorem root_eq (p : List Char) : root p = [] ∨ root p = ['/'] := by
  rw [root]
  split
  · exact .inr rfl
  · exact .inl rfl

/-! ## The ends of a path -/

/-- Writing a separator as a slash leaves it a separator. -/
theorem isSeparator_slashed (c : Char) :
    isSeparator (if c == '\\' then '/' else c) = isSeparator c := by
  split
  · rename_i hc
    rw [beq_iff_eq.1 hc]
    rfl
  · rfl

@[simp] theorem isRooted_slashed (p : List Char) : isRooted (slashed p) = isRooted p := by
  cases p with
  | nil => rfl
  | cons c p => exact isSeparator_slashed c

@[simp] theorem root_slashed (p : List Char) : root (slashed p) = root p := by
  rw [root, root, isRooted_slashed]

@[simp] theorem endsWithSeparator_slashed (p : List Char) :
    endsWithSeparator (slashed p) = endsWithSeparator p := by
  rw [endsWithSeparator, endsWithSeparator, slashed, List.getLast?_map]
  cases p.getLast? with
  | none => rfl
  | some c => exact isSeparator_slashed c

/-- A rooted path with slashes begins with one. -/
theorem exists_slash_cons {p : List Char} (h : isRooted p = true) :
    ∃ rest, slashed p = '/' :: rest := by
  have hself := root_append_drop p
  rw [root_slashed, root, if_pos h] at hself
  exact ⟨_, hself.symm⟩

theorem isRooted_append {p : List Char} (hp : p ≠ []) (q : List Char) :
    isRooted (p ++ q) = isRooted p := by
  cases p with
  | nil => exact absurd rfl hp
  | cons c p => rfl

theorem endsWithSeparator_append (p : List Char) {q : List Char} (hq : q ≠ []) :
    endsWithSeparator (p ++ q) = endsWithSeparator q := by
  rw [endsWithSeparator, endsWithSeparator, List.getLast?_append]
  cases h : q.getLast? with
  | none => exact absurd (List.getLast?_eq_none_iff.1 h) hq
  | some c => rfl

theorem Bare.isRooted {name : List Char} (h : Bare name) : Path.isRooted name = false := by
  cases name with
  | nil => rfl
  | cons c name => exact h c List.mem_cons_self

/-! ## The directory part and the last segment -/

theorem fileName_slashed (p : List Char) : fileName (slashed p) = fileName p := by
  rw [fileName, fileName, slashed_slashed]

theorem fileName_of_bare {name : List Char} (h : Bare name) : fileName name = name := by
  rw [fileName, slashed_eq_self h.backslash_not_mem, Chars.cutLast?_of_not_mem h.not_mem]

/-- The last segment is what stands behind the last separator. -/
theorem fileName_append_bare (p : List Char) {name : List Char} (h : Bare name) :
    fileName (p ++ '/' :: name) = name := by
  rw [fileName, slashed_append, slashed_slash_cons, slashed_eq_self h.backslash_not_mem,
    Chars.cutLast?_append h.not_mem]

theorem directoryPart_of_bare {name : List Char} (h : Bare name) : directoryPart name = [] := by
  rw [directoryPart, slashed_eq_self h.backslash_not_mem, Chars.cutLast?_of_not_mem h.not_mem]

theorem directoryPart_append_bare (p : List Char) {name : List Char} (h : Bare name) :
    directoryPart (p ++ '/' :: name) = slashed p ++ ['/'] := by
  rw [directoryPart, slashed_append, slashed_slash_cons, slashed_eq_self h.backslash_not_mem,
    Chars.cutLast?_append h.not_mem]

/-- A path is one segment, or a directory and the last segment. -/
theorem slashed_cases (p : List Char) :
    Bare (fileName p) ∧ (slashed p = fileName p ∨ ∃ d, slashed p = d ++ '/' :: fileName p) := by
  rcases Chars.not_mem_or_exists_last '/' (slashed p) with h | ⟨d, name, hp, hname⟩
  · have hbare := bare_of_not_mem h (backslash_not_mem_slashed p)
    have hself : fileName p = slashed p := by rw [← fileName_slashed, fileName_of_bare hbare]
    rw [hself]
    exact ⟨hbare, .inl rfl⟩
  · have hbare : Bare name := by
      refine bare_of_not_mem hname fun hc => backslash_not_mem_slashed p ?_
      rw [hp]
      simp [hc]
    have hself : fileName p = name := by
      rw [← fileName_slashed, hp, fileName_append_bare d hbare]
    rw [hself]
    exact ⟨hbare, .inr ⟨d, hp⟩⟩

theorem bare_fileName (p : List Char) : Bare (fileName p) := (slashed_cases p).1

theorem directoryPart_slashed (p : List Char) : directoryPart (slashed p) = directoryPart p := by
  rw [directoryPart, directoryPart, slashed_slashed]

/-- A path is its directory part and its last segment. -/
theorem directoryPart_append_fileName (p : List Char) :
    directoryPart p ++ fileName p = slashed p := by
  obtain ⟨hbare, h | ⟨d, h⟩⟩ := slashed_cases p
  · rw [← directoryPart_slashed, h, directoryPart_of_bare hbare, List.nil_append]
  · have hd : slashed d = d := by
      refine slashed_eq_self fun hc => backslash_not_mem_slashed p ?_
      rw [h]
      simp [hc]
    rw [← directoryPart_slashed, h, directoryPart_append_bare d hbare, hd, List.append_assoc,
      List.singleton_append]

/-- What stands before a separator does not matter for the last segment. -/
theorem fileName_append_slash (d p : List Char) : fileName (d ++ '/' :: p) = fileName p := by
  rw [← fileName_slashed, slashed_append, slashed_slash_cons]
  obtain ⟨hbare, h | ⟨e, h⟩⟩ := slashed_cases p
  · rw [h, fileName_append_bare _ hbare]
  · rw [h, ← List.cons_append, ← List.append_assoc, fileName_append_bare _ hbare]

/-- The segments of a path end with its last segment. -/
theorem exists_splitOn_fileName (p : List Char) :
    ∃ pieces, Chars.splitOn '/' (slashed p) = pieces ++ [fileName p] := by
  obtain ⟨hbare, h | ⟨d, h⟩⟩ := slashed_cases p
  · exact ⟨[], by rw [h, Chars.splitOn_of_not_mem hbare.not_mem, List.nil_append]⟩
  · exact ⟨Chars.splitOn '/' d, by
      rw [h, Chars.splitOn_append, Chars.splitOn_of_not_mem hbare.not_mem]⟩

/-- A path without a last segment is empty or ends with a separator. -/
theorem endsWithSeparator_of_fileName {p : List Char} (h : fileName p = []) (hp : p ≠ []) :
    endsWithSeparator (slashed p) = true := by
  obtain ⟨-, hself | ⟨d, hself⟩⟩ := slashed_cases p
  · rw [h, slashed, List.map_eq_nil_iff] at hself
    exact absurd hself hp
  · rw [hself, h, endsWithSeparator]
    simp [isSeparator]

/-- A path that ends with a separator has no last segment. -/
theorem fileName_of_endsWithSeparator {p : List Char} (h : endsWithSeparator p = true) :
    fileName p = [] := by
  rw [endsWithSeparator] at h
  split at h
  · rename_i c hc
    obtain ⟨d, rfl⟩ := List.getLast?_eq_some_iff.1 hc
    have hslash : slashed [c] = ['/'] := by
      simp only [isSeparator, Bool.or_eq_true, beq_iff_eq] at h
      rcases h with rfl | rfl <;> rfl
    rw [← fileName_slashed, slashed_append, hslash, fileName_append_slash]
    rfl
  · cases h

/-- A path whose last segment is not empty does not end with a separator. -/
theorem endsWithSeparator_of_ne {p : List Char} (h : fileName p ≠ []) :
    endsWithSeparator p = false :=
  Bool.eq_false_iff.2 fun hp => h (fileName_of_endsWithSeparator hp)

/-- A path that ends with a separator is a directory with a slash behind it. -/
theorem exists_append_slash {p : List Char} (h : endsWithSeparator p = true) :
    ∃ d, slashed p = d ++ ['/'] := by
  have hname := fileName_of_endsWithSeparator h
  obtain ⟨-, hself | ⟨d, hself⟩⟩ := slashed_cases p
  · rw [← endsWithSeparator_slashed, hself, hname] at h
    cases h
  · exact ⟨d, by rw [hself, hname]⟩

/-! ## The stem and the extension -/

/-- A last segment that does not end with a point is its stem and its extension. -/
theorem stem_append_extension {p : List Char} (h : (fileName p).getLast? ≠ some '.') :
    stem p ++ extension p = fileName p := by
  rcases Chars.not_mem_or_exists_last '.' (fileName p) with hp | ⟨before, after, hp, hafter⟩
  · simp [stem, extension, Chars.cutLast?_of_not_mem hp]
  · have hcut := Chars.cutLast?_append hafter before
    have hne : after ≠ [] := by
      rintro rfl
      exact h (by simp [hp])
    simp [stem, extension, hp, hcut, hne]

/-! ## Reading from a directory -/

theorem combine_nil_left (p : List Char) : combine [] p = slashed p := by
  cases p <;> rfl

theorem combine_nil_right (base : List Char) : combine base [] = slashed base := rfl

theorem combine_of_rooted (base : List Char) {p : List Char} (hp : isRooted p = true) :
    combine base p = slashed p := by
  cases p with
  | nil => cases hp
  | cons c p =>
    have hrooted : isRooted (slashed (c :: p)) = true := (isRooted_slashed _).trans hp
    simp only [combine, hrooted, Bool.or_true, if_true]
    rfl

/-- Reading a path from a directory asks whether the path is rooted. -/
theorem ite_isRooted_combine (base p : List Char) :
    (if isRooted p then slashed p else combine base p) = combine base p := by
  split
  · rename_i hp
    exact (combine_of_rooted base hp).symm
  · rfl

/-- There is one separator between a directory and a path that is read from it, which may be the
one that the directory ends with. -/
theorem exists_combine {base p : List Char} (hbase : base ≠ []) (hp : p ≠ [])
    (hrel : isRooted p = false) :
    ∃ d, combine base p = d ++ '/' :: slashed p ∧
      (slashed base = d ∨ slashed base = d ++ ['/']) := by
  have hbase' : (slashed base).isEmpty = false := by simpa [slashed] using hbase
  have hp' : (slashed p).isEmpty = false := by simpa [slashed] using hp
  simp only [combine, hbase', hp', isRooted_slashed, hrel, Bool.or_false, Bool.false_eq_true, if_false]
  split
  · rename_i hend
    obtain ⟨d, hd⟩ := exists_append_slash ((endsWithSeparator_slashed base).symm.trans hend)
    exact ⟨d, by rw [hd, List.append_assoc]; rfl, .inr hd⟩
  · exact ⟨slashed base, rfl, .inl rfl⟩

theorem isRooted_combine (base p : List Char) :
    isRooted (combine base p) = (isRooted base || isRooted p) := by
  by_cases hbase : base = []
  · rw [hbase, combine_nil_left, isRooted_slashed]
    rfl
  by_cases hp : p = []
  · rw [hp, combine_nil_right, isRooted_slashed]
    exact (Bool.or_false _).symm
  cases hrel : isRooted p with
  | true => rw [combine_of_rooted base hrel, isRooted_slashed, hrel, Bool.or_true]
  | false =>
    obtain ⟨d, hd, hbase'⟩ := exists_combine hbase hp hrel
    have hne : slashed base ≠ [] := by simpa [slashed] using hbase
    obtain ⟨q, hq⟩ : ∃ q, combine base p = slashed base ++ q := by
      rcases hbase' with h | h
      · exact ⟨_, h ▸ hd⟩
      · exact ⟨slashed p, by rw [hd, h, List.append_assoc]; rfl⟩
    rw [hq, isRooted_append hne, isRooted_slashed, Bool.or_false]

/-- Reading a path from a directory keeps its last segment. -/
theorem fileName_combine (base : List Char) {p : List Char} (hp : p ≠ []) :
    fileName (combine base p) = fileName p := by
  by_cases hbase : base = []
  · rw [hbase, combine_nil_left, fileName_slashed]
  cases hrel : isRooted p with
  | true => rw [combine_of_rooted base hrel, fileName_slashed]
  | false =>
    obtain ⟨d, hd, -⟩ := exists_combine hbase hp hrel
    rw [hd, fileName_append_slash, fileName_slashed]

/-! ## Full paths -/

/-- Resolving adds no segments. -/
theorem mem_of_mem_resolveSegment {rooted : Bool} {done : List (List Char)}
    {segment s : List Char} (h : s ∈ resolveSegment rooted done segment) :
    s ∈ segment :: done := by
  unfold resolveSegment at h
  repeat' split at h
  all_goals simp_all

theorem mem_of_mem_resolved {rooted : Bool} {done pieces : List (List Char)} {s : List Char}
    (h : s ∈ pieces.foldl (resolveSegment rooted) done) : s ∈ done ∨ s ∈ pieces := by
  induction pieces generalizing done with
  | nil => exact .inl h
  | cons piece pieces ih =>
    rcases ih h with hs | hs
    · rcases List.mem_cons.1 (mem_of_mem_resolveSegment hs) with rfl | hs
      · exact .inr List.mem_cons_self
      · exact .inl hs
    · exact .inr (List.mem_cons_of_mem piece hs)

theorem backslash_not_mem_normalize (p : List Char) : '\\' ∉ normalize p := by
  intro h
  simp only [normalize, List.mem_append] at h
  rcases h with (h | h) | h
  · rcases root_eq (slashed p) with hr | hr <;> rw [hr] at h <;> simp at h
  · rcases Chars.mem_join h with h | ⟨piece, hpiece, hc⟩
    · cases h
    · rw [resolvedSegments, List.mem_reverse] at hpiece
      rcases mem_of_mem_resolved hpiece with hpiece | hpiece
      · cases hpiece
      · exact backslash_not_mem_slashed p (List.mem_of_mem_drop (Chars.mem_of_mem_splitOn hpiece hc))
  · split at h <;> simp at h

theorem slashed_normalize (p : List Char) : slashed (normalize p) = normalize p :=
  slashed_eq_self (backslash_not_mem_normalize p)

/-- Whether a segment is a name: it is not empty, and it neither stays in its directory nor leaves
it. -/
def IsName (segment : List Char) : Prop :=
  segment ≠ [] ∧ segment ≠ ['.'] ∧ segment ≠ ['.', '.']

/-- A segment that does not end with a point is a name. -/
theorem isName_of_getLast? {segment : List Char} (hne : segment ≠ [])
    (hdot : segment.getLast? ≠ some '.') : IsName segment :=
  ⟨hne, by rintro rfl; exact hdot rfl, by rintro rfl; exact hdot rfl⟩

/-- Resolving keeps names. -/
theorem resolveSegment_isName {rooted : Bool} {done : List (List Char)} {segment : List Char}
    (h : IsName segment) : resolveSegment rooted done segment = segment :: done := by
  simp [resolveSegment, h.1, h.2.1, h.2.2]

theorem exists_resolvedSegments (rooted : Bool) {p : List Char} (hne : fileName p ≠ [])
    (hdot : (fileName p).getLast? ≠ some '.') :
    ∃ segments, resolvedSegments rooted (slashed p) = segments ++ [fileName p] := by
  obtain ⟨pieces, hpieces⟩ := exists_splitOn_fileName p
  refine ⟨(pieces.foldl (resolveSegment rooted) []).reverse, ?_⟩
  rw [resolvedSegments, hpieces, List.foldl_append, List.foldl_cons, List.foldl_nil,
    resolveSegment_isName (isName_of_getLast? hne hdot), List.reverse_cons]

theorem fileName_root_append (p : List Char) {name : List Char} (h : Bare name) :
    fileName (root p ++ name) = name := by
  rcases root_eq p with hr | hr <;> rw [hr]
  · exact fileName_of_bare h
  · exact fileName_append_bare [] h

/-- Resolving the segments of a path keeps its last segment, unless that ends with a point. -/
theorem fileName_normalize {p : List Char} (h : (fileName p).getLast? ≠ some '.') :
    fileName (normalize p) = fileName p := by
  obtain ⟨body, hbody⟩ : ∃ body, (slashed p).drop (root (slashed p)).length = body := ⟨_, rfl⟩
  have hp : root (slashed p) ++ body = slashed p := hbody ▸ root_append_drop p
  have hslashed : slashed body = body :=
    slashed_eq_self fun hc => backslash_not_mem_slashed p (hp ▸ List.mem_append_right _ hc)
  have hname : fileName p = fileName body := by
    rw [← fileName_slashed p, ← hp]
    rcases root_eq (slashed p) with hr | hr <;> rw [hr]
    · rfl
    · exact fileName_append_slash [] body
  rw [hname] at h ⊢
  simp only [normalize, hbody]
  by_cases hempty : fileName body = []
  · rw [hempty]
    by_cases hnone : resolvedSegments (isRooted (slashed p)) body = []
    · rw [hnone]
      simpa [Chars.join] using fileName_root_append (slashed p) bare_nil
    · -- segments are left, so the body is not empty and its separator at the end is kept
      have hne : body ≠ [] := by rintro rfl; exact hnone rfl
      have hend := endsWithSeparator_of_fileName hempty hne
      rw [hslashed] at hend
      rw [if_pos (by simpa [hend] using hnone)]
      exact fileName_append_slash _ []
  · obtain ⟨segments, hsegments⟩ := exists_resolvedSegments (isRooted (slashed p)) hempty h
    rw [hslashed] at hsegments
    rw [hsegments, endsWithSeparator_of_ne hempty]
    simp only [Bool.false_and, Bool.false_eq_true, if_false, List.append_nil]
    by_cases hfirst : segments = []
    · subst hfirst
      exact fileName_root_append _ (bare_fileName body)
    · rw [Chars.join_concat _ hfirst, ← List.append_assoc, List.singleton_append,
        fileName_append_bare _ (bare_fileName body)]

/-- The directory that a path is read from in full form. -/
def fullBase (current : List Char) (base : Option (List Char)) : List Char :=
  base.elim current fun b => if isRooted b then b else combine current b

/-- A full path is made from a valid path, read from the base and resolved, and is valid too. -/
theorem full_eq_ok_iff {current p full : List Char} {base : Option (List Char)} :
    Path.full current base p = .ok full ↔
      validate p = .ok () ∧ validate full = .ok () ∧
        normalize (combine (fullBase current base) p) = full := by
  have hself : Path.full current base p = validate p >>= fun _ =>
      validate (normalize (combine (fullBase current base) p)) >>= fun _ =>
        .ok (normalize (combine (fullBase current base) p)) := by
    rw [← ite_isRooted_combine]
    cases base <;> rfl
  rw [hself, Except.bind_eq_ok]
  constructor
  · rintro ⟨⟨⟩, hvalid, h⟩
    obtain ⟨⟨⟩, hfull, hreturn⟩ := Except.bind_eq_ok.1 h
    obtain rfl := Except.ok.inj hreturn
    exact ⟨hvalid, hfull, rfl⟩
  · rintro ⟨hvalid, hfull, rfl⟩
    exact ⟨(), hvalid, Except.bind_eq_ok.2 ⟨(), hfull, rfl⟩⟩

theorem full_eq_ok {current p full : List Char} {base : Option (List Char)}
    (h : Path.full current base p = .ok full) :
    validate p = .ok () ∧ full = normalize (combine (fullBase current base) p) :=
  ⟨(full_eq_ok_iff.1 h).1, (full_eq_ok_iff.1 h).2.2.symm⟩

/-- A full path has the last segment of the path that it is made from, unless that ends with a
point, and is written with slashes. -/
theorem fileName_full {current p full : List Char} {base : Option (List Char)}
    (hfull : Path.full current base p = .ok full) (hp : p ≠ [])
    (h : (fileName p).getLast? ≠ some '.') :
    validate p = .ok () ∧ slashed full = full ∧ fileName full = fileName p := by
  obtain ⟨hvalid, hnormal⟩ := full_eq_ok hfull
  rw [hnormal]
  refine ⟨hvalid, slashed_normalize _, ?_⟩
  rw [fileName_normalize (by rwa [fileName_combine _ hp]), fileName_combine _ hp]

end Path

end BuildExpr
