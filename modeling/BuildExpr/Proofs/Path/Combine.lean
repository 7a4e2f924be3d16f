import BuildExpr.Functions.Paths
import BuildExpr.Proofs.Path.Segments
import Mathlib.Data.String.Basic

/-!
# Combined paths

Reading a path from a directory is associative (`Path.combine_assoc`), and the empty path is neutral
for it, up to the writing of separators. So neighbouring arguments of the functions that combine
paths in turn may be replaced by what they are combined to. The function `Combine` also checks each
argument, but not what it gives, so that a combined path is taken as an argument only while it is
not too long (`PathFunctions.combine_grouped`).
-/

namespace BuildExpr

theorem Chars.byteLength_replicate (n : ℕ) (c : Char) :
    byteLength (List.replicate n c) = n * c.utf8Size := by
  induction n with
  | zero => simp
  | succ n ih => rw [List.replicate_succ, byteLength_cons, ih, Nat.succ_mul, Nat.add_comm]

namespace Path

/-- Only the length of a path without zero characters matters for whether it is valid. -/
theorem validate_of_not_mem {p : List Char} (hnul : '\x00' ∉ p) :
    validate p = if pathLimit ≤ Chars.byteLength p then .error .longPath else .ok () :=
  if_neg (by simpa using hnul)

/-! ## Reading from a directory twice -/

theorem withTrailingSlash_eq (p : List Char) :
    withTrailingSlash p = slashed p ++ if p.isEmpty || endsWithSeparator p then [] else ['/'] := by
  have hempty : (slashed p).isEmpty = p.isEmpty := by cases p <;> rfl
  simp only [withTrailingSlash, hempty, endsWithSeparator_slashed]
  split
  · rw [List.append_nil]
  · rfl

@[simp] theorem slashed_withTrailingSlash (p : List Char) :
    slashed (withTrailingSlash p) = withTrailingSlash p := by
  rw [withTrailingSlash_eq, slashed_append, slashed_slashed]
  split <;> rfl

/-- Only the end of a path decides on the separator behind it. -/
theorem withTrailingSlash_append (p : List Char) {q : List Char} (hq : q ≠ []) :
    withTrailingSlash (p ++ q) = slashed p ++ withTrailingSlash q := by
  have hpq : (p ++ q).isEmpty = false := by simp [hq]
  have hqe : q.isEmpty = false := by simpa using hq
  rw [withTrailingSlash_eq, withTrailingSlash_eq, hpq, hqe, endsWithSeparator_append p hq,
    slashed_append, List.append_assoc]

/-- A path that is not rooted is read behind a separator. -/
theorem combine_of_relative (base : List Char) {p : List Char} (hp : p ≠ [])
    (hrel : isRooted p = false) : combine base p = withTrailingSlash base ++ slashed p := by
  have hp' : (slashed p).isEmpty = false := by simpa [slashed] using hp
  rw [withTrailingSlash_eq]
  cases base with
  | nil => exact combine_nil_left p
  | cons c base =>
    have hbase : (slashed (c :: base)).isEmpty = false := rfl
    simp only [combine, hp', hbase, isRooted_slashed, hrel, endsWithSeparator_slashed,
      Bool.or_false, Bool.false_eq_true, if_false, List.isEmpty_cons, Bool.false_or]
    split
    · rw [List.append_nil]
    · rw [List.append_assoc]
      rfl

theorem combine_of_bare {a b : List Char} (ha : Bare a) (hane : a ≠ []) (hb : Bare b)
    (hbne : b ≠ []) : combine a b = a ++ '/' :: b := by
  have hend : endsWithSeparator a = false := endsWithSeparator_of_ne (by rwa [fileName_of_bare ha])
  rw [combine_of_relative a hbne hb.isRooted, withTrailingSlash_eq, hend,
    slashed_eq_self ha.backslash_not_mem, slashed_eq_self hb.backslash_not_mem]
  simp [hane]

@[simp] theorem combine_slashed_left (base p : List Char) :
    combine (slashed base) p = combine base p := by
  simp only [combine, slashed_slashed]

@[simp] theorem combine_slashed_right (base p : List Char) :
    combine base (slashed p) = combine base p := by
  simp only [combine, slashed_slashed]

@[simp] theorem slashed_combine (base p : List Char) :
    slashed (combine base p) = combine base p := by
  by_cases hp : p = []
  · rw [hp, combine_nil_right, slashed_slashed]
  cases hrel : isRooted p with
  | true => rw [combine_of_rooted base hrel, slashed_slashed]
  | false =>
    rw [combine_of_relative base hp hrel, slashed_append, slashed_slashed,
      slashed_withTrailingSlash]

theorem combine_assoc (a b c : List Char) : combine (combine a b) c = combine a (combine b c) := by
  by_cases hc : c = []
  · rw [hc, combine_nil_right, combine_nil_right, slashed_combine, combine_slashed_right]
  cases hcrel : isRooted c with
  | true =>
    rw [combine_of_rooted _ hcrel, combine_of_rooted _ hcrel, combine_slashed_right,
      combine_of_rooted _ hcrel]
  | false =>
    by_cases hb : b = []
    · rw [hb, combine_nil_right, combine_nil_left, combine_slashed_left, combine_slashed_right]
    cases hbrel : isRooted b with
    | true =>
      have hbc : isRooted (combine b c) = true := by rw [isRooted_combine, hbrel, Bool.true_or]
      rw [combine_of_rooted a hbrel, combine_slashed_left, combine_of_rooted a hbc, slashed_combine]
    | false =>
      -- both paths stand behind a separator, and the one behind `b` depends on the end of `b` only
      have hbc : isRooted (combine b c) = false := by rw [isRooted_combine, hbrel, hcrel]; rfl
      have hb' : slashed b ≠ [] := by simpa [slashed] using hb
      have hbc' : combine b c ≠ [] := by
        rw [combine_of_relative b hc hcrel]
        exact List.append_ne_nil_of_right_ne_nil _ (by simpa [slashed] using hc)
      have hslash : withTrailingSlash (slashed b) = withTrailingSlash b := by
        simp only [withTrailingSlash, slashed_slashed]
      rw [combine_of_relative _ hc hcrel, combine_of_relative a hb hbrel,
        withTrailingSlash_append _ hb', hslash, slashed_withTrailingSlash,
        combine_of_relative a hbc' hbc, slashed_combine, combine_of_relative b hc hcrel,
        List.append_assoc]

end Path

namespace PathFunctions

open Arguments

/-! ## Arguments combined in turn -/

/-- The paths of arguments, read in turn from a directory. -/
def combinedFrom (p : List Char) (args : List Value) : List Char :=
  args.foldl (fun p v => Path.combine p v.display.toList) p

/-- The arguments combined to one. -/
def combinedValue (args : List Value) : Value := .text (String.ofList (combinedFrom [] args))

/-- Arguments may be combined before they are read from a directory. -/
theorem combinedFrom_combine (p q : List Char) (args : List Value) :
    combinedFrom (Path.combine p q) args = Path.combine p (combinedFrom q args) :=
  List.foldl_hom (Path.combine p) fun _ _ => Path.combine_assoc _ _ _

theorem slashed_combinedFrom {p : List Char} (hp : Path.slashed p = p) (args : List Value) :
    Path.slashed (combinedFrom p args) = combinedFrom p args := by
  induction args generalizing p with
  | nil => exact hp
  | cons v args ih => exact ih (Path.slashed_combine p v.display.toList)

theorem combinedFrom_append (p : List Char) (args more : List Value) :
    combinedFrom p (args ++ more) = combinedFrom (combinedFrom p args) more :=
  List.foldl_append

/-- Neighbouring arguments may be replaced by what they are combined to. -/
theorem combinedFrom_group (before group after : List Value) :
    combinedFrom [] (before ++ [combinedValue group] ++ after) =
      combinedFrom [] (before ++ group ++ after) := by
  have hbefore := slashed_combinedFrom (show Path.slashed [] = [] from rfl) before
  have hgroup : combinedFrom (combinedFrom [] before) [combinedValue group] =
      combinedFrom (combinedFrom [] before) group := by
    calc combinedFrom (combinedFrom [] before) [combinedValue group]
        = Path.combine (combinedFrom [] before) (combinedFrom [] group) := by
          simp [combinedFrom, combinedValue, Value.display]
      _ = combinedFrom (Path.combine (combinedFrom [] before) []) group :=
          (combinedFrom_combine _ _ _).symm
      _ = combinedFrom (combinedFrom [] before) group := by
          rw [Path.combine_nil_right, hbefore]
  rw [combinedFrom_append, combinedFrom_append, combinedFrom_append, combinedFrom_append, hgroup]

/-- What the function that combines paths asks of each argument. -/
def checkPath (v : Value) : Answer Unit :=
  if v.isNull then Answer.refuse .nullPath else Answer.of (Path.validate v.display.toList)

theorem foldlM_checkPath (p : List Char) (args : List Value) :
    (args.foldlM (fun p v => checkPath v >>= fun _ => .ok (Path.combine p v.display.toList)) p :
        Answer (List Char)) =
      forM args checkPath >>= fun _ => .ok (combinedFrom p args) := by
  induction args generalizing p with
  | nil => rfl
  | cons v args ih =>
    rw [List.foldlM_cons, List.forM_cons]
    cases checkPath v with
    | error e => rfl
    | ok u => exact ih _

/-- The function checks its arguments and combines them in turn. -/
theorem combine_eq (args : List Value) :
    combine args = forM args checkPath >>= fun _ => .ok (combinedValue args) := by
  have hargs : (List.range args.length).map (value args) = args := by
    refine List.ext_getElem (by simp) fun i _ hi => ?_
    simp [value, List.getD_eq_getElem?_getD, hi]
  have hstep : (fun p i => do
      if (value args i).isNull then Answer.refuse .nullPath
      else return Path.combine p (← path args i) : List Char → ℕ → Answer (List Char)) =
        fun p i => checkPath (value args i) >>= fun _ =>
          .ok (Path.combine p (value args i).display.toList) := by
    funext p i
    rw [checkPath]
    split
    · rfl
    · show (path args i >>= fun q => pure (Path.combine p q)) = _
      rw [path, chars, text]
      cases Answer.of (Path.validate (value args i).display.toList) <;> rfl
  have hfold := foldlM_checkPath [] ((List.range args.length).map (value args))
  rw [List.foldlM_map, hargs] at hfold
  rw [combine, hstep, hfold]
  cases forM args checkPath <;> rfl

/-- The function gives the combined path exactly if all arguments are paths. -/
theorem combine_eq_ok_iff {args : List Value} {v : Value} :
    combine args = .ok v ↔ (∀ a ∈ args, checkPath a = .ok ()) ∧ combinedValue args = v := by
  rw [combine_eq, Except.bind_eq_ok, ← Except.forM_eq_ok]
  exact ⟨fun ⟨_, hargs, hv⟩ => ⟨hargs, Except.ok.inj hv⟩, fun ⟨hargs, hv⟩ => ⟨(), hargs, hv ▸ rfl⟩⟩

/-! ## Arguments in groups -/

section

variable {before group after : List Value} {g : Value}

theorem combinedValue_group (before group after : List Value) :
    combinedValue (before ++ [combinedValue group] ++ after) =
      combinedValue (before ++ group ++ after) := by
  rw [combinedValue, combinedFrom_group]
  rfl

theorem checkPath_text (s : String) :
    checkPath (.text s) = Answer.of (Path.validate s.toList) :=
  rfl

/-- A group that is combined to a valid path may be replaced by that path. -/
theorem combine_group (hg : combine group = .ok g)
    (hvalid : Path.validate g.display.toList = .ok ()) :
    combine (before ++ [g] ++ after) = combine (before ++ group ++ after) := by
  obtain ⟨hgroup, rfl⟩ := combine_eq_ok_iff.1 hg
  have hcheck : forM group checkPath = .ok () := Except.forM_eq_ok.2 hgroup
  have hself : checkPath (combinedValue group) = .ok () := by
    rw [combinedValue, checkPath_text]
    exact congrArg Answer.of hvalid
  simp only [combine_eq, combinedValue_group, List.forM_append, hcheck, List.forM_cons, hself,
    List.forM_nil]
  rfl

/-- A group that is not combined to a valid path may not be replaced by what it is combined to. -/
theorem combine_ne_ok {cause : Fault} (hrefused : Path.validate g.display.toList = .error cause)
    (v : Value) : combine (before ++ [g] ++ after) ≠ .ok v := by
  intro h
  have hself := (combine_eq_ok_iff.1 h).1 g (by simp)
  rw [checkPath, hrefused] at hself
  split at hself <;> cases hself

end

/-! ## Paths that are too long -/

/-- A name of one letter, repeated. -/
def repeated (n : ℕ) (c : Char) : Value := .text (String.ofList (List.replicate n c))

theorem checkPath_repeated {n : ℕ} (hn : n < pathLimit) :
    ∀ v ∈ [repeated n 'a', repeated n 'b'], checkPath v = .ok () := by
  have hname (c : Char) (hsize : c.utf8Size = 1) (hnul : '\x00' ≠ c) :
      checkPath (repeated n c) = .ok () := by
    rw [repeated, checkPath_text, String.toList_ofList,
      Path.validate_of_not_mem fun h => hnul (List.eq_of_mem_replicate h),
      Chars.byteLength_replicate, hsize, Nat.mul_one, if_neg (Nat.not_le.2 hn)]
    rfl
  simp [hname 'a' rfl (by decide), hname 'b' rfl (by decide)]

/-- Two names are too long together when each has half the length that a path may have. -/
theorem validate_repeated {n : ℕ} (hn : pathLimit ≤ n + n) :
    Path.validate (combinedFrom [] [repeated n 'a', repeated n 'b']) = .error .longPath := by
  have hbare (c : Char) (hc : Path.isSeparator c = false) : Path.Bare (List.replicate n c) :=
    fun _ h => List.eq_of_mem_replicate h ▸ hc
  have hne (c : Char) : List.replicate n c ≠ [] := by
    rw [Ne, List.replicate_eq_nil_iff]
    rintro rfl
    exact absurd hn (by decide)
  have hpair : combinedFrom [] [repeated n 'a', repeated n 'b'] =
      List.replicate n 'a' ++ '/' :: List.replicate n 'b' := by
    rw [← Path.combine_of_bare (hbare 'a' rfl) (hne 'a') (hbare 'b' rfl) (hne 'b')]
    simp [combinedFrom, repeated, Value.display, Path.combine_nil_left]
  have hnul : '\x00' ∉ List.replicate n 'a' ++ '/' :: List.replicate n 'b' := by
    simp [List.mem_replicate]
  have hsize : Chars.byteLength (List.replicate n 'a' ++ '/' :: List.replicate n 'b') =
      n + (1 + n) := by
    rw [Chars.byteLength_append, Chars.byteLength_cons, Chars.byteLength_replicate,
      Chars.byteLength_replicate]
    show n * 1 + (1 + n * 1) = _
    rw [Nat.mul_one]
  rw [hpair, Path.validate_of_not_mem hnul, hsize, if_pos (by omega)]

/-! ## Groups do not matter -/

/-- Combining is associative and the empty path is neutral for it, up to the writing of separators.
So neighbouring arguments may be replaced by what they are combined to, which changes nothing for
`NormalizePath` and `NormalizeDirectory`, and nothing for `Combine` if the combined path is valid;
if it is not, `Combine` refuses it as an argument. -/
theorem combine_grouped :
    (∀ a b c, Path.combine (Path.combine a b) c = Path.combine a (Path.combine b c)) ∧
      (∀ a, Path.combine [] a = Path.slashed a ∧ Path.combine a [] = Path.slashed a) ∧
      ∀ before group after,
        (∀ c, normalizePath c (before ++ [combinedValue group] ++ after) =
            normalizePath c (before ++ group ++ after) ∧
          normalizeDirectory c (before ++ [combinedValue group] ++ after) =
            normalizeDirectory c (before ++ group ++ after)) ∧
        ∀ g, combine group = .ok g → g = combinedValue group ∧
          (Path.validate g.display.toList = .ok () →
            combine (before ++ [g] ++ after) = combine (before ++ group ++ after)) ∧
          ∀ cause, Path.validate g.display.toList = .error cause →
            ∀ v, combine (before ++ [g] ++ after) ≠ .ok v := by
  refine ⟨Path.combine_assoc, fun a => ⟨Path.combine_nil_left a, Path.combine_nil_right a⟩,
    fun before group after => ⟨fun c => ?_, fun g hg => ?_⟩⟩
  · have hfull : combinedFull c (before ++ [combinedValue group] ++ after) =
        combinedFull c (before ++ group ++ after) := by
      show (if (combinedFrom [] _).all Chars.isBlank then _ else full c (combinedFrom [] _)) = _
      rw [combinedFrom_group]
      rfl
    exact ⟨by rw [normalizePath, hfull, normalizePath],
      by rw [normalizeDirectory, hfull, normalizeDirectory]⟩
  · exact ⟨(combine_eq_ok_iff.1 hg).2.symm, combine_group hg, fun _ => combine_ne_ok⟩

/-- A group that is combined to a valid path, and one whose path is too long. -/
theorem combine_grouped_of_paths :
    combine [.text "a\\", .text "b"] = .ok (.text "a/b") ∧
      Path.validate "a/b".toList = .ok () ∧
      combine ([.text "x"] ++ [.text "a/b"] ++ [.text "c"]) =
        combine ([.text "x"] ++ [.text "a\\", .text "b"] ++ [.text "c"]) ∧
      ∀ v, combine ([] ++ [combinedValue [repeated 2100 'a', repeated 2100 'b']] ++ [.text "c"]) ≠
        .ok v := by
  have hvalid : Path.validate "a/b".toList = .ok () := by decide +kernel
  have hpaths : ∀ v ∈ [Value.text "a\\", .text "b"], checkPath v = .ok () := by decide +kernel
  have hg : combine [.text "a\\", .text "b"] = .ok (.text "a/b") :=
    combine_eq_ok_iff.2 ⟨hpaths, congrArg Value.text (by decide +kernel)⟩
  obtain ⟨-, -, h⟩ := combine_grouped
  obtain ⟨-, hgroup⟩ := h [.text "x"] [.text "a\\", .text "b"] [.text "c"]
  obtain ⟨-, hrefused⟩ := h [] [repeated 2100 'a', repeated 2100 'b'] [.text "c"]
  refine ⟨hg, hvalid, (hgroup _ hg).2.1 hvalid,
    (hrefused _ (combine_eq_ok_iff.2 ⟨checkPath_repeated (by decide), rfl⟩)).2.2 .longPath ?_⟩
  rw [combinedValue, Value.display, String.toList_ofList, validate_repeated (by decide)]

/-- Two names that `Combine` takes as arguments are combined to a path that it does not take. -/
theorem exists_combine_group_refused :
    ∃ g v, combine [repeated 2100 'a', repeated 2100 'b'] = .ok g ∧
      combine ([repeated 2100 'a', repeated 2100 'b'] ++ [.text "c"]) = .ok v ∧
      combine ([g] ++ [.text "c"]) = Answer.refuse .longPath := by
  have hnames := checkPath_repeated (show 2100 < pathLimit by decide)
  have hc : ∀ v ∈ [Value.text "c"], checkPath v = .ok () := by decide +kernel
  refine ⟨_, _, combine_eq_ok_iff.2 ⟨hnames, rfl⟩,
    combine_eq_ok_iff.2 ⟨List.forall_mem_append.2 ⟨hnames, hc⟩, rfl⟩, ?_⟩
  rw [combine_eq, List.singleton_append, List.forM_cons, combinedValue, checkPath_text,
    String.toList_ofList, validate_repeated (by decide)]
  rfl

end PathFunctions

end BuildExpr
