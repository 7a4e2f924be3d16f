import BuildExpr.Proofs.Text.LetterCase
import BuildExpr.Registry.Key
import Mathlib.Data.List.DropRight

/-!
# The parts of a registry key

A key is made of the name of a hive and a path. Its normal form is read off the two once the blanks
around the key are gone and all spellings of a character are one
(`RegistryKey.normalize_eq_ok_iff`). No hive has a blank or a separator in its name
(`RegistryKey.of_hive?_eq_some`), while the path may have both anywhere; only the separators around
it are left out (`RegistryKey.bare_bare`).
-/

namespace BuildExpr

namespace RegistryKey

open Chars

/-! ## The parts of a key -/

/-- The characters that part a key as it is written. -/
def isDivider (c : Char) : Bool := c == '/' || c == '\\'

/-- The character that all spellings of a character in a key stand for. -/
def uniform (c : Char) : Char := (if c == '/' then '\\' else c).toLower

/-- A key without the blanks around it, in the characters that its own stand for. -/
def reduced (key : List Char) : List Char := trim (key.map uniform)

/-- The name in front of the first separator. -/
def hivePart (key : List Char) : List Char := key.takeWhile fun c => !isSeparator c

/-- What follows the name, from the first separator on. -/
def pathPart (key : List Char) : List Char := key.dropWhile fun c => !isSeparator c

/-- A path without the separators around it. -/
def bare (path : List Char) : List Char := dropEndWhile isSeparator (path.dropWhile isSeparator)

/-- The normal form of a key with this hive and path. -/
def spelled (hive : String) (path : List Char) : List Char :=
  if path.isEmpty then hive.toList else hive.toList ++ '\\' :: path

theorem hivePart_append_pathPart (key : List Char) : hivePart key ++ pathPart key = key :=
  List.takeWhile_append_dropWhile

theorem isSeparator_eq_false_iff {c : Char} : isSeparator c = false ↔ c ≠ '\\' := by
  simp [isSeparator]

/-- The parts of a key in which they are marked. -/
theorem parts_append {name path : List Char} (hname : '\\' ∉ name)
    (hpath : ∀ c, path.head? = some c → c = '\\') :
    hivePart (name ++ path) = name ∧ pathPart (name ++ path) = path := by
  have hkeep : ∀ c ∈ name, (!isSeparator c) = true := fun c hc => by
    rw [Bool.not_eq_true', isSeparator_eq_false_iff]
    rintro rfl
    exact hname hc
  rw [hivePart, pathPart, List.takeWhile_append_of_pos hkeep, List.dropWhile_append_of_pos hkeep]
  cases path with
  | nil => simp
  | cons c path =>
    obtain rfl := hpath c rfl
    simp [isSeparator]

theorem head?_pathPart {key : List Char} {c : Char} (h : (pathPart key).head? = some c) :
    c = '\\' := by
  have hdrop := List.head?_dropWhile_not (fun c => !isSeparator c) key
  rw [pathPart] at h
  rw [h] at hdrop
  simpa [isSeparator] using hdrop

theorem separator_not_mem_hivePart (key : List Char) : '\\' ∉ hivePart key := fun hmem => by
  have := List.mem_takeWhile_imp hmem
  simp [isSeparator] at this

/-- A key is cut at the first separator, or else it has none. -/
theorem cut?_getD (key : List Char) :
    (cut? '\\' key).getD (key, []) = (hivePart key, (pathPart key).tail) := by
  induction key with
  | nil => rfl
  | cons c key ih =>
    by_cases hc : c = '\\'
    · subst hc
      simp [cut?, hivePart, pathPart, isSeparator]
    · have hkeep : (!isSeparator c) = true := by simpa [isSeparator] using hc
      have hname : hivePart (c :: key) = c :: hivePart key := List.takeWhile_cons_of_pos hkeep
      have hpath : pathPart (c :: key) = pathPart key := List.dropWhile_cons_of_pos hkeep
      rw [cut?, if_neg (by simpa using hc), hname, hpath]
      cases h : cut? '\\' key with
      | none =>
        rw [h] at ih
        obtain ⟨hname, hpath⟩ := Prod.mk.inj ih
        simp [← hname, ← hpath]
      | some p =>
        rw [h] at ih
        simp [show p = _ from ih]

/-- The separator in front of a path is not looked at. -/
theorem bare_separator_cons (path : List Char) : bare ('\\' :: path) = bare path := by
  rw [bare, bare, List.dropWhile_cons_of_pos rfl]

theorem bare_tail_pathPart (key : List Char) : bare (pathPart key).tail = bare (pathPart key) := by
  cases h : pathPart key with
  | nil => rfl
  | cons c path =>
    have hhead : (pathPart key).head? = some c := by rw [h, List.head?_cons]
    rw [head?_pathPart hhead, List.tail_cons, bare_separator_cons]

/-! ## Spellings -/

theorem caseless_isSeparator : Caseless isSeparator := .of_capitals (by decide)

theorem uniform_toLower (c : Char) : uniform c.toLower = uniform c := by
  have : Caseless uniform := .of_capitals (by decide)
  exact this c

theorem uniform_of_isBlank {c : Char} (h : isBlank c = true) : uniform c = c := by
  have hne : (c == '/') = false := by
    rw [beq_eq_false_iff_ne]
    rintro rfl
    cases h
  rw [uniform, hne, if_neg (by decide)]
  cases hupper : c.isUpper with
  | false => exact toLower_of_not_isUpper hupper
  | true =>
    have hletters : capitals.any isBlank = false := by decide
    exact absurd h (List.any_eq_false.1 hletters c (mem_capitals_of_isUpper hupper))

theorem isBlank_uniform (c : Char) : isBlank (uniform c) = isBlank c := by
  rw [uniform, caseless_isBlank]
  by_cases hc : c = '/'
  · subst hc
    rfl
  · rw [if_neg (by simpa using hc)]

theorem uniform_uniform (c : Char) : uniform (uniform c) = uniform c := by
  by_cases hc : c = '/'
  · subst hc
    rfl
  · have hlower : uniform c = c.toLower := by rw [uniform, if_neg (by simpa using hc)]
    rw [hlower, uniform_toLower, hlower]

theorem uniform_of_isDivider {c : Char} (h : isDivider c = true) : uniform c = '\\' := by
  simp only [isDivider, Bool.or_eq_true, beq_iff_eq] at h
  rcases h with rfl | rfl <;> rfl

theorem Blank.map_uniform {cs : List Char} (h : Blank cs) : cs.map uniform = cs :=
  (List.map_congr_left fun c hc => uniform_of_isBlank (h c hc)).trans (List.map_id' cs)

theorem keepsBlanks_uniform : KeepsBlanks fun c => [uniform c] :=
  ⟨fun c hc => by rw [uniform_of_isBlank hc],
    fun c hc => ⟨_, [], rfl, (isBlank_uniform c).trans hc⟩⟩

theorem trim_map_uniform (cs : List Char) : trim (cs.map uniform) = (trim cs).map uniform := by
  have := trim_flatMap keepsBlanks_uniform (by simpa using keepsBlanks_uniform) cs
  rwa [← List.map_eq_flatMap, ← List.map_eq_flatMap] at this

theorem hive?_map_toLower (name : List Char) : hive? (name.map Char.toLower) = hive? name := by
  have hfold : Text.foldAscii (String.ofList (name.map Char.toLower)) =
      Text.foldAscii (String.ofList name) := by
    simp only [Text.foldAscii, String.toList_ofList, List.map_map]
    exact congrArg String.ofList (List.map_congr_left fun c _ => caseless_toLower c)
  rw [hive?, hive?, hfold]

theorem takeWhile_map_toLower {p : Char → Bool} (hp : Caseless p) (cs : List Char) :
    (cs.map Char.toLower).takeWhile p = (cs.takeWhile p).map Char.toLower := by
  rw [List.takeWhile_map, show p ∘ Char.toLower = p from funext hp]

theorem dropWhile_map_toLower {p : Char → Bool} (hp : Caseless p) (cs : List Char) :
    (cs.map Char.toLower).dropWhile p = (cs.dropWhile p).map Char.toLower := by
  rw [List.dropWhile_map, show p ∘ Char.toLower = p from funext hp]

theorem bare_map_toLower (path : List Char) :
    bare (path.map Char.toLower) = (bare path).map Char.toLower := by
  rw [bare, dropWhile_map_toLower caseless_isSeparator, dropEndWhile, ← List.map_reverse,
    dropWhile_map_toLower caseless_isSeparator, ← List.map_reverse]
  rfl

/-- The key with all its separators the same. -/
def divided (key : List Char) : List Char :=
  (trim key).map fun c => if c == '/' then '\\' else c

theorem reduced_eq (key : List Char) : reduced key = (divided key).map Char.toLower := by
  rw [reduced, trim_map_uniform, divided, List.map_map]
  rfl

/-- The normal form of a key is made of its hive and of its path. -/
theorem normalize_eq_ok_iff {key normal : String} :
    normalize key = .ok normal ↔
      ∃ hive, hive? (hivePart (reduced key.toList)) = some hive ∧
        normal.toList = spelled hive (bare (pathPart (reduced key.toList))) := by
  have hcaseless : Caseless fun c => !isSeparator c :=
    fun c => congrArg not (caseless_isSeparator c)
  have hhive : hivePart (reduced key.toList) =
      (hivePart (divided key.toList)).map Char.toLower := by
    rw [reduced_eq, hivePart, takeWhile_map_toLower hcaseless, hivePart]
  have hpath : pathPart (reduced key.toList) =
      (pathPart (divided key.toList)).map Char.toLower := by
    rw [reduced_eq, pathPart, dropWhile_map_toLower hcaseless, pathPart]
  have hbare : bare (pathPart (divided key.toList)) = dropEndWhile isSeparator
      ((pathPart (divided key.toList)).tail.dropWhile isSeparator) :=
    (bare_tail_pathPart _).symm
  rw [hhive, hpath, hive?_map_toLower, bare_map_toLower, hbare]
  simp only [normalize, cut?_getD, ← divided.eq_1]
  generalize dropEndWhile isSeparator ((pathPart (divided key.toList)).tail.dropWhile isSeparator) =
    path
  cases hive? (hivePart (divided key.toList)) with
  | none => simp
  | some hive =>
    have hform : (if (path.map Char.toLower).isEmpty then hive
        else hive ++ String.ofList ('\\' :: path.map Char.toLower)).toList =
          spelled hive (path.map Char.toLower) := by
      rw [spelled]
      split <;> simp
    simp only [Except.ok.injEq, Option.some.injEq, exists_eq_left', ← hform, String.toList_inj]
    exact eq_comm

/-! ## Hives -/

/-- A hive is named by its full or its short name, in any case of letters. -/
def NamesHive (hive : String × String) (name : List Char) : Prop :=
  Text.SameName (String.ofList name) hive.1 ∨ Text.SameName (String.ofList name) hive.2

/-- A character that no hive has in its name. -/
def isForeign (c : Char) : Bool := isBlank c || isDivider c

theorem foldAscii_hive : ∀ hive ∈ hives,
    Text.foldAscii hive.1 = hive.1 ∧ Text.foldAscii hive.2 = hive.2 := by decide +kernel

theorem hive?_of_namesHive {hive : String × String} (h : hive ∈ hives) {name : List Char}
    (hname : NamesHive hive name) : hive? name = some hive.1 := by
  have hfound : ∀ hive ∈ hives, ∀ name ∈ [hive.1, hive.2],
      (hives.find? fun hive => name == hive.1 || name == hive.2).map Prod.fst =
        some hive.1 := by decide +kernel
  obtain ⟨hlong, hshort⟩ := foldAscii_hive hive h
  rcases hname with hname | hname
  · rw [hive?, Text.foldAscii_eq hname, hlong]
    exact hfound hive h _ (by simp)
  · rw [hive?, Text.foldAscii_eq hname, hshort]
    exact hfound hive h _ (by simp)

theorem exists_of_hive?_eq_some {name : List Char} {full : String} (h : hive? name = some full) :
    ∃ hive ∈ hives, hive.1 = full ∧
      (Text.foldAscii (String.ofList name) = hive.1 ∨
        Text.foldAscii (String.ofList name) = hive.2) := by
  obtain ⟨hive, hfind, hfull⟩ := Option.map_eq_some_iff.1 h
  refine ⟨hive, List.mem_of_find?_eq_some hfind, hfull, ?_⟩
  simpa using List.find?_some hfind

/-- The name of a hive has no blanks and no separators, and it is not empty. -/
theorem of_hive?_eq_some {name : List Char} {full : String} (h : hive? name = some full) :
    name ≠ [] ∧ ∀ c ∈ name, isForeign c = false := by
  have hcaseless : Caseless isForeign := .of_capitals (by decide)
  have hplain : ∀ hive ∈ hives, ∀ text ∈ [hive.1, hive.2],
      text ≠ "" ∧ text.toList.any isForeign = false := by decide +kernel
  obtain ⟨hive, hmem, -, hfold⟩ := exists_of_hive?_eq_some h
  have htext : Text.foldAscii (String.ofList name) ∈ [hive.1, hive.2] := by
    simpa using hfold
  obtain ⟨hne, hchars⟩ := hplain hive hmem _ htext
  rw [Text.foldAscii, String.toList_ofList] at hne hchars
  refine ⟨?_, fun c hc => ?_⟩
  · rintro rfl
    exact hne rfl
  · rw [← hcaseless]
    exact Bool.eq_false_iff.2 (List.any_eq_false.1 hchars _ (by simpa using ⟨c, hc, rfl⟩))

section Name

variable {name : List Char} {full : String}

theorem separator_not_mem_of_hive? (h : hive? name = some full) : '\\' ∉ name := fun hmem => by
  have := (of_hive?_eq_some h).2 _ hmem
  simp [isForeign, isDivider] at this

theorem startsPlain_of_hive? (h : hive? name = some full) : StartsPlain name := fun c hc => by
  have := (of_hive?_eq_some h).2 c (List.mem_of_mem_head? hc)
  exact (Bool.or_eq_false_iff.1 this).1

theorem not_endsBlank_of_hive? (h : hive? name = some full) : ¬EndsBlank name := by
  rintro ⟨c, hlast, hblank⟩
  have := (of_hive?_eq_some h).2 c (List.mem_of_getLast? hlast)
  rw [isForeign, hblank] at this
  cases this

/-- In uniform characters a hive is named as it was. -/
theorem hive?_map_uniform (h : hive? name = some full) : hive? (name.map uniform) = some full := by
  have hlower : name.map uniform = name.map Char.toLower := by
    refine List.map_congr_left fun c hc => ?_
    have := (of_hive?_eq_some h).2 c hc
    rw [uniform, if_neg]
    intro hslash
    simp [isForeign, isDivider, beq_iff_eq.1 hslash] at this
  rw [hlower, hive?_map_toLower, h]

end Name

/-! ## Paths -/

/-- The parts of a key with more of a path behind it. -/
theorem parts_append_path (key : List Char) {path : List Char}
    (hpath : ∀ c, path.head? = some c → c = '\\') :
    hivePart (key ++ path) = hivePart key ∧ pathPart (key ++ path) = pathPart key ++ path := by
  have hhead : ∀ c, (pathPart key ++ path).head? = some c → c = '\\' := by
    intro c hc
    by_cases hnil : pathPart key = []
    · exact hpath c (by simpa [hnil] using hc)
    · rw [List.head?_append_of_ne_nil _ hnil] at hc
      exact head?_pathPart hc
  have := parts_append (separator_not_mem_hivePart key) hhead
  rwa [← List.append_assoc, hivePart_append_pathPart] at this

theorem head?_replicate (n : Nat) (c : Char)
    (h : (List.replicate n '\\').head? = some c) : c = '\\' :=
  List.eq_of_mem_replicate (List.mem_of_mem_head? h)

theorem bare_append_separators (path : List Char) (n : Nat) :
    bare (path ++ List.replicate n '\\') = bare path := by
  have hmarks : ∀ c ∈ List.replicate n '\\', isSeparator c = true := fun c hc => by
    rw [List.eq_of_mem_replicate hc]
    rfl
  rw [bare, bare, List.dropWhile_append]
  split
  · rename_i hnil
    rw [List.isEmpty_iff.1 hnil, List.dropWhile_eq_nil_iff.2 hmarks]
  · rw [dropEndWhile, List.reverse_append,
      List.dropWhile_append_of_pos fun c hc => hmarks c (List.mem_reverse.1 hc), dropEndWhile]

/-- Blanks at the end of a path belong to it, with the separators in front of them. -/
theorem bare_append_blank {us : List Char} (hus : Blank us) (hne : us ≠ []) (path : List Char) :
    bare (path ++ us) = path.dropWhile isSeparator ++ us := by
  have hmark : ∀ c ∈ us, isSeparator c = false := fun c hc => by
    rw [isSeparator_eq_false_iff]
    rintro rfl
    exact absurd (hus _ hc) (by decide)
  have hstart : us.dropWhile isSeparator = us := by
    cases us with
    | nil => rfl
    | cons c us => exact List.dropWhile_cons_of_neg (by simp [hmark c List.mem_cons_self])
  have hdrop : (path ++ us).dropWhile isSeparator = path.dropWhile isSeparator ++ us := by
    rw [List.dropWhile_append]
    split
    · rename_i hnil
      rw [List.isEmpty_iff.1 hnil, hstart, List.nil_append]
    · rfl
  rw [bare, hdrop]
  refine List.rdropWhile_eq_self_iff.2 fun hall => ?_
  rw [List.getLast_append_of_ne_nil hall hne, hmark _ (List.getLast_mem hne)]
  decide

theorem length_bare_le (path : List Char) :
    (bare path).length ≤ (path.dropWhile isSeparator).length :=
  (List.rdropWhile_prefix isSeparator _).length_le

theorem isSeparator_of_head?_bare {path : List Char} {c : Char} (h : (bare path).head? = some c) :
    isSeparator c = false := by
  obtain ⟨more, hmore⟩ : bare path <+: path.dropWhile isSeparator :=
    List.rdropWhile_prefix isSeparator _
  have hhead := List.head?_dropWhile_not isSeparator path
  rw [← hmore, List.head?_append, h] at hhead
  exact hhead

theorem isSeparator_of_getLast?_bare {path : List Char} {c : Char}
    (h : (bare path).getLast? = some c) : isSeparator c = false := by
  have hne : bare path ≠ [] := by
    intro hnil
    rw [hnil] at h
    cases h
  rw [List.getLast?_eq_some_getLast hne] at h
  rw [← Option.some.inj h]
  exact Bool.eq_false_iff.2 (List.rdropWhile_last_not isSeparator _ hne)

theorem bare_bare (path : List Char) : bare (bare path) = bare path := by
  have hstart : (bare path).dropWhile isSeparator = bare path := by
    cases h : bare path with
    | nil => rfl
    | cons c more =>
      have hhead : (bare path).head? = some c := by rw [h, List.head?_cons]
      exact List.dropWhile_cons_of_neg (by simp [isSeparator_of_head?_bare hhead])
  rw [bare, hstart]
  exact List.rdropWhile_idempotent isSeparator (path.dropWhile isSeparator)

theorem mem_of_mem_bare {path : List Char} {c : Char} (h : c ∈ bare path) : c ∈ path :=
  (List.dropWhile_suffix isSeparator).subset ((List.rdropWhile_prefix isSeparator _).subset h)

end RegistryKey

end BuildExpr
