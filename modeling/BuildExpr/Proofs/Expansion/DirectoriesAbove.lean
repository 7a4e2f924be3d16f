import BuildExpr.Proofs.Expansion.QuotedCalls
import BuildExpr.Proofs.Path.Ancestors
import Mathlib.Data.String.Basic

/-!
# All directories above the entries of a list

The function `GetPathsOfAllDirectoriesAbove` walks up from the full path of every entry that is not
empty, which ends since each step shortens the path (`Path.length_lt_of_directoryName?`), and puts
the directories that it meets in the order of their lower-case forms, each once. If there are full
paths, it gives all directories above them and no other ones, up to the case of letters
(`directories_above_complete`).
-/

namespace BuildExpr

open Eval Expression

/-- The full path of an entry, read from the directory of its project, the base directory or the
current one. -/
def Entry.fullPath (s : Setting) (w : World) (e : Entry) : Except Fault (List Char) := do
  Path.full w.current none (← ItemCall.rootedPath s w e)

namespace ItemCall

/-! ## The first entry of each key -/

section

variable {key : Entry → String} {seen : List String} {entries : List Entry}

theorem mem_of_mem_firstsFrom {e : Entry} (h : e ∈ firstsFrom key seen entries) :
    e ∈ entries ∧ key e ∉ seen := by
  induction entries generalizing seen with
  | nil => cases h
  | cons e' entries ih =>
    rw [firstsFrom] at h
    split at h
    · exact ⟨List.mem_cons_of_mem e' (ih h).1, (ih h).2⟩
    · rename_i hnew
      rcases List.mem_cons.1 h with rfl | h
      · exact ⟨List.mem_cons_self, by simpa using hnew⟩
      · exact ⟨List.mem_cons_of_mem e' (ih h).1, fun hseen => (ih h).2 (List.mem_cons_of_mem _ hseen)⟩

theorem nodup_map_firstsFrom : ((firstsFrom key seen entries).map key).Nodup := by
  induction entries generalizing seen with
  | nil => exact List.nodup_nil
  | cons e entries ih =>
    rw [firstsFrom]
    split
    · exact ih
    · rw [List.map_cons, List.nodup_cons]
      refine ⟨fun h => ?_, ih⟩
      obtain ⟨e', he', hkey⟩ := List.mem_map.1 h
      exact (mem_of_mem_firstsFrom he').2 (hkey ▸ List.mem_cons_self)

/-- Every key that was not seen before has its first entry. -/
theorem exists_mem_firstsFrom {e : Entry} (he : e ∈ entries) (hnew : key e ∉ seen) :
    ∃ e' ∈ firstsFrom key seen entries, key e' = key e := by
  induction entries generalizing seen with
  | nil => cases he
  | cons e' entries ih =>
    rw [firstsFrom]
    split
    · rename_i hseen
      rcases List.mem_cons.1 he with rfl | he
      · exact absurd (by simpa using hseen) hnew
      · exact ih he hnew
    · by_cases hkey : key e' = key e
      · exact ⟨e', List.mem_cons_self, hkey⟩
      · rcases List.mem_cons.1 he with rfl | he
        · exact absurd rfl hkey
        · have hnew' : key e ∉ key e' :: seen := by
            rw [List.mem_cons, not_or]
            exact ⟨Ne.symm hkey, hnew⟩
          obtain ⟨first, hfirst, hsame⟩ := ih he hnew'
          exact ⟨first, List.mem_cons_of_mem e' hfirst, hsame⟩

end

/-! ## Sorted directories -/

/-- The first of the entries of each lower-case form, in the order of these forms. -/
def inOrder (entries : List Entry) : List Entry :=
  (firstOfKey (fun e => Text.lower e.text) entries).mergeSort fun a b =>
    decide (Text.lower a.text ≤ Text.lower b.text)

variable {entries : List Entry}

theorem mem_inOrder {e : Entry} :
    e ∈ inOrder entries ↔ e ∈ firstsFrom (fun e => Text.lower e.text) [] entries := by
  rw [inOrder, List.mem_mergeSort, firstOfKey_eq_firstsFrom]

theorem pairwise_inOrder :
    (inOrder entries).Pairwise fun a b => Text.lower a.text < Text.lower b.text := by
  have hsorted : (inOrder entries).Pairwise fun a b =>
      decide (Text.lower a.text ≤ Text.lower b.text) = true := by
    refine List.pairwise_mergeSort (fun a b c hab hbc => ?_) (fun a b => ?_) _
    · exact decide_eq_true (le_trans (of_decide_eq_true hab) (of_decide_eq_true hbc))
    · simpa using le_total (Text.lower a.text) (Text.lower b.text)
  have hdistinct : (inOrder entries).Pairwise fun a b => Text.lower a.text ≠ Text.lower b.text := by
    have hnodup := @nodup_map_firstsFrom (fun e => Text.lower e.text) [] entries
    rw [← firstOfKey_eq_firstsFrom] at hnodup
    exact List.pairwise_map.1 (((List.mergeSort_perm _ _).map _).nodup_iff.2 hnodup)
  exact (hsorted.and hdistinct).imp fun h => lt_of_le_of_ne (of_decide_eq_true h.1) h.2

theorem sortedDirectories_eq (entries : List Entry) :
    sortedDirectories entries = (inOrder entries).map fun e => { text := Text.escape e.text } :=
  rfl

theorem pairwise_sortedDirectories :
    ((sortedDirectories entries).map fun e => Text.lower e.plain).Pairwise (· < ·) := by
  rw [sortedDirectories_eq, List.map_map, List.pairwise_map]
  simpa only [Function.comp_apply, Entry.plain, Text.unescape_escape] using pairwise_inOrder

theorem exists_of_mem_sortedDirectories {r : Entry} (h : r ∈ sortedDirectories entries) :
    ∃ e ∈ entries, r.plain = e.text := by
  rw [sortedDirectories_eq] at h
  obtain ⟨e, he, rfl⟩ := List.mem_map.1 h
  exact ⟨e, (mem_of_mem_firstsFrom (mem_inOrder.1 he)).1, Text.unescape_escape e.text⟩

theorem exists_mem_sortedDirectories {e : Entry} (he : e ∈ entries) :
    ∃ r ∈ sortedDirectories entries, Text.lower r.plain = Text.lower e.text := by
  obtain ⟨first, hfirst, hsame⟩ :=
    @exists_mem_firstsFrom (fun e => Text.lower e.text) [] entries e he List.not_mem_nil
  rw [sortedDirectories_eq]
  refine ⟨_, List.mem_map_of_mem (mem_inOrder.2 hfirst), ?_⟩
  rw [Entry.plain, Text.unescape_escape]
  exact hsame

/-! ## Runs of the function -/

/-- The directories above an entry that has a full path. -/
def above (s : Setting) (w : World) (e : Entry) : List Entry :=
  ((e.fullPath s w).toOption.elim [] Path.ancestors).map fun d => { text := String.ofList d }

theorem mem_above {s : Setting} {w : World} (hcurrent : Path.isRooted w.current = true)
    {e d : Entry} {p : List Char} (hp : e.fullPath s w = .ok p) :
    d ∈ above s w e ↔ ∃ q, Path.IsAbove q p ∧ { text := String.ofList q } = d := by
  obtain ⟨rooted, -, hfull⟩ := Except.bind_eq_ok.1 hp
  rw [above, hp, List.mem_map]
  exact exists_congr fun q => and_congr_left fun _ => (Path.isFull_full hcurrent hfull).mem_ancestors

theorem replaceEach_eq_ok {f : Entry → Except Diagnostic (List Entry)} {g : Entry → List Entry}
    (h : ∀ e ∈ entries, f e = .ok (g e)) : replaceEach f entries = .ok (entries.flatMap g) := by
  induction entries with
  | nil => rfl
  | cons e entries ih =>
    rw [List.forall_mem_cons] at h
    rw [replaceEach, h.1, ih h.2, List.flatMap_cons]
    rfl

/-- If there are full paths, the function succeeds. -/
theorem run_directoriesAbove {call : ItemCall}
    (h : ItemFunction.ofName call.name = .directoriesAbove) {s : Setting} {w : World}
    (hfull : ∀ e ∈ Entries.filled entries, ∃ p, e.fullPath s w = .ok p) :
    call.run s w [] entries =
      .ok (sortedDirectories ((Entries.filled entries).flatMap (above s w))) := by
  have hrun : call.run s w [] entries =
      (do
        let found ← replaceEach (call.directoriesAbove s w) (Entries.filled entries)
        return sortedDirectories found) := by
    rw [run, h]
    rfl
  have habove : ∀ e ∈ Entries.filled entries, call.directoriesAbove s w e = .ok (above s w e) := by
    intro e he
    obtain ⟨p, hp⟩ := hfull e he
    show (call.operand (e.fullPath s w) >>= _) = _
    rw [above, hp]
    rfl
  rw [hrun, replaceEach_eq_ok habove]
  rfl

end ItemCall

/-- All directories above the entries of a list are found, if these have full paths: the function
succeeds, what it gives are directories above an entry, in the order of their lower-case forms and
with no two of one form, and every directory above an entry is among them up to the case of
letters. -/
theorem directories_above_complete (x : Expander) {options : Options} (hitems : options.items = true)
    {itemType chain : String}
    (htype : Chars.name? true itemType.toList = some (itemType.toList, []))
    (hchain : ∀ stage ∈ (Rest.ofText chain).stages, stage.isTransform = true)
    {lookup : Lookup} {w w' : World} {entries : List Entry}
    (hentries : x.listed? ("@(" ++ itemType ++ chain ++ ")") options lookup w = some (entries, w'))
    (hcurrent : Path.isRooted w'.current = true)
    (hfull : ∀ e ∈ entries, e.text ≠ "" →
      ∃ p, e.fullPath (x.setting options lookup w) w' = .ok p) :
    ∃ directories : List Entry,
      x.entries? (quotedCall itemType chain "GetPathsOfAllDirectoriesAbove" []) options lookup w =
        some directories ∧
      (directories.map fun d => Text.lower d.plain).Pairwise (· < ·) ∧
      (∀ d ∈ directories, ∃ e ∈ entries, e.text ≠ "" ∧
        ∃ p, e.fullPath (x.setting options lookup w) w' = .ok p ∧ Path.IsAbove d.plain.toList p) ∧
      ∀ e ∈ entries, e.text ≠ "" → ∀ p, e.fullPath (x.setting options lookup w) w' = .ok p →
        ∀ q, Path.IsAbove q p →
          ∃ d ∈ directories, Text.lower d.plain = Text.lower (String.ofList q) := by
  have hfunction : ItemFunction.ofName "GetPathsOfAllDirectoriesAbove" = .directoriesAbove := by
    decide +kernel
  have hfilled (e : Entry) : e ∈ Entries.filled entries ↔ e ∈ entries ∧ e.text ≠ "" := by
    simp [Entries.filled]
  have hpaths : ∀ e ∈ Entries.filled entries,
      ∃ p, e.fullPath (x.setting options lookup w) w' = .ok p :=
    fun e he => hfull e ((hfilled e).1 he).1 ((hfilled e).1 he).2
  have hname : Chars.name? false "GetPathsOfAllDirectoriesAbove".toList =
      some ("GetPathsOfAllDirectoriesAbove".toList, []) := by
    decide +kernel
  obtain ⟨call, hcall, hgiven⟩ := x.entries?_quotedCall hitems htype hchain hname lookup w []
  rw [hentries, Option.bind_some, List.map_nil,
    ItemCall.run_directoriesAbove (hcall ▸ hfunction) hpaths] at hgiven
  refine ⟨_, hgiven, ItemCall.pairwise_sortedDirectories, fun d hd => ?_, ?_⟩
  · obtain ⟨found, hfound, hplain⟩ := ItemCall.exists_of_mem_sortedDirectories hd
    obtain ⟨e, he, hfound⟩ := List.mem_flatMap.1 hfound
    obtain ⟨p, hp⟩ := hpaths e he
    obtain ⟨q, hq, rfl⟩ := (ItemCall.mem_above hcurrent hp).1 hfound
    refine ⟨e, ((hfilled e).1 he).1, ((hfilled e).1 he).2, p, hp, ?_⟩
    rwa [hplain, String.toList_ofList]
  · intro e he hne p hp q hq
    refine ItemCall.exists_mem_sortedDirectories (e := { text := String.ofList q }) ?_
    exact List.mem_flatMap.2
      ⟨e, (hfilled e).2 ⟨he, hne⟩, (ItemCall.mem_above hcurrent hp).2 ⟨q, hq, rfl⟩⟩

/-- Items with one directory in two cases of letters, an include that is empty, one that is not
rooted and one that is the root. -/
def nestedItems : Lookup where
  scopes := [.ofDocument [] [("I", [{ spec := "/r/a/b/c.txt" }, { spec := "" }, { spec := "/R/d%3b/" },
    { spec := "e\\..\\f/g" }, { spec := "//" }])]]

theorem directories_above_complete_of_nested :
    ∃ (entries directories : List Entry) (w : World),
      ({} : Expander).listed? ("@(" ++ "I" ++ "->Reverse()" ++ ")") .all nestedItems .bare =
        some (entries, w) ∧
      entries.map Entry.text = ["//", "e\\..\\f/g", "/R/d%3b/", "", "/r/a/b/c.txt"] ∧
      w.current = ['/'] ∧
      (∀ e ∈ entries, e.text ≠ "" →
        ∃ p, e.fullPath (({} : Expander).setting .all nestedItems .bare) w = .ok p) ∧
      ({} : Expander).entries? (quotedCall "I" "->Reverse()" "GetPathsOfAllDirectoriesAbove" []) .all
        nestedItems .bare = some directories ∧
      (directories.map fun d => Text.lower d.plain).Pairwise (· < ·) ∧
      ∀ e ∈ entries, e.text ≠ "" →
        ∀ p, e.fullPath (({} : Expander).setting .all nestedItems .bare) w = .ok p →
          ∀ q, Path.IsAbove q p →
            ∃ d ∈ directories, Text.lower d.plain = Text.lower (String.ofList q) := by
  have hlisted : (({} : Expander).listed? ("@(" ++ "I" ++ "->Reverse()" ++ ")") .all nestedItems
      .bare).map (fun r => (r.1.map Entry.text, r.2.current, r.1.all fun e =>
        (e.fullPath (({} : Expander).setting .all nestedItems .bare) r.2).toOption.isSome)) =
      some (["//", "e\\..\\f/g", "/R/d%3b/", "", "/r/a/b/c.txt"], ['/'], true) := by
    decide +kernel
  obtain ⟨⟨entries, w⟩, hentries, hfacts⟩ := Option.map_eq_some_iff.1 hlisted
  obtain ⟨htexts, hcurrent, hpaths⟩ :
      entries.map Entry.text = _ ∧ w.current = ['/'] ∧ (entries.all _) = true := by
    simpa only [Prod.mk.injEq] using hfacts
  have hfull : ∀ e ∈ entries, e.text ≠ "" →
      ∃ p, e.fullPath (({} : Expander).setting .all nestedItems .bare) w = .ok p := by
    intro e he _
    obtain ⟨p, hp⟩ := Option.isSome_iff_exists.1 (List.all_eq_true.1 hpaths e he)
    exact ⟨p, Except.toOption_eq_some.1 hp⟩
  obtain ⟨directories, hdirectories, hsorted, -, hcomplete⟩ :=
    @directories_above_complete {} .all rfl "I" "->Reverse()" (by decide +kernel) (by decide +kernel)
      nestedItems .bare w entries hentries (by rw [hcurrent]; rfl) hfull
  exact ⟨entries, directories, w, hentries, htexts, hcurrent, hfull, hdirectories, hsorted,
    hcomplete⟩

end BuildExpr
