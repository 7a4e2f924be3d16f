import BuildExpr.Functions.Paths
import BuildExpr.Proofs.Path.Canonical

/-!
# The nearest directory that holds a file

The search for a file above a path looks at one directory after the other on the way up to the
root, and stops at the first in which the file exists (`PathFunctions.Search`). It ends, since every
step shortens the path, and what it ends with is the nearest directory on the way that holds the
file, or nothing if none does (`PathFunctions.directory_of_file_above_nearest`).
-/

namespace BuildExpr

namespace Path

/-! ## The way up -/

/-- Whether a directory is on the way from a path up to the root. -/
def OnWay (d p : List Char) : Prop := d = p ∨ IsAbove d p

theorem onWay_root (p : List Char) : OnWay ['/'] p :=
  (eq_or_ne p ['/']).imp Eq.symm fun hp => .inr ⟨rfl, hp⟩

namespace IsFull

theorem isAbove_spec {p : List Char} (h : IsFull p) {d : List Char} (hd : IsAbove d p) :
    IsFull d ∧ d.length < p.length := by
  rcases h.step with rfl | ⟨parent, hparent, -, hfull, habove⟩
  · exact absurd hd (not_isAbove_root d)
  · have hshort := length_lt_of_directoryName? hparent
    rcases (habove d).1 hd with rfl | hd
    · exact ⟨hfull, hshort⟩
    · obtain ⟨hfulld, hlength⟩ := hfull.isAbove_spec hd
      exact ⟨hfulld, hlength.trans hshort⟩
  termination_by p.length

theorem of_onWay {p d : List Char} (h : IsFull p) (hd : OnWay d p) : IsFull d :=
  hd.elim (fun he => he ▸ h) fun habove => (h.isAbove_spec habove).1

theorem ne_nil {p : List Char} (h : IsFull p) : p ≠ [] := by
  cases h <;> exact List.cons_ne_nil _ _

theorem mem_way {p : List Char} (h : IsFull p) {d : List Char} :
    d ∈ p :: ancestors p ↔ OnWay d p := by
  rw [List.mem_cons, h.mem_ancestors, OnWay]

/-- On the way up, every directory is above those before it. -/
theorem pairwise_way {p : List Char} (h : IsFull p) :
    (p :: ancestors p).Pairwise fun a b => IsAbove b a := by
  rw [List.pairwise_cons]
  refine ⟨fun d hd => h.mem_ancestors.1 hd, ?_⟩
  rcases h.step with rfl | ⟨parent, hparent, hne, hfull, -⟩
  · rw [ancestors_of_none rfl]
    exact .nil
  · rw [ancestors_of_some hparent hne]
    exact hfull.pairwise_way
  termination_by p.length
  decreasing_by exact length_lt_of_directoryName? hparent

end IsFull

end Path

theorem Answer.of_eq_ok {α : Type} {x : Except Fault α} {a : α} :
    Answer.of x = .ok a ↔ x = .ok a := by
  cases x <;> simp [Answer.of, Answer.refuse]

namespace PathFunctions

open Arguments BuildExpr.Path

/-- Whether a file exists in a directory. -/
def Holds (w : World) (file d : List Char) : Prop :=
  w.files.exists? w.current (Path.combine d file) = true

/-! ## The search step by step -/

/-- The search for a directory, as it goes on from one: it ends with the first directory that is
wanted, or with nothing where there is no other directory to go up to. -/
inductive Search (wanted : List Char → Prop) : List Char → List Char → Prop
  | found {d : List Char} (h : wanted d) : Search wanted d d
  | climbs {d parent answer : List Char} (h : ¬ wanted d) (hparent : directoryName? d = some parent)
      (hother : parent ≠ d ∧ parent ≠ []) (hrest : Search wanted parent answer) :
      Search wanted d answer
  | ends {d : List Char} (h : ¬ wanted d)
      (htop : ∀ parent, directoryName? d = some parent → parent = d ∨ parent = []) :
      Search wanted d []

section

variable {w : World} {d file : List Char}

theorem directoryOfFileAbove_of_holds (h : Holds w file d) :
    directoryOfFileAbove w d file = some d :=
  List.find?_cons_of_pos h

theorem directoryOfFileAbove_of_not_holds (h : ¬ Holds w file d) :
    directoryOfFileAbove w d file =
      (ancestors d).find? fun d => w.files.exists? w.current (Path.combine d file) :=
  List.find?_cons_of_neg h

theorem directoryOfFileAbove_of_parent (h : ¬ Holds w file d) {parent : List Char}
    (hparent : directoryName? d = some parent) (hne : parent ≠ []) :
    directoryOfFileAbove w d file = directoryOfFileAbove w parent file := by
  rw [directoryOfFileAbove_of_not_holds h, ancestors_of_some hparent hne]
  rfl

theorem directoryOfFileAbove_of_top (h : ¬ Holds w file d)
    (htop : ∀ parent, directoryName? d = some parent → parent = d ∨ parent = []) :
    directoryOfFileAbove w d file = none := by
  have hnone : ancestors d = [] := by
    rw [ancestors]
    split
    · rfl
    · rename_i parent hparent
      rcases htop parent hparent with rfl | rfl
      · exact absurd (length_lt_of_directoryName? hparent) (Nat.lt_irrefl _)
      · rfl
  rw [directoryOfFileAbove_of_not_holds h, hnone]
  rfl

/-- The search ends, whatever path it starts from. -/
theorem exists_search (w : World) (file d : List Char) :
    ∃ answer, Search (Holds w file) d answer := by
  by_cases h : Holds w file d
  · exact ⟨d, .found h⟩
  · cases hparent : directoryName? d with
    | none => exact ⟨[], .ends h (by simp [hparent])⟩
    | some parent =>
      have hshort := length_lt_of_directoryName? hparent
      by_cases hne : parent = []
      · exact ⟨[], .ends h (by simp [hparent, hne])⟩
      · obtain ⟨answer, hrest⟩ := exists_search w file parent
        exact ⟨answer, .climbs h hparent ⟨ne_of_apply_ne List.length hshort.ne, hne⟩ hrest⟩
  termination_by d.length

theorem Search.eq_directoryOfFileAbove {answer : List Char} (h : Search (Holds w file) d answer) :
    answer = (directoryOfFileAbove w d file).getD [] := by
  induction h with
  | found h => rw [directoryOfFileAbove_of_holds h, Option.getD_some]
  | climbs h hparent hother _ ih => rw [directoryOfFileAbove_of_parent h hparent hother.2, ih]
  | ends h htop => rw [directoryOfFileAbove_of_top h htop, Option.getD_none]

theorem search_iff {answer : List Char} :
    Search (Holds w file) d answer ↔ answer = (directoryOfFileAbove w d file).getD [] := by
  refine ⟨Search.eq_directoryOfFileAbove, ?_⟩
  rintro rfl
  obtain ⟨answer, h⟩ := exists_search w file d
  exact h.eq_directoryOfFileAbove ▸ h

end

/-! ## The directory that is found -/

section

variable {w : World} {start file : List Char}

/-- What is found is the nearest of the directories on the way up that hold the file. -/
theorem of_directoryOfFileAbove_eq_some (hfull : IsFull start) {d : List Char}
    (h : directoryOfFileAbove w start file = some d) :
    OnWay d start ∧ Holds w file d ∧
      ∀ d', OnWay d' start → IsAbove d d' → ¬ Holds w file d' := by
  obtain ⟨hholds, before, after, hway, hbefore⟩ := List.find?_eq_some_iff_append.1 h
  have hd : OnWay d start := hfull.mem_way.1 (by rw [hway]; simp)
  refine ⟨hd, hholds, fun d' hd' habove => ?_⟩
  have hmem := hfull.mem_way.2 hd'
  obtain ⟨hfulld, hshort⟩ := (hfull.of_onWay hd').isAbove_spec habove
  rw [hway, List.mem_append, List.mem_cons] at hmem
  rcases hmem with hmem | rfl | hmem
  · simpa [Holds] using hbefore d' hmem
  · exact absurd hshort (Nat.lt_irrefl _)
  · -- those behind it on the way are above it
    have hpairwise := hfull.pairwise_way
    rw [hway] at hpairwise
    have hbehind := (List.pairwise_cons.1 (List.pairwise_append.1 hpairwise).2.1).1 d' hmem
    exact absurd (hfulld.isAbove_spec hbehind).2 hshort.asymm

theorem of_directoryOfFileAbove_eq_none (hfull : IsFull start)
    (h : directoryOfFileAbove w start file = none) :
    ∀ d, OnWay d start → ¬ Holds w file d :=
  fun d hd => List.find?_eq_none.1 h d (hfull.mem_way.2 hd)

end

/-- The search for a file above a path whose full form is rooted, as it is when the current
directory is, ends with one answer. If that is a directory, it is on the way from the full path to
the root, holds the file, and no directory on the way below it does. Otherwise no directory on the
way, up to and with the root, holds the file. -/
theorem directory_of_file_above_nearest {c : Context} {args : List Value} {start : List Char}
    (hstart : full c (chars args 0) = .ok start) (hrooted : isRooted start = true) :
    ∃ answer, getDirectoryOfFileAbove c args = .ok (.text (String.ofList answer)) ∧
      (∀ d, Search (Holds c.world (chars args 1)) start d ↔ d = answer) ∧
      (answer ≠ [] → OnWay answer start ∧ Holds c.world (chars args 1) answer ∧
        ∀ d, OnWay d start → IsAbove answer d → ¬ Holds c.world (chars args 1) d) ∧
      (answer = [] → OnWay ['/'] start ∧
        ∀ d, OnWay d start → ¬ Holds c.world (chars args 1) d) := by
  have hfull : IsFull start := isFull_of_isRooted (Answer.of_eq_ok.1 hstart) hrooted
  refine ⟨_, ?_, fun d => search_iff, fun hne => ?_, fun hnone => ?_⟩
  · rw [getDirectoryOfFileAbove, hstart]
    rfl
  · cases hfound : directoryOfFileAbove c.world start (chars args 1) with
    | none => exact absurd (by rw [hfound]; rfl) hne
    | some d => exact of_directoryOfFileAbove_eq_some hfull hfound
  · cases hfound : directoryOfFileAbove c.world start (chars args 1) with
    | none => exact ⟨onWay_root start, of_directoryOfFileAbove_eq_none hfull hfound⟩
    | some d =>
      have hd := (of_directoryOfFileAbove_eq_some hfull hfound).1
      rw [hfound, Option.getD_some] at hnone
      exact absurd hnone (hfull.of_onWay hd).ne_nil

/-- A directory with a file that is also in the directory above it, and a directory below it
without. -/
def nestedContext : Context where
  base := some "/r/a".toList
  world := {
    current := "/".toList
    files :=
      let root : FileSystem := { now := .epoch }
      let file := root.newEntry (.file [])
      ((root.putBelow ["r".toList, "x".toList] file).putBelow
        ["r".toList, "a".toList, "x".toList] file).putBelow
          ["r".toList, "a".toList, "b".toList] (root.newEntry .directory) }

/-- The search passes by a directory without the file and stops below the other one with it. -/
theorem directory_of_file_above_nearest_of_nested :
    full nestedContext (chars [.text "b\\", .text "x"] 0) = .ok "/r/a/b/".toList ∧
      isRooted "/r/a/b/".toList = true ∧
      getDirectoryOfFileAbove nestedContext [.text "b\\", .text "x"] = .ok (.text "/r/a") ∧
      OnWay "/r/a".toList "/r/a/b/".toList ∧
      Holds nestedContext.world "x".toList "/r/a".toList ∧
      ∀ d, OnWay d "/r/a/b/".toList → IsAbove "/r/a".toList d →
        ¬ Holds nestedContext.world "x".toList d := by
  have hfull : full nestedContext (chars [.text "b\\", .text "x"] 0) = .ok "/r/a/b/".toList := by
    decide +kernel
  have hrooted : isRooted "/r/a/b/".toList = true := by decide +kernel
  have hfound : directoryOfFileAbove nestedContext.world "/r/a/b/".toList "x".toList =
      some "/r/a".toList := by
    decide +kernel
  have hends : Search (Holds nestedContext.world "x".toList) "/r/a/b/".toList "/r/a".toList := by
    rw [search_iff, hfound, Option.getD_some]
  obtain ⟨answer, hrun, hsearch, hnearest, -⟩ := directory_of_file_above_nearest hfull hrooted
  obtain rfl : "/r/a".toList = answer := (hsearch _).1 hends
  exact ⟨hfull, hrooted, hrun, hnearest (by decide +kernel)⟩

end PathFunctions

end BuildExpr
