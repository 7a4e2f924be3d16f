import BuildExpr.Text.Blank
import Mathlib.Data.List.DropRight
import Mathlib.Data.List.TakeWhile

/-!
# Trimming

`trim` takes a run of blanks off either end and nothing else (`exists_trim`), it does not see
blanks put around a text (`trim_append`), so trimming twice is trimming once (`trim_trim`), it takes
nothing off a text without blanks at its ends (`trim_of_plain`), and it commutes with a replacement
of characters that leaves the blanks alone and makes none (`trim_flatMap`).
-/

namespace BuildExpr

namespace Chars

/-- A text of blanks only. -/
def Blank (cs : List Char) : Prop := ∀ c ∈ cs, isBlank c = true

theorem Blank.nil : Blank [] := by simp [Blank]

theorem Blank.append {xs ys : List Char} (hx : Blank xs) (hy : Blank ys) : Blank (xs ++ ys) := by
  intro c hc
  rcases List.mem_append.1 hc with hc | hc
  · exact hx c hc
  · exact hy c hc

theorem Blank.reverse {cs : List Char} (h : Blank cs) : Blank cs.reverse :=
  fun c hc => h c (List.mem_reverse.1 hc)

theorem blank_takeWhile (cs : List Char) : Blank (cs.takeWhile isBlank) :=
  List.all_eq_true.1 List.all_takeWhile

/-- A character of a text of blanks is none that a reference or list is written with. -/
theorem Blank.not_mem {cs : List Char} (h : Blank cs) {c : Char} (hc : isBlank c = false) :
    c ∉ cs := by
  intro hmem
  rw [h c hmem] at hc
  cases hc

/-! ## One end -/

theorem trimStart_append {ws : List Char} (h : Blank ws) (cs : List Char) :
    trimStart (ws ++ cs) = trimStart cs :=
  List.dropWhile_append_of_pos h

theorem trimEnd_append {ws : List Char} (h : Blank ws) (cs : List Char) :
    trimEnd (cs ++ ws) = trimEnd cs := by
  simp only [trimEnd, dropEndWhile, List.reverse_append]
  rw [List.dropWhile_append_of_pos h.reverse]

theorem exists_trimStart (cs : List Char) : ∃ ws, Blank ws ∧ cs = ws ++ trimStart cs :=
  ⟨_, blank_takeWhile cs, List.takeWhile_append_dropWhile.symm⟩

theorem exists_trimEnd (cs : List Char) : ∃ ws, Blank ws ∧ cs = trimEnd cs ++ ws := by
  refine ⟨_, (blank_takeWhile cs.reverse).reverse, ?_⟩
  rw [trimEnd, dropEndWhile, ← List.reverse_append, List.takeWhile_append_dropWhile,
    List.reverse_reverse]

theorem trimStart_blank {ws : List Char} (h : Blank ws) : trimStart ws = [] := by
  have := trimStart_append h []
  simpa [trimStart] using this

theorem trimEnd_blank {ws : List Char} (h : Blank ws) : trimEnd ws = [] := by
  have := trimEnd_append h []
  simpa [trimEnd, dropEndWhile] using this

/-- The two ends of a text can be trimmed in either order, or else it is blank. -/
theorem trimStart_trimEnd (cs : List Char) : trimStart (trimEnd cs) = trim cs := by
  obtain ⟨ws, hws, hcs⟩ := exists_trimStart cs
  rcases hrest : trimStart cs with _ | ⟨c, rest⟩
  · rw [hrest, List.append_nil] at hcs
    rw [trim, hrest, hcs, trimEnd_blank hws, trimStart_blank Blank.nil]
    rfl
  · -- the first character that is kept is no blank, so trimming the end keeps it too
    have hc : isBlank c = false := by
      have := List.head?_dropWhile_not isBlank cs
      rw [trimStart] at hrest
      simpa [hrest] using this
    have hend : trimEnd (ws ++ c :: rest) = ws ++ trimEnd (c :: rest) := by
      simp only [trimEnd, dropEndWhile, List.reverse_append, List.reverse_cons]
      have hkept : (rest.reverse ++ [c]).dropWhile isBlank ≠ [] := by
        intro h
        have := List.dropWhile_eq_nil_iff.1 h c (by simp)
        rw [hc] at this
        cases this
      rw [List.dropWhile_append, if_neg (by simpa using hkept)]
      simp
    rw [hrest] at hcs
    rw [trim, hrest, hcs, hend, trimStart_append hws]
    obtain ⟨us, hus, hu⟩ := exists_trimEnd (c :: rest)
    rcases hkept : trimEnd (c :: rest) with _ | ⟨d, more⟩
    · rfl
    · rw [hkept, List.cons_append] at hu
      obtain ⟨rfl, -⟩ := List.cons.inj hu
      rw [trimStart, List.dropWhile_cons_of_neg (by simp [hc])]

/-! ## Both ends -/

/-- Blanks around a text do not change what is left of it. -/
theorem trim_append {ws us : List Char} (hws : Blank ws) (hus : Blank us) (cs : List Char) :
    trim (ws ++ cs ++ us) = trim cs := by
  rw [← trimStart_trimEnd, trimEnd_append hus, trimStart_trimEnd, trim, trimStart_append hws,
    ← trim]

/-- Trimming takes blanks off the ends of a text and nothing else. -/
theorem exists_trim (cs : List Char) :
    ∃ ws us, Blank ws ∧ Blank us ∧ cs = ws ++ trim cs ++ us := by
  obtain ⟨ws, hws, hcs⟩ := exists_trimStart cs
  obtain ⟨us, hus, hrest⟩ := exists_trimEnd (trimStart cs)
  refine ⟨ws, us, hws, hus, ?_⟩
  rw [List.append_assoc, trim, ← hrest, ← hcs]

theorem trim_trim (cs : List Char) : trim (trim cs) = trim cs := by
  obtain ⟨ws, us, hws, hus, hcs⟩ := exists_trim cs
  calc trim (trim cs) = trim (ws ++ trim cs ++ us) := (trim_append hws hus _).symm
    _ = trim cs := by rw [← hcs]

/-- Nothing is taken off a text between two characters that are not blank. -/
theorem trim_eq_self {c d : Char} (hc : isBlank c = false) (hd : isBlank d = false)
    (cs : List Char) : trim (c :: cs ++ [d]) = c :: cs ++ [d] := by
  simp [trim, trimStart, trimEnd, dropEndWhile, hc, hd]

/-! ## Texts without blanks at their ends -/

/-- The last character is a blank. -/
def EndsBlank (cs : List Char) : Prop := ∃ c, cs.getLast? = some c ∧ isBlank c = true

/-- The first character, if there is one, is no blank. -/
def StartsPlain (cs : List Char) : Prop := ∀ c, cs.head? = some c → isBlank c = false

theorem not_endsBlank_nil : ¬EndsBlank [] := by
  rintro ⟨c, h, -⟩
  cases h

theorem endsBlank_append {xs ys : List Char} (h : ys ≠ []) :
    EndsBlank (xs ++ ys) ↔ EndsBlank ys := by
  rw [EndsBlank, EndsBlank, List.getLast?_append_of_ne_nil _ h]

theorem Blank.endsBlank {cs : List Char} (h : Blank cs) (hne : cs ≠ []) : EndsBlank cs :=
  ⟨_, List.getLast?_eq_some_getLast hne, h _ (List.getLast_mem hne)⟩

theorem trimEnd_of_not_endsBlank {cs : List Char} (h : ¬EndsBlank cs) : trimEnd cs = cs :=
  List.rdropWhile_eq_self_iff.2 fun hne hblank =>
    h ⟨_, List.getLast?_eq_some_getLast hne, hblank⟩

theorem not_endsBlank_trimEnd (cs : List Char) : ¬EndsBlank (trimEnd cs) := by
  rintro ⟨c, hlast, hblank⟩
  have hne : cs.rdropWhile isBlank ≠ [] := by
    intro hnil
    rw [show trimEnd cs = [] from hnil] at hlast
    cases hlast
  have hkept : ¬isBlank ((cs.rdropWhile isBlank).getLast hne) := List.rdropWhile_last_not _ _ hne
  rw [show trimEnd cs = cs.rdropWhile isBlank from rfl, List.getLast?_eq_some_getLast hne] at hlast
  rw [Option.some.inj hlast] at hkept
  exact hkept hblank

theorem startsPlain_trim (cs : List Char) : StartsPlain (trim cs) := by
  intro c hc
  rw [← trimStart_trimEnd, trimStart] at hc
  have := List.head?_dropWhile_not isBlank (trimEnd cs)
  rwa [hc] at this

theorem not_endsBlank_trim (cs : List Char) : ¬EndsBlank (trim cs) :=
  not_endsBlank_trimEnd (trimStart cs)

theorem StartsPlain.append {xs : List Char} (h : StartsPlain xs) (hne : xs ≠ [])
    (ys : List Char) : StartsPlain (xs ++ ys) := by
  intro c hc
  rw [List.head?_append_of_ne_nil _ hne] at hc
  exact h c hc

theorem trimStart_of_startsPlain {cs : List Char} (h : StartsPlain cs) : trimStart cs = cs := by
  cases cs with
  | nil => rfl
  | cons c cs => exact List.dropWhile_cons_of_neg (by simp [h c rfl])

/-- Nothing is taken off a text that neither begins nor ends with a blank. -/
theorem trim_of_plain {cs : List Char} (hstart : StartsPlain cs) (hend : ¬EndsBlank cs) :
    trim cs = cs := by
  rw [trim, trimStart_of_startsPlain hstart, trimEnd_of_not_endsBlank hend]

/-- Blanks at the end of a text are taken off its second part alone when the first does not end in
one. -/
theorem trimEnd_append_of_not_endsBlank {xs : List Char} (h : ¬EndsBlank xs) (ys : List Char) :
    trimEnd (xs ++ ys) = xs ++ trimEnd ys := by
  have hxs : xs.reverse.dropWhile isBlank = xs.reverse := by
    rw [← List.reverse_inj, List.reverse_reverse]
    exact trimEnd_of_not_endsBlank h
  rw [trimEnd, dropEndWhile, List.reverse_append, List.dropWhile_append]
  split
  · rename_i hnil
    rw [hxs, List.reverse_reverse, trimEnd, dropEndWhile, List.isEmpty_iff.1 hnil]
    simp
  · rw [List.reverse_append, List.reverse_reverse, trimEnd, dropEndWhile]

theorem trim_append_of_plain {xs : List Char} (hstart : StartsPlain xs) (hend : ¬EndsBlank xs)
    (hne : xs ≠ []) (ys : List Char) : trim (xs ++ ys) = xs ++ trimEnd ys := by
  rw [trim, trimStart_of_startsPlain (hstart.append hne ys),
    trimEnd_append_of_not_endsBlank hend]

/-! ## Replacing characters -/

/-- A replacement of characters that keeps every blank and whose images of other characters
neither are empty nor begin with a blank. -/
structure KeepsBlanks (f : Char → List Char) : Prop where
  blank : ∀ c, isBlank c = true → f c = [c]
  other : ∀ c, isBlank c = false → ∃ d ds, f c = d :: ds ∧ isBlank d = false

theorem trimStart_flatMap {f : Char → List Char} (hf : KeepsBlanks f) (cs : List Char) :
    trimStart (cs.flatMap f) = (trimStart cs).flatMap f := by
  induction cs with
  | nil => rfl
  | cons c cs ih =>
    cases hc : isBlank c with
    | true =>
      rw [List.flatMap_cons, hf.blank c hc]
      simpa [trimStart, hc] using ih
    | false =>
      obtain ⟨d, ds, hd, hdb⟩ := hf.other c hc
      simp [trimStart, hc, hd, hdb]

/-- Trimming commutes with a replacement that keeps blanks at both ends of an image. -/
theorem trim_flatMap {f : Char → List Char} (hf : KeepsBlanks f)
    (hr : KeepsBlanks fun c => (f c).reverse) (cs : List Char) :
    trim (cs.flatMap f) = (trim cs).flatMap f := by
  have hend (xs : List Char) : trimEnd (xs.flatMap f) = (trimEnd xs).flatMap f := by
    have := trimStart_flatMap hr xs.reverse
    simp only [trimStart] at this
    simp only [trimEnd, dropEndWhile]
    rw [List.reverse_flatMap, Function.comp_def, this, List.reverse_flatMap]
    simp [Function.comp_def]
  rw [trim, trimStart_flatMap hf, hend, ← trim]

end Chars

end BuildExpr
