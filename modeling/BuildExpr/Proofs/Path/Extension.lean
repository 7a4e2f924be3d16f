import BuildExpr.Functions.Paths
import BuildExpr.Proofs.Path.Segments

/-!
# Changing the extension of a path

A path with another extension is its directory part, its stem and the new extension. An extension
that holds neither points nor separators is found again behind the point that is put in front of it
(`Path.extension_changeExtension`), it takes nothing with it when it is changed once more
(`Path.changeExtension_changeExtension`), and putting the extension of a path in its place changes
only how separators are written (`Path.changeExtension_extension`).

The functions `ChangeExtension` and `GetExtension` obey these laws too
(`PathFunctions.extension_lens`). An empty path has no extension to change there, and a changed path
is taken as an argument again only while it is not too long.
-/

namespace BuildExpr

namespace Path

variable {p name ext : List Char}

/-! ## The path without its extension -/

theorem slashed_directoryPart (p : List Char) : slashed (directoryPart p) = directoryPart p := by
  refine slashed_eq_self fun hc => backslash_not_mem_slashed p ?_
  rw [← directoryPart_append_fileName]
  exact List.mem_append_left _ hc

/-- A directory part is empty or ends with a slash. -/
theorem directoryPart_cases (p : List Char) :
    directoryPart p = [] ∨ ∃ d, directoryPart p = d ++ ['/'] := by
  rw [directoryPart]
  split
  · rename_i before after hcut
    exact .inr ⟨before, rfl⟩
  · exact .inl rfl

/-- Another last segment may stand behind a directory part. -/
theorem fileName_directoryPart_append (p : List Char) (h : Bare name) :
    fileName (directoryPart p ++ name) = name := by
  rcases directoryPart_cases p with hd | ⟨d, hd⟩
  · rw [hd, List.nil_append, fileName_of_bare h]
  · rw [hd, List.append_assoc, List.singleton_append, fileName_append_bare d h]

theorem directoryPart_directoryPart_append (p : List Char) (h : Bare name) :
    directoryPart (directoryPart p ++ name) = directoryPart p := by
  have hself := directoryPart_append_fileName (directoryPart p ++ name)
  rw [fileName_directoryPart_append p h, slashed_append, slashed_directoryPart,
    slashed_eq_self h.backslash_not_mem] at hself
  exact List.append_cancel_right hself

theorem bare_stem (p : List Char) : Bare (stem p) := by
  intro c hc
  refine bare_fileName p c ?_
  rw [stem] at hc
  split at hc
  · rename_i before after hcut
    rw [Chars.eq_of_cutLast?_eq_some hcut]
    exact List.mem_append_left _ hc
  · exact hc

theorem bare_stem_append (p : List Char) (h : Bare ext) : Bare (stem p ++ '.' :: ext) :=
  List.forall_mem_append.2 ⟨bare_stem p, List.forall_mem_cons.2 ⟨rfl, h⟩⟩

/-! ## The new extension -/

/-- A text that is put behind a path as its extension and nothing else. -/
structure IsExtension (ext : List Char) : Prop where
  ne_nil : ext ≠ []
  point : '.' ∉ ext
  bare : Bare ext

theorem changeExtension_none (p : List Char) :
    changeExtension p none = directoryPart p ++ stem p := rfl

/-- Only the path without its extension matters for another extension. -/
theorem changeExtension_congr {q : List Char}
    (h : changeExtension p none = changeExtension q none) (other : Option (List Char)) :
    changeExtension p other = changeExtension q other := by
  rw [changeExtension_none, changeExtension_none] at h
  simp only [changeExtension, h]

/-- An extension gets a point in front, behind the stem. -/
theorem changeExtension_some (p : List Char) (h : IsExtension ext) :
    changeExtension p (some ext) = directoryPart p ++ (stem p ++ '.' :: ext) := by
  have hhead : ext.head? ≠ some '.' := fun hc => h.point (List.mem_of_head? hc)
  simp only [changeExtension, beq_iff_eq, hhead, if_false, List.append_assoc]

theorem fileName_changeExtension (p : List Char) (h : IsExtension ext) :
    fileName (changeExtension p (some ext)) = stem p ++ '.' :: ext := by
  rw [changeExtension_some p h, fileName_directoryPart_append p (bare_stem_append p h.bare)]

/-- What was put in is what is found. -/
theorem extension_changeExtension (p : List Char) (h : IsExtension ext) :
    extension (changeExtension p (some ext)) = '.' :: ext := by
  rw [extension, fileName_changeExtension p h, Chars.cutLast?_append h.point]
  simp [h.ne_nil]

/-- Taking a new extension off leaves the path without the old one. -/
theorem changeExtension_some_none (p : List Char) (h : IsExtension ext) :
    changeExtension (changeExtension p (some ext)) none = changeExtension p none := by
  have hstem : stem (changeExtension p (some ext)) = stem p := by
    rw [stem, fileName_changeExtension p h, Chars.cutLast?_append h.point]
  have hdirectory : directoryPart (changeExtension p (some ext)) = directoryPart p := by
    rw [changeExtension_some p h, directoryPart_directoryPart_append p (bare_stem_append p h.bare)]
  rw [changeExtension_none, changeExtension_none, hstem, hdirectory]

/-- Of two changes the second counts. -/
theorem changeExtension_changeExtension (p : List Char) (h : IsExtension ext)
    (other : Option (List Char)) :
    changeExtension (changeExtension p (some ext)) other = changeExtension p other :=
  changeExtension_congr (changeExtension_some_none p h) other

/-- Putting in what is there changes nothing but the writing of separators. -/
theorem changeExtension_extension (h : extension p ≠ []) :
    changeExtension p (some (extension p)) = slashed p := by
  rcases hcut : Chars.cutLast? '.' (fileName p) with _ | ⟨before, ext⟩
  · simp [extension, hcut] at h
  · have hext : extension p = '.' :: ext := by
      simp only [extension, hcut] at h ⊢
      exact if_neg fun hempty => h (if_pos hempty)
    have hstem : stem p = before := by rw [stem, hcut]
    calc changeExtension p (some (extension p))
        = directoryPart p ++ stem p ++ '.' :: ext := by rw [hext]; rfl
      _ = directoryPart p ++ fileName p := by
          rw [hstem, List.append_assoc, ← Chars.eq_of_cutLast?_eq_some hcut]
      _ = slashed p := directoryPart_append_fileName p

end Path

namespace PathFunctions

open Arguments BuildExpr.Path

variable {v w : Value}

/-! ## The functions -/

/-- The new extension that a value stands for: no object stands for none. -/
def newExtension (w : Value) : Option (List Char) := (text? [w] 0).map String.toList

/-- A path with another extension as a value. -/
def changedValue (v w : Value) : Value :=
  .text (String.ofList (Path.changeExtension v.display.toList (newExtension w)))

theorem display_changedValue (v w : Value) :
    (changedValue v w).display.toList =
      Path.changeExtension v.display.toList (newExtension w) := by
  rw [changedValue, Value.display, String.toList_ofList]

theorem changedValue_changedValue {ext : List Char} (v : Value) (hw : newExtension w = some ext)
    (h : IsExtension ext) (other : Value) :
    changedValue (changedValue v w) other = changedValue v other := by
  have htwice := changeExtension_changeExtension v.display.toList h (newExtension other)
  rw [← hw, ← display_changedValue] at htwice
  exact congrArg (fun p => Value.text (String.ofList p)) htwice

theorem path_eq (v : Value) (more : List Value) :
    path (v :: more) 0 =
      Answer.of (Path.validate v.display.toList) >>= fun _ => pure v.display.toList := rfl

theorem changeExtension_of_valid (hvalid : Path.validate v.display.toList = .ok ()) (w : Value) :
    changeExtension [v, w] =
      if v.display.toList = [] then .ok (.text "") else .ok (changedValue v w) := by
  rw [changeExtension, path_eq, hvalid]
  show (if v.display.toList.isEmpty then answer [] else .ok (changedValue v w)) = _
  simp only [List.isEmpty_iff]
  rfl

theorem getExtension_of_valid (hvalid : Path.validate v.display.toList = .ok ()) :
    part Path.extension [v] = .ok (.text (String.ofList (Path.extension v.display.toList))) := by
  rw [part, ofPath, path_eq, hvalid]
  rfl

/-- The laws of paths and their extensions: an extension that was put in is found, of two changes
the second counts, and putting in what is there changes nothing but the writing of separators.

The function that changes extensions leaves an empty path as it is. For any other valid path it
obeys the laws too, as long as the changed path is valid itself. -/
theorem extension_lens :
    (∀ p ext, IsExtension ext → Path.extension (Path.changeExtension p (some ext)) = '.' :: ext ∧
      ∀ other, Path.changeExtension (Path.changeExtension p (some ext)) other =
        Path.changeExtension p other) ∧
    (∀ p, Path.extension p ≠ [] →
      Path.changeExtension p (some (Path.extension p)) = Path.slashed p) ∧
    ∀ v, Path.validate v.display.toList = .ok () →
      (v.display.toList = [] → ∀ w, changeExtension [v, w] = .ok (.text "")) ∧
      (v.display.toList ≠ [] → ∀ w ext, newExtension w = some ext → IsExtension ext →
        ∃ r, changeExtension [v, w] = .ok r ∧ (Path.validate r.display.toList = .ok () →
          part Path.extension [r] = .ok (.text (String.ofList ('.' :: ext))) ∧
          ∀ other, changeExtension [r, other] = changeExtension [v, other])) ∧
      (Path.extension v.display.toList ≠ [] → ∀ w, part Path.extension [v] = .ok w →
        changeExtension [v, w] = .ok (.text (String.ofList (Path.slashed v.display.toList)))) := by
  refine ⟨fun p ext h => ⟨extension_changeExtension p h, changeExtension_changeExtension p h⟩,
    fun p => changeExtension_extension, fun v hvalid => ⟨fun hv w => ?_, fun hv w ext hw h => ?_,
      fun hv w hw => ?_⟩⟩
  · rw [changeExtension_of_valid hvalid, if_pos hv]
  · have hdisplay := display_changedValue v w
    rw [hw] at hdisplay
    have hne : (changedValue v w).display.toList ≠ [] := by
      rw [hdisplay, changeExtension_some _ h]
      simp
    refine ⟨changedValue v w, by rw [changeExtension_of_valid hvalid, if_neg hv],
      fun hvalid' => ⟨?_, fun other => ?_⟩⟩
    · rw [getExtension_of_valid hvalid', hdisplay, extension_changeExtension _ h]
    · rw [changeExtension_of_valid hvalid', if_neg hne, changeExtension_of_valid hvalid, if_neg hv,
        changedValue_changedValue v hw h]
  · have hne : v.display.toList ≠ [] := by
      intro hempty
      rw [hempty] at hv
      exact hv rfl
    rw [getExtension_of_valid hvalid] at hw
    obtain rfl := Except.ok.inj hw
    have hnew : newExtension (.text (String.ofList (Path.extension v.display.toList))) =
        some (Path.extension v.display.toList) := by
      simp [newExtension, text?, value, Value.display]
    rw [changeExtension_of_valid hvalid, if_neg hne, changedValue, hnew,
      changeExtension_extension hv]

/-- A point in a directory, a backslash and two points in the name; another extension and none at
all are put in afterwards. -/
theorem extension_lens_of_archive :
    Path.extension (Path.changeExtension "a.b\\c.tar.gz".toList (some "cs".toList)) =
        ".cs".toList ∧
      Path.changeExtension (Path.changeExtension "a.b\\c.tar.gz".toList (some "cs".toList)) none =
        "a.b/c.tar".toList ∧
      Path.changeExtension "a.b\\c.tar.gz".toList
          (some (Path.extension "a.b\\c.tar.gz".toList)) = "a.b/c.tar.gz".toList ∧
      changeExtension [.text "", .text "cs"] = .ok (.text "") ∧
      (∃ r, changeExtension [.text "a.b\\c.tar.gz", .text "cs"] = .ok r) ∧
      changeExtension [.text "a.b\\c.tar.gz", .text ".gz"] = .ok (.text "a.b/c.tar.gz") := by
  have hext : IsExtension "cs".toList :=
    ⟨by decide, by decide, bare_of_not_mem (by decide) (by decide)⟩
  have hempty : Path.validate (Value.text "").display.toList = .ok () := by decide
  have hvalid : Path.validate (Value.text "a.b\\c.tar.gz").display.toList = .ok () := by
    decide
  obtain ⟨hlaws, hself, hfunction⟩ := extension_lens
  obtain ⟨hfound, htwice⟩ := hlaws "a.b\\c.tar.gz".toList _ hext
  obtain ⟨-, hput, hsame⟩ := hfunction _ hvalid
  have htext : Path.extension (Value.text "a.b\\c.tar.gz").display.toList = ".gz".toList := by
    decide
  have hgz : part Path.extension [.text "a.b\\c.tar.gz"] = .ok (.text ".gz") := by
    rw [getExtension_of_valid hvalid, htext]
    rfl
  have hslashed : String.ofList (Path.slashed (Value.text "a.b\\c.tar.gz").display.toList) =
      "a.b/c.tar.gz" := by decide
  refine ⟨hfound, (htwice none).trans (by decide),
    (hself _ (by decide)).trans (by decide +kernel), (hfunction _ hempty).1 rfl _, ?_,
    (hsame (by rw [htext]; decide) _ hgz).trans (by rw [hslashed])⟩
  obtain ⟨r, hr, -⟩ := hput (by decide) (.text "cs") _ rfl hext
  exact ⟨r, hr⟩

end PathFunctions

end BuildExpr
