import BuildExpr.Item.Metadata
import BuildExpr.Proofs.Path.Segments
import BuildExpr.Proofs.Text.Escaping

/-!
# Metadata of the path of an item

The full path of an item is resolved from the directory of its project, its file name is read off
the include as it is written. They line up: root, directory, file name and extension make up the
full path, and relative directory, file name and extension the include with slashes
(`path_metadata_reassemble`). The exception are includes that end with a point: resolving takes out
the segments `.` and `..`, and a point at the end of a name belongs to no extension.
-/

namespace BuildExpr

namespace Item

/-! ## The parts of a path -/

theorem namePart_stem (p : List Char) : namePart Path.stem p = Path.stem p := by
  rw [namePart]
  split
  · rename_i h
    rw [Path.stem, Path.fileName_of_endsWithSeparator h]
    rfl
  · rfl

theorem namePart_extension (p : List Char) : namePart Path.extension p = Path.extension p := by
  rw [namePart]
  split
  · rename_i h
    rw [Path.extension, Path.fileName_of_endsWithSeparator h]
    rfl
  · rfl

theorem withTrailingSlash_root (p : List Char) :
    Path.withTrailingSlash (Path.root p) = Path.root p := by
  rcases Path.root_eq p with h | h <;> rw [h] <;> rfl

/-- The directory part of a full path begins with its root. -/
theorem root_append_directoryWithoutRoot {p : List Char} (hp : Path.slashed p = p) :
    Path.root p ++ directoryWithoutRoot p = Path.directoryPart p := by
  have hparts := Path.directoryPart_append_fileName p
  have hroot := Path.root_append_drop p
  rw [hp] at hparts hroot
  rw [directoryWithoutRoot]
  rcases Path.root_eq p with h | h
  · rw [h]
    rfl
  · rw [h] at hroot ⊢
    cases hd : Path.directoryPart p with
    | nil =>
      -- a path of one segment is not rooted
      rw [hd, List.nil_append] at hparts
      have hslash : '/' ∈ Path.fileName p := by
        rw [hparts, ← hroot]
        simp
      exact absurd hslash (Path.bare_fileName p).not_mem
    | cons c d =>
      rw [hd, ← hroot] at hparts
      obtain rfl : c = '/' := (List.cons.inj hparts).1
      rfl

/-! ## Values -/

variable {w : World} {item : Item}

/-- A computed name has the escaped form of what is computed. -/
theorem reservedMetadata_eq_ok {r : Reserved} (hr : r ≠ .identity) (hr' : r ≠ .recursiveDir)
    {value : String} :
    item.reservedMetadata w r = .ok value ↔
      ∃ p, item.computed w r = .ok p ∧ Text.escape (String.ofList p) = value := by
  have h : item.reservedMetadata w r =
      (do return Text.escape (String.ofList (← item.computed w r))) := by
    cases r <;> first | rfl | contradiction
  rw [h, Except.bind_eq_ok]
  exact exists_congr fun p => and_congr_right fun _ => by simp [pure, Except.pure]

/-- A full path that can be computed comes from a valid include, and has its last segment unless
that ends with a point. -/
theorem fileName_fullPath {p : List Char} (h : item.fullPath w = .ok p)
    (hname : (Path.fileName item.includePath).getLast? ≠ some '.') :
    Path.validate item.includePath = .ok () ∧ Path.slashed p = p ∧
      Path.fileName p = Path.fileName item.includePath := by
  rw [fullPath] at h
  split at h
  · cases h
  · rename_i hempty
    exact Path.fileName_full h (by simpa using hempty) hname

theorem computed_includePart {part : List Char → List Char}
    (h : Path.validate item.includePath = .ok ()) :
    item.includePart part = .ok (part item.includePath) := by
  rw [includePart, h]
  rfl

/-- The path metadata of an item whose full path can be computed and whose include does not end
with a point make up the full path, and the include with slashes. -/
theorem path_metadata_reassemble {full : String}
    (hfull : item.metadataValue w "FullPath" = .ok full)
    (hname : (Path.fileName item.includePath).getLast? ≠ some '.') :
    ∃ root directory name extension relative,
      item.metadataValue w "RootDir" = .ok root ∧
      item.metadataValue w "Directory" = .ok directory ∧
      item.metadataValue w "Filename" = .ok name ∧
      item.metadataValue w "Extension" = .ok extension ∧
      item.metadataValue w "RelativeDir" = .ok relative ∧
      root ++ directory ++ name ++ extension = full ∧
      relative ++ name ++ extension =
        Text.escape (String.ofList (Path.slashed item.includePath)) := by
  have hvalue {r : Reserved} (hr : r ≠ .identity) (hr' : r ≠ .recursiveDir) {p : List Char}
      (hp : item.computed w r = .ok p) :
      item.reservedMetadata w r = .ok (Text.escape (String.ofList p)) :=
    (reservedMetadata_eq_ok hr hr').2 ⟨p, hp, rfl⟩
  obtain ⟨p, hp, rfl⟩ := (reservedMetadata_eq_ok (r := .fullPath) nofun nofun).1 hfull
  replace hp : item.fullPath w = .ok p := hp
  obtain ⟨hvalid, hslashed, hlast⟩ := fileName_fullPath hp hname
  have hroot : item.computed w .rootDir = .ok (Path.root p) := by
    rw [computed, hp, ← withTrailingSlash_root p]
    rfl
  have hdirectory : item.computed w .directory = .ok (directoryWithoutRoot p) := by
    rw [computed, hp]
    rfl
  have hstem : item.computed w .filename = .ok (Path.stem item.includePath) := by
    rw [computed, computed_includePart hvalid, namePart_stem]
  have hextension : item.computed w .extension = .ok (Path.extension item.includePath) := by
    rw [computed, computed_includePart hvalid, namePart_extension]
  have hrelative : item.computed w .relativeDir = .ok (Path.directoryPart item.includePath) :=
    computed_includePart hvalid
  refine ⟨_, _, _, _, _, hvalue (r := .rootDir) nofun nofun hroot,
    hvalue (r := .directory) nofun nofun hdirectory, hvalue (r := .filename) nofun nofun hstem,
    hvalue (r := .extension) nofun nofun hextension,
    hvalue (r := .relativeDir) nofun nofun hrelative, ?_, ?_⟩
  · calc _ = Text.escape (String.ofList (Path.root p ++ directoryWithoutRoot p ++
          (Path.stem item.includePath ++ Path.extension item.includePath))) := by
          simp only [String.ofList_append, Text.escape_append, String.append_assoc]
      _ = Text.escape (String.ofList (Path.directoryPart p ++ Path.fileName p)) := by
          rw [root_append_directoryWithoutRoot hslashed, Path.stem_append_extension hname, hlast]
      _ = Text.escape (String.ofList p) := by
          rw [Path.directoryPart_append_fileName, hslashed]
  · calc _ = Text.escape (String.ofList (Path.directoryPart item.includePath ++
          (Path.stem item.includePath ++ Path.extension item.includePath))) := by
          simp only [String.ofList_append, Text.escape_append, String.append_assoc]
      _ = Text.escape (String.ofList (Path.slashed item.includePath)) := by
          rw [Path.stem_append_extension hname, Path.directoryPart_append_fileName]

/-- An include with an escape, both separators, `..`, a doubled separator and two points in its
last segment. -/
theorem path_metadata_reassemble_of_project :
    ∃ (w : World) (item : Item) (root directory name extension relative : String),
      w.current = ['/'] ∧ item.spec = "src\\..//./lib\\a%3bb.tar.gz" ∧
      item.definingProject = some "/pro%27j/p.proj" ∧
      item.metadataValue w "FullPath" = .ok "/pro%27j/lib/a%3bb.tar.gz" ∧
      (Path.fileName item.includePath).getLast? ≠ some '.' ∧
      item.metadataValue w "RootDir" = .ok root ∧
      item.metadataValue w "Directory" = .ok directory ∧
      item.metadataValue w "Filename" = .ok name ∧
      item.metadataValue w "Extension" = .ok extension ∧
      item.metadataValue w "RelativeDir" = .ok relative ∧
      root ++ directory ++ name ++ extension = "/pro%27j/lib/a%3bb.tar.gz" ∧
      relative ++ name ++ extension = "src/..//./lib/a%3bb.tar.gz" := by
  let w : World := { current := ['/'], files := { now := DateTime.epoch } }
  let item : Item :=
    { itemType := "I", spec := "src\\..//./lib\\a%3bb.tar.gz"
      definingProject := some "/pro%27j/p.proj" }
  have hfull : item.metadataValue w "FullPath" = .ok "/pro%27j/lib/a%3bb.tar.gz" := by
    decide +kernel
  have hname : (Path.fileName item.includePath).getLast? ≠ some '.' := by decide +kernel
  obtain ⟨root, directory, name, extension, relative, hroot, hdirectory, hstem, hextension,
    hrelative, hwhole, hinclude⟩ := path_metadata_reassemble hfull hname
  exact ⟨w, item, root, directory, name, extension, relative, rfl, rfl, rfl, hfull, hname, hroot,
    hdirectory, hstem, hextension, hrelative, hwhole, hinclude.trans (by decide +kernel)⟩

end Item

end BuildExpr
