import BuildExpr.Functions.Versions
import BuildExpr.Proofs.Except
import BuildExpr.Proofs.Number.Reading
import BuildExpr.Proofs.Text.Pieces
import Mathlib.Data.List.Forall2

/-!
# Versions as texts

The texts that are read as versions have two to four figures between points (`Version.Reads`,
`Version.parse_of_reads`, `Version.exists_reads`). The text of a version shows its parts up to the
first that is not given, and it is read as the version that has these parts and `-1` for the others
(`Version.parse_text`). That is the same version exactly if the parts that are not given are `-1`
and at the end (`Version.text_read_back_iff`), as they are in every version that the functions give
(`VersionFunctions.parse_text_of_new`).
-/

namespace BuildExpr

namespace Version

variable {s : String} {v : Version} {figures : List ℕ} {n : ℕ} {piece : List Char}

/-! ## Reading -/

/-- A piece of a version text is a figure with blanks around it that fits in 32 bits with sign. -/
def IsFigure (piece : List Char) (n : ℕ) : Prop :=
  Numeral.read? 10 (Chars.trim piece) = some n ∧ n < 2147483648

/-- A text that has two to four figures between its points. -/
structure Reads (s : String) (figures : List ℕ) : Prop where
  pieces : List.Forall₂ IsFigure (Chars.splitOn '.' (Chars.trim s.toList)) figures
  two_le : 2 ≤ figures.length
  le_four : figures.length ≤ 4

theorem Reads.figures_cases (h : Reads s figures) :
    (∃ major minor, figures = [major, minor]) ∨
      (∃ major minor build, figures = [major, minor, build]) ∨
      ∃ major minor build revision, figures = [major, minor, build, revision] := by
  have htwo := h.two_le
  have hfour := h.le_four
  match figures with
  | [] | [_] => simp at htwo
  | [major, minor] => exact .inl ⟨major, minor, rfl⟩
  | [major, minor, build] => exact .inr (.inl ⟨major, minor, build, rfl⟩)
  | [major, minor, build, revision] => exact .inr (.inr ⟨major, minor, build, revision, rfl⟩)
  | _ :: _ :: _ :: _ :: _ :: _ =>
    simp only [List.length_cons] at hfour
    omega

/-- The part at an index: a figure, or `-1` behind the last figure. -/
def figurePart (figures : List ℕ) (i : ℕ) : Int32 :=
  (figures[i]?).elim (-1) fun n => Int32.ofInt n

/-- The version with the parts that figures give. -/
def ofFigures (figures : List ℕ) : Version where
  major := figurePart figures 0
  minor := figurePart figures 1
  build := figurePart figures 2
  revision := figurePart figures 3

theorem toInt_ofNat (h : n < 2147483648) : (Int32.ofInt n).toInt = n :=
  Int32.toInt_ofInt_of_le (by omega) (by omega)

theorem not_neg_ofNat (h : n < 2147483648) : ¬ Int32.ofInt n < 0 := by
  rw [Int32.lt_iff_toInt_lt, toInt_ofNat h]
  exact not_lt.2 (Int.natCast_nonneg n)

theorem parsePart_eq_ok {whole : String} {x : Int32} :
    parsePart whole piece = .ok x ↔ ∃ n : ℕ, IsFigure piece n ∧ x = Int32.ofInt n := by
  rw [parsePart]
  cases hread : Numeral.read? 10 (Chars.trim piece) with
  | none => simp [IsFigure, hread]
  | some n =>
    by_cases hn : n < 2147483648
    · simp [IsFigure, hread, hn, eq_comm]
    · simp [IsFigure, hread, hn]

theorem mapM_parsePart_of_figures {whole : String} {pieces : List (List Char)}
    (h : List.Forall₂ IsFigure pieces figures) :
    pieces.mapM (parsePart whole) = .ok (figures.map fun n => Int32.ofInt n) := by
  induction h with
  | nil => rfl
  | cons hpiece _ ih =>
    exact Except.mapM_cons_eq_ok.2 ⟨_, _, parsePart_eq_ok.2 ⟨_, hpiece, rfl⟩, ih, rfl⟩

theorem exists_figures {whole : String} {pieces : List (List Char)} {read : List Int32}
    (h : pieces.mapM (parsePart whole) = .ok read) :
    ∃ figures, List.Forall₂ IsFigure pieces figures := by
  induction pieces generalizing read with
  | nil => exact ⟨[], .nil⟩
  | cons piece pieces ih =>
    obtain ⟨x, more, hx, hmore, -⟩ := Except.mapM_cons_eq_ok.1 h
    obtain ⟨n, hpiece, -⟩ := parsePart_eq_ok.1 hx
    obtain ⟨figures, hfigures⟩ := ih hmore
    exact ⟨n :: figures, .cons hpiece hfigures⟩

theorem lt_of_figures {pieces : List (List Char)} (h : List.Forall₂ IsFigure pieces figures) :
    ∀ n ∈ figures, n < 2147483648 := by
  induction h with
  | nil => simp
  | cons hpiece _ ih => exact List.forall_mem_cons.2 ⟨hpiece.2, ih⟩

theorem ofParts_of_figures {major minor : ℕ} (hmajor : major < 2147483648)
    (hminor : minor < 2147483648) (build revision : Int32) :
    ofParts (Int32.ofInt major) (Int32.ofInt minor) build revision =
      .ok ⟨Int32.ofInt major, Int32.ofInt minor, build, revision⟩ :=
  if_neg (not_or.2 ⟨not_neg_ofNat hmajor, not_neg_ofNat hminor⟩)

/-- Figures between points are read as the version that they give. -/
theorem parse_of_reads (h : Reads s figures) : parse s = .ok (ofFigures figures) := by
  have hlength := h.pieces.length_eq
  have htwo := h.two_le
  have hfour := h.le_four
  have hfits := lt_of_figures h.pieces
  rw [parse, if_neg (by omega), mapM_parsePart_of_figures h.pieces]
  rcases h.figures_cases with ⟨_, _, rfl⟩ | ⟨_, _, _, rfl⟩ | ⟨_, _, _, _, rfl⟩ <;>
    exact ofParts_of_figures (hfits _ (by simp)) (hfits _ (by simp)) _ _

/-- What is read as a version has figures between points. -/
theorem exists_reads (h : parse s = .ok v) : ∃ figures, Reads s figures := by
  rw [parse] at h
  split at h
  · cases h
  · rename_i hlength
    obtain ⟨read, hread, -⟩ := Except.bind_eq_ok.1 h
    obtain ⟨figures, hfigures⟩ := exists_figures hread
    have hsame := hfigures.length_eq
    exact ⟨figures, hfigures, by omega, by omega⟩

/-! ## Writing -/

/-- The figures that the text of a version shows. -/
def shownFigures (v : Version) : List ℕ := v.definedParts.map fun n => n.toInt.toNat

/-- A version as its text shows it: behind the first part that is not given none is given, and `-1`
stands for all of them. -/
def shown (v : Version) : Version where
  major := v.major
  minor := v.minor
  build := if v.build < 0 then -1 else v.build
  revision := if v.build < 0 ∨ v.revision < 0 then -1 else v.revision

theorem shown_eq_self_iff :
    v.shown = v ↔ (v.build < 0 → v.build = -1 ∧ v.revision = -1) ∧
      (v.revision < 0 → v.revision = -1) := by
  obtain ⟨major, minor, build, revision⟩ := v
  simp only [shown, Version.mk.injEq, true_and]
  by_cases hbuild : build < 0 <;> by_cases hrevision : revision < 0 <;>
    simp [hbuild, hrevision, eq_comm]

/-- The first two parts of a version are given. -/
def IsAccepted (v : Version) : Prop := 0 ≤ v.major ∧ 0 ≤ v.minor

theorem ofParts_eq_ok {major minor build revision : Int32} :
    ofParts major minor build revision = .ok v ↔
      v.IsAccepted ∧ v = ⟨major, minor, build, revision⟩ := by
  rw [ofParts]
  split
  · rename_i hneg
    refine iff_of_false (fun h => by cases h) ?_
    rintro ⟨⟨hmajor, hminor⟩, rfl⟩
    exact hneg.elim (Int32.not_lt.2 hmajor) (Int32.not_lt.2 hminor)
  · rename_i hneg
    rw [not_or, Int32.not_lt, Int32.not_lt] at hneg
    constructor
    · intro h
      cases h
      exact ⟨hneg, rfl⟩
    · rintro ⟨-, rfl⟩
      rfl

theorem definedParts_eq (h : v.IsAccepted) :
    v.definedParts = if v.build < 0 then [v.major, v.minor]
      else if v.revision < 0 then [v.major, v.minor, v.build] else v.parts := by
  have hpart (n : Int32) : decide (0 ≤ n) = !decide (n < 0) := by
    rw [← decide_not, decide_eq_decide, Int32.not_lt]
  by_cases hbuild : v.build < 0 <;> by_cases hrevision : v.revision < 0 <;>
    simp [definedParts, parts, h.1, h.2, hpart v.build, hpart v.revision, hbuild, hrevision]

theorem nonneg_of_mem_definedParts : ∀ n ∈ v.definedParts, 0 ≤ n :=
  fun n hn => by simpa using List.mem_takeWhile_imp hn

theorem length_shownFigures (h : v.IsAccepted) :
    2 ≤ v.shownFigures.length ∧ v.shownFigures.length ≤ 4 := by
  rw [shownFigures, List.length_map]
  constructor
  · rw [definedParts_eq h]
    split
    · exact le_rfl
    · split <;> simp [parts]
  · exact (List.takeWhile_prefix _).length_le

theorem ofInt_toNat {n : Int32} (h : 0 ≤ n) : Int32.ofInt n.toInt.toNat = n := by
  have hn : 0 ≤ n.toInt := Int32.le_iff_toInt_le.1 h
  rw [Int.toNat_of_nonneg hn, Int32.ofInt_toInt]

theorem ofFigures_shownFigures (h : v.IsAccepted) : ofFigures v.shownFigures = v.shown := by
  have hpart (i : ℕ) : figurePart v.shownFigures i = v.definedParts[i]?.getD (-1) := by
    rw [figurePart, shownFigures, List.getElem?_map]
    cases hi : v.definedParts[i]? with
    | none => rfl
    | some n => exact ofInt_toNat (nonneg_of_mem_definedParts n (List.mem_of_getElem? hi))
  simp only [ofFigures, hpart, definedParts_eq h, shown]
  by_cases hbuild : v.build < 0 <;> by_cases hrevision : v.revision < 0 <;>
    simp [parts, hbuild, hrevision]

/-- Parts that are given, with points between them. -/
theorem joinParts_eq {ns : List Int32} (h : ∀ n ∈ ns, 0 ≤ n) :
    joinParts ns = String.ofList
      (Chars.join ['.'] ((ns.map fun n => n.toInt.toNat).map Numeral.decimal)) := by
  rw [joinParts, List.map_map]
  congr 2
  refine List.map_congr_left fun n hn => ?_
  have hn : 0 ≤ n.toInt := Int32.le_iff_toInt_le.1 (h n hn)
  rw [Integer.chars, if_neg (not_lt.2 hn)]
  show Numeral.decimal n.toInt.natAbs = Numeral.decimal n.toInt.toNat
  congr 1
  omega

theorem toList_text (h : v.IsAccepted) :
    v.text.toList = Chars.join ['.'] (v.shownFigures.map Numeral.decimal) := by
  have htext : v.text = joinParts v.definedParts := by rw [text, definedParts_eq h]
  rw [htext, joinParts_eq nonneg_of_mem_definedParts, String.toList_ofList]
  rfl

theorem read?_decimal (n : ℕ) : Numeral.read? 10 (Numeral.decimal n) = some n :=
  Numeral.read?_text (by decide) (by decide) n

theorem splitOn_text (h : v.IsAccepted) :
    Chars.splitOn '.' v.text.toList = v.shownFigures.map Numeral.decimal := by
  have hne : v.shownFigures ≠ [] := by
    have := (length_shownFigures h).1
    rintro he
    simp [he] at this
  rw [toList_text h]
  refine Chars.splitOn_join (by simpa using hne) fun piece hpiece => ?_
  obtain ⟨n, -, rfl⟩ := List.mem_map.1 hpiece
  exact Numeral.not_mem_of_read? (read?_decimal n) rfl

theorem trim_text (h : v.IsAccepted) : Chars.trim v.text.toList = v.text.toList := by
  refine Chars.trim_of_not_blank fun c hc => ?_
  rw [toList_text h] at hc
  rcases Chars.mem_join hc with rfl | ⟨piece, hpiece, hc⟩
  · rfl
  · obtain ⟨n, -, rfl⟩ := List.mem_map.1 hpiece
    exact Numeral.isBlank_of_digit? (Numeral.isSome_digit?_of_read? (read?_decimal n) c hc)

/-- The text of a version has the figures of the parts that it shows. -/
theorem reads_text (h : v.IsAccepted) : Reads v.text v.shownFigures where
  pieces := by
    rw [trim_text h, splitOn_text h, List.forall₂_map_left_iff, List.forall₂_same]
    intro n hn
    refine ⟨?_, ?_⟩
    · rw [Numeral.trim_of_read? (read?_decimal n), read?_decimal n]
    · obtain ⟨x, -, rfl⟩ := List.mem_map.1 hn
      have := x.toInt_lt
      omega
  two_le := (length_shownFigures h).1
  le_four := (length_shownFigures h).2

/-- The text of a version is read as what it shows of the version. -/
theorem parse_text (h : v.IsAccepted) : parse v.text = .ok v.shown := by
  rw [parse_of_reads (reads_text h), ofFigures_shownFigures h]

theorem textOfFields_eq (h : v.IsAccepted) {k : ℕ}
    (hk : k ≤ (Text.splitOn '.' v.text).length) :
    v.textOfFields k = .ok (Text.join "." ((Text.splitOn '.' v.text).take k)) := by
  have hsplit : Text.splitOn '.' v.text =
      (v.shownFigures.map Numeral.decimal).map String.ofList := by
    rw [Text.splitOn, splitOn_text h]
  rw [hsplit, List.length_map, List.length_map, shownFigures, List.length_map] at hk
  obtain ⟨rest, hrest⟩ : v.definedParts <+: v.parts := List.takeWhile_prefix _
  have htake : v.parts.take k = v.definedParts.take k := by
    rw [← hrest, List.take_append_of_le_length hk]
  rw [textOfFields, if_neg (not_lt.2 hk), htake,
    joinParts_eq fun n hn => nonneg_of_mem_definedParts n (List.mem_of_mem_take hn), hsplit,
    Text.join]
  simp [shownFigures, List.map_take, Function.comp_def]

/-- A version whose parts are given up to one of them, with `-1` for the others. -/
theorem parse_text_of_given {major minor build revision : Int32} (hmajor : 0 ≤ major)
    (hminor : 0 ≤ minor) (hbuild : 0 ≤ build ∨ (build = -1 ∧ revision = -1))
    (hrevision : 0 ≤ revision ∨ revision = -1) :
    parse (text ⟨major, minor, build, revision⟩) = .ok ⟨major, minor, build, revision⟩ := by
  have haccepted : IsAccepted ⟨major, minor, build, revision⟩ := ⟨hmajor, hminor⟩
  rw [parse_text haccepted, Except.ok.injEq, shown_eq_self_iff]
  exact ⟨fun hneg => hbuild.resolve_left (Int32.not_le.2 hneg),
    fun hneg => hrevision.resolve_left (Int32.not_le.2 hneg)⟩

/-- A version that is read has nothing but what its text shows. -/
theorem parse_text_of_parse (h : parse s = .ok v) : parse v.text = .ok v := by
  obtain ⟨figures, hreads⟩ := exists_reads h
  rw [parse_of_reads hreads, Except.ok.injEq] at h
  have hfits := lt_of_figures hreads.pieces
  have hpart {n : ℕ} (hn : n ∈ figures) : 0 ≤ Int32.ofInt n :=
    Int32.not_lt.1 (not_neg_ofNat (hfits n hn))
  rw [← h]
  rcases hreads.figures_cases with ⟨_, _, rfl⟩ | ⟨_, _, _, rfl⟩ | ⟨_, _, _, _, rfl⟩
  · exact parse_text_of_given (hpart (by simp)) (hpart (by simp)) (.inr ⟨rfl, rfl⟩) (.inr rfl)
  · exact parse_text_of_given (hpart (by simp)) (hpart (by simp)) (.inl (hpart (by simp)))
      (.inr rfl)
  · exact parse_text_of_given (hpart (by simp)) (hpart (by simp)) (.inl (hpart (by simp)))
      (.inl (hpart (by simp)))

/-- A version prints and parses back exactly if `-1` stands for each part that is not given and
none is given behind one that is not. Whatever its parts are, its text is read as some version, and
its first parts as text are the first parts of that text. -/
theorem text_read_back_iff {major minor build revision : Int32}
    (h : ofParts major minor build revision = .ok v) :
    (∃ w, parse v.text = .ok w) ∧
    (parse v.text = .ok v ↔
      (build < 0 → build = -1 ∧ revision = -1) ∧ (revision < 0 → revision = -1)) ∧
    ∀ k ≤ (Text.splitOn '.' v.text).length,
      v.textOfFields k = .ok (Text.join "." ((Text.splitOn '.' v.text).take k)) := by
  obtain ⟨haccepted, rfl⟩ := ofParts_eq_ok.1 h
  have hparse := parse_text haccepted
  refine ⟨⟨_, hparse⟩, ?_, fun k hk => textOfFields_eq haccepted hk⟩
  rw [hparse, Except.ok.injEq, shown_eq_self_iff]

/-- A version of three parts, and one whose last part is less than `-1`. -/
theorem text_read_back_iff_of_parts :
    ofParts 1 10 0 (-1) = .ok ⟨1, 10, 0, -1⟩ ∧ parse "1.10.0" = .ok ⟨1, 10, 0, -1⟩ ∧
      textOfFields ⟨1, 10, 0, -1⟩ 2 = .ok "1.10" ∧
      ofParts 1 2 3 (-5) = .ok ⟨1, 2, 3, -5⟩ ∧ parse "1.2.3" ≠ .ok ⟨1, 2, 3, -5⟩ := by
  have hthree : ofParts 1 10 0 (-1) = .ok ⟨1, 10, 0, -1⟩ := rfl
  have hfour : ofParts 1 2 3 (-5) = .ok ⟨1, 2, 3, -5⟩ := rfl
  have htext : text ⟨1, 10, 0, -1⟩ = "1.10.0" := by decide +kernel
  have hother : text ⟨1, 2, 3, -5⟩ = "1.2.3" := by decide +kernel
  have hsplit : Text.splitOn '.' "1.10.0" = ["1", "10", "0"] := by decide +kernel
  have hfields : Text.join "." (["1", "10", "0"].take 2) = "1.10" := by decide +kernel
  obtain ⟨-, hback, hfirst⟩ := text_read_back_iff hthree
  obtain ⟨-, hnot, -⟩ := text_read_back_iff hfour
  rw [htext] at hback hfirst
  rw [hother] at hnot
  rw [hsplit] at hfirst
  refine ⟨hthree, hback.2 (by decide), ?_, hfour, fun h => ?_⟩
  · rw [hfirst 2 (by decide), hfields]
  · exact absurd (hnot.1 h) (by decide)

/-- A revision behind a build that is not given is not shown, so it is lost. -/
theorem exists_text_not_read_back :
    ofParts 1 2 (-1) 5 = .ok ⟨1, 2, -1, 5⟩ ∧ text ⟨1, 2, -1, 5⟩ = "1.2" ∧
      parse "1.2" = .ok ⟨1, 2, -1, -1⟩ ∧ parse "1.2" ≠ .ok ⟨1, 2, -1, 5⟩ := by
  have hparse : parse "1.2" = .ok ⟨1, 2, -1, -1⟩ := by decide +kernel
  refine ⟨rfl, by decide +kernel, hparse, ?_⟩
  rw [hparse]
  decide

end Version

namespace VersionFunctions

open Arguments

variable {args : List Value} {v : Version}

theorem nonneg_of_part {i : ℕ} {n : Int32} (h : part args i = .ok n) : 0 ≤ n := by
  obtain ⟨x, hx, hn⟩ := Except.bind_eq_ok.1 h
  obtain ⟨y, -, hy⟩ := Except.bind_eq_ok.1 hx
  split at hy
  · rename_i hfits
    cases hy
    split at hn
    · cases hn
    · rename_i hneg
      cases hn
      rw [Int64.lt_iff_toInt_lt, not_lt] at hneg
      have hnonneg : 0 ≤ x.toInt := hneg
      have hsmall : x.toInt < 2147483648 := by
        simp only [Integer.fits32, Bool.and_eq_true, decide_eq_true_eq] at hfits
        exact hfits.2
      rw [Int32.le_iff_toInt_le, Int64.toInt_toInt32, Int.bmod_eq_of_le (by omega) (by omega)]
      exact hnonneg
  · cases hy

/-- Every version that `new` gives prints and parses back. -/
theorem parse_text_of_new (h : new args = .ok (.version v)) : Version.parse v.text = .ok v := by
  rw [new] at h
  split at h
  · obtain ⟨w, hw, hv⟩ := Except.map_eq_ok.1 h
    cases hv
    cases hparse : Version.parse (text args 0) with
    | error e =>
      rw [hparse] at hw
      cases hw
    | ok w =>
      rw [hparse] at hw
      cases hw
      exact Version.parse_text_of_parse hparse
  · obtain ⟨ns, hns, h⟩ := Except.bind_eq_ok.1 h
    have hpart := Except.forall_of_mapM_eq_ok hns fun i _ n hn => nonneg_of_part hn
    split at h
    · cases h
      exact Version.parse_text_of_given (hpart _ (by simp)) (hpart _ (by simp)) (.inr ⟨rfl, rfl⟩)
        (.inr rfl)
    · cases h
      exact Version.parse_text_of_given (hpart _ (by simp)) (hpart _ (by simp))
        (.inl (hpart _ (by simp))) (.inr rfl)
    · cases h
      exact Version.parse_text_of_given (hpart _ (by simp)) (hpart _ (by simp))
        (.inl (hpart _ (by simp))) (.inl (hpart _ (by simp)))
    · cases h

end VersionFunctions

end BuildExpr
