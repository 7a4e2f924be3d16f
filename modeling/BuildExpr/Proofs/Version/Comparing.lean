import BuildExpr.Proofs.Evaluation.Answers
import BuildExpr.Proofs.Number.Arithmetic
import BuildExpr.Proofs.Text.Trimming
import BuildExpr.Proofs.Version.Texts

/-!
# Two ways to compare versions

What is read as a version is read as a loose version with the same figures
(`Version.loose?_of_reads`). The two comparisons fill up missing parts differently, with `-1` and
with zero, and the first place where that shows is the first place where a part is missing: there
the loose comparison says that the versions are equal, or it says the same as the other
(`Version.compareFilled`). So the functions of the tool that compare texts never contradict
`CompareTo` (`VersionFunctions.comparers_agree`).
-/

namespace BuildExpr

namespace Version

variable {s : String} {figures : List ℕ} {n : ℕ} {piece : List Char}

/-- Figures with zeros for those that are missing. -/
def zeroFilled (figures : List ℕ) (missing : ℕ) : List ℕ := figures ++ List.replicate missing 0

/-- Figures with `-1` for those that are missing. -/
def signFilled (figures : List ℕ) (missing : ℕ) : List ℤ :=
  figures.map (fun n : ℕ => (n : ℤ)) ++ List.replicate missing (-1)

/-! ## Reading a version loosely -/

theorem digit_or_blank_of_figure (h : IsFigure piece n) {c : Char} (hc : c ∈ piece) :
    Chars.isBlank c = true ∨ (Numeral.digit? 10 c).isSome = true := by
  obtain ⟨ws, us, hws, hus, hsplit⟩ := Chars.exists_trim piece
  rw [hsplit, List.mem_append, List.mem_append] at hc
  rcases hc with (hc | hc) | hc
  · exact .inl (hws c hc)
  · exact .inr (Numeral.isSome_digit?_of_read? h.1 c hc)
  · exact .inl (hus c hc)

/-- A character of a version text is a point, a blank or a digit. -/
theorem Reads.of_mem_trim (h : Reads s figures) {c : Char} (hc : c ∈ Chars.trim s.toList) :
    c = '.' ∨ Chars.isBlank c = true ∨ (Numeral.digit? 10 c).isSome = true := by
  rw [← Chars.join_splitOn '.' (Chars.trim s.toList)] at hc
  rcases Chars.mem_join hc with hpoint | ⟨piece, hpiece, hc⟩
  · exact .inl (by simpa using hpoint)
  · obtain ⟨i, hi, rfl⟩ := List.getElem_of_mem hpiece
    exact .inr (digit_or_blank_of_figure
      (h.pieces.get hi (h.pieces.length_eq ▸ hi)) hc)

/-- Nothing is taken off a text that has no sign of a label in it. -/
theorem withoutLabel_eq_trim {cs : List Char}
    (h : ∀ c ∈ Chars.trim cs, c ≠ 'v' ∧ c ≠ 'V' ∧ c ≠ '-' ∧ c ≠ '+') :
    withoutLabel cs = Chars.trim cs := by
  have hbehind : (Chars.trim cs).takeWhile (fun c => c != '-' && c != '+') = Chars.trim cs :=
    List.takeWhile_eq_self_iff.2 fun c hc => by simp [h c hc]
  rw [withoutLabel]
  split
  · rename_i htrim
    exact absurd rfl (h 'v' (by simp [htrim])).1
  · rename_i htrim
    exact absurd rfl (h 'V' (by simp [htrim])).2.1
  · exact hbehind

theorem withoutLabel_of_reads (h : Reads s figures) :
    withoutLabel s.toList = Chars.trim s.toList := by
  refine withoutLabel_eq_trim fun c hc => ?_
  rcases h.of_mem_trim hc with rfl | hc | hc
  · decide
  · refine ⟨?_, ?_, ?_, ?_⟩ <;> rintro rfl <;> cases hc
  · refine ⟨?_, ?_, ?_, ?_⟩ <;> rintro rfl <;> cases hc

theorem looseFigure?_of_figure (h : IsFigure piece n) : looseFigure? piece = some n := by
  have hfits : n < Numeral.bound32 := h.2.trans (by decide)
  rw [looseFigure?, h.1, Option.filter_some_pos (by simpa using hfits)]

theorem mapM_looseFigure?_of_figures {pieces : List (List Char)}
    (h : List.Forall₂ IsFigure pieces figures) : pieces.mapM looseFigure? = some figures := by
  induction h with
  | nil => rfl
  | cons hpiece _ ih => simp [List.mapM_cons, looseFigure?_of_figure hpiece, ih]

/-- A version text is a loose version with the same figures. -/
theorem loose?_of_reads (h : Reads s figures) :
    loose? s = some (zeroFilled figures (4 - figures.length)) := by
  have hlength := h.pieces.length_eq
  have hfour := h.le_four
  rw [loose?, withoutLabel_of_reads h, if_neg (by omega), mapM_looseFigure?_of_figures h.pieces]
  rfl

/-! ## Filling up -/

theorem toInt_figurePart (h : ∀ n ∈ figures, n < 2147483648) (i : ℕ) :
    (figurePart figures i).toInt = (figures[i]?).elim (-1) fun n => (n : ℤ) := by
  rw [figurePart]
  cases hi : figures[i]? with
  | none => rfl
  | some n => exact toInt_ofNat (h n (List.mem_of_getElem? hi))

theorem toInt_parts_ofFigures (h : Reads s figures) :
    (ofFigures figures).parts.map Int32.toInt = signFilled figures (4 - figures.length) := by
  have hpart := toInt_figurePart (lt_of_figures h.pieces)
  simp only [ofFigures, parts, List.map_cons, List.map_nil, hpart]
  rcases h.figures_cases with ⟨_, _, rfl⟩ | ⟨_, _, _, rfl⟩ | ⟨_, _, _, _, rfl⟩ <;> rfl

theorem compare_natCast (x y : ℕ) : Ord.compare (x : ℤ) (y : ℤ) = Ord.compare x y := by
  rw [Int.compare_eq_ite_lt, Nat.compare_eq_ite_lt]
  simp

/-- Zeros come behind no figures of the same number. -/
theorem compareLex_zeros (figures : List ℕ) :
    (List.replicate figures.length 0).compareLex Ord.compare figures = .eq ∨
      (List.replicate figures.length 0).compareLex Ord.compare figures = .lt := by
  induction figures with
  | nil => exact .inl List.compareLex_nil_nil
  | cons n figures ih =>
    rw [List.length_cons, List.replicate_succ, List.compareLex_cons_cons]
    cases n with
    | zero => exact ih
    | succ n => exact .inr (by simp [Nat.compare_eq_ite_lt])

theorem zeroFilled_cons (n : ℕ) (figures : List ℕ) (missing : ℕ) :
    zeroFilled (n :: figures) missing = n :: zeroFilled figures missing := rfl

theorem signFilled_cons (n : ℕ) (figures : List ℕ) (missing : ℕ) :
    signFilled (n :: figures) missing = (n : ℤ) :: signFilled figures missing := rfl

theorem length_zeroFilled (figures : List ℕ) (missing : ℕ) :
    (zeroFilled figures missing).length = figures.length + missing := by
  simp [zeroFilled]

/-- A side without figures is the lesser one when it is filled up with `-1`, and not the greater one
when it is filled up with zeros. -/
theorem compareFilled_nil (b : ℕ) (bs : List ℕ) {i j : ℕ} (h : i = (b :: bs).length + j) :
    ((zeroFilled [] i).compareLex Ord.compare (zeroFilled (b :: bs) j) = .eq ∨
      (zeroFilled [] i).compareLex Ord.compare (zeroFilled (b :: bs) j) = .lt) ∧
    (signFilled [] i).compareLex Ord.compare (signFilled (b :: bs) j) = .lt := by
  constructor
  · rw [h, ← length_zeroFilled]
    exact compareLex_zeros _
  · obtain ⟨rest, hi⟩ : ∃ rest, i = rest + 1 := ⟨bs.length + j, by simp [h]; omega⟩
    have hneg : Ord.compare (-1) (b : ℤ) = .lt := compare_lt_iff_lt.2 (by omega)
    rw [hi]
    show List.compareLex Ord.compare (-1 :: List.replicate rest (-1)) _ = .lt
    rw [signFilled_cons, List.compareLex_cons_cons, hneg]
    rfl

/-- Figures that are filled up with zeros compare as equal or as they do when they are filled up
with `-1`. -/
theorem compareFilled {as bs : List ℕ} {i j : ℕ} (h : as.length + i = bs.length + j) :
    (zeroFilled as i).compareLex Ord.compare (zeroFilled bs j) = .eq ∨
      (zeroFilled as i).compareLex Ord.compare (zeroFilled bs j) =
        (signFilled as i).compareLex Ord.compare (signFilled bs j) := by
  -- the first figures that differ decide both comparisons, if none is missing before
  induction as generalizing bs with
  | nil =>
    cases bs with
    | nil =>
      obtain rfl : i = j := by simpa using h
      exact .inl Std.ReflCmp.compare_self
    | cons b bs =>
      obtain ⟨hzero, hsign⟩ := compareFilled_nil b bs (by simpa using h)
      rw [hsign]
      exact hzero
  | cons a as ih =>
    cases bs with
    | nil =>
      obtain ⟨hzero, hsign⟩ := compareFilled_nil a as (by simpa using h.symm)
      have hswapZero : (zeroFilled (a :: as) i).compareLex Ord.compare (zeroFilled [] j) =
          ((zeroFilled [] j).compareLex Ord.compare (zeroFilled (a :: as) i)).swap :=
        Std.OrientedCmp.eq_swap
      have hswapSign : (signFilled (a :: as) i).compareLex Ord.compare (signFilled [] j) =
          ((signFilled [] j).compareLex Ord.compare (signFilled (a :: as) i)).swap :=
        Std.OrientedCmp.eq_swap
      rw [hswapZero, hswapSign, hsign]
      exact hzero.imp (congrArg Ordering.swap) (congrArg Ordering.swap)
    | cons b bs =>
      have hrest : as.length + i = bs.length + j := by
        simp only [List.length_cons] at h
        omega
      rw [zeroFilled_cons, zeroFilled_cons, signFilled_cons, signFilled_cons,
        List.compareLex_cons_cons, List.compareLex_cons_cons, compare_natCast]
      cases Ord.compare a b with
      | lt => exact .inr rfl
      | gt => exact .inr rfl
      | eq => exact ih hrest

/-- Where two texts are versions, the loose comparison says that they are equal, or what the
comparison of the versions says. -/
theorem compareLoose_of_parse {a b : String} {v w : Version} (ha : parse a = .ok v)
    (hb : parse b = .ok w) :
    ∃ o, compareLoose a b = .ok o ∧ (o = .eq ∨ o = v.compare w) := by
  obtain ⟨as, has⟩ := exists_reads ha
  obtain ⟨bs, hbs⟩ := exists_reads hb
  rw [parse_of_reads has, Except.ok.injEq] at ha
  rw [parse_of_reads hbs, Except.ok.injEq] at hb
  have hafour := has.le_four
  have hbfour := hbs.le_four
  rw [compareLoose, loose?_of_reads has, loose?_of_reads hbs, compare, ← ha, ← hb,
    toInt_parts_ofFigures has, toInt_parts_ofFigures hbs]
  exact ⟨_, rfl, compareFilled (by omega)⟩

end Version

namespace VersionFunctions

open Arguments FunctionTable

variable {a b : String} {u v : Value}

theorem answers_parse (s : String) :
    Answers "System.Version" "Parse" [.text s] (parse [.text s]) :=
  answers_of_resolve (resolveStatic_of_find (by rfl : _ = "system.version")
    (by rfl : _ = "parse") (by rfl) rfl)

theorem answers_parse_of_eq {w : Version} (h : Version.parse a = .ok w) :
    Answers "System.Version" "Parse" [.text a] (.ok (.version w)) := by
  have hvalue : parse [.text a] = .ok (.version w) := by
    show Value.version <$> Answer.of (Version.parse a) = _
    rw [h]
    rfl
  rw [← hvalue]
  exact answers_parse a

/-- What `Parse` reads is a version. -/
theorem exists_of_answers_parse (h : Answers "System.Version" "Parse" [.text a] (.ok v)) :
    ∃ w, Version.parse a = .ok w ∧ v = .version w := by
  have hparse : Value.version <$> Answer.of (Version.parse a) = .ok v :=
    h.unique (answers_parse a)
  cases hread : Version.parse a with
  | error e =>
    rw [hread] at hparse
    cases hparse
  | ok w =>
    rw [hread] at hparse
    cases hparse
    exact ⟨w, rfl, rfl⟩

/-- The functions of the tool that compare texts as loose versions, and what each says of the order
of the two. -/
def looseTests : List (String × (Ordering → Bool)) :=
  [("VersionEquals", (· == .eq)), ("VersionNotEquals", (· != .eq)),
    ("VersionLessThan", (· == .lt)), ("VersionLessThanOrEquals", (· != .gt)),
    ("VersionGreaterThan", (· == .gt)), ("VersionGreaterThanOrEquals", (· != .lt))]

theorem answers_loose {f : String × (Ordering → Bool)} (hf : f ∈ looseTests) (v w : Value) :
    Answers "MSBuild" f.1 [v, w] (loose f.2 [v, w]) := by
  simp only [looseTests, List.mem_cons, List.not_mem_nil, or_false] at hf
  rcases hf with rfl | rfl | rfl | rfl | rfl | rfl
  · exact ToolFunctions.answers_tool "versionequals" (by rfl) (by rfl) v w
  · exact ToolFunctions.answers_tool "versionnotequals" (by rfl) (by rfl) v w
  · exact ToolFunctions.answers_tool "versionlessthan" (by rfl) (by rfl) v w
  · exact ToolFunctions.answers_tool "versionlessthanorequals" (by rfl) (by rfl) v w
  · exact ToolFunctions.answers_tool "versiongreaterthan" (by rfl) (by rfl) v w
  · exact ToolFunctions.answers_tool "versiongreaterthanorequals" (by rfl) (by rfl) v w

theorem answers_loose_of_eq {f : String × (Ordering → Bool)} (hf : f ∈ looseTests) {o : Ordering}
    (h : Version.compareLoose a b = .ok o) :
    Answers "MSBuild" f.1 [.text a, .text b] (.ok (.bool (f.2 o))) := by
  have hvalue : loose f.2 [.text a, .text b] = .ok (.bool (f.2 o)) := by
    show (do return Value.bool (f.2 (← Answer.of (Version.compareLoose a b)))) = _
    rw [h]
    rfl
  rw [← hvalue]
  exact answers_loose hf (.text a) (.text b)

theorem memberAnswers_compareTo (u : Version) (v : Value) :
    MemberAnswers (.version u) "CompareTo" [v] (compareTo [.version u, v]) :=
  memberAnswers_of_find (show Text.foldAscii "System.Version" = _ from rfl)
    (by rfl : _ = "compareto") (by rfl) rfl

theorem memberAnswers_compareTo_text {u w : Version} (hb : Version.parse b = .ok w) :
    MemberAnswers (.version u) "CompareTo" [.text b] (.ok (.ofOrdering (u.compare w))) := by
  have hcompare : compareTo [.version u, .text b] = .ok (.ofOrdering (u.compare w)) := by
    have hversion : version [.version u, .text b] 1 = .ok w := by
      show wants _ 1 .version (Version.parse b).toOption = .ok w
      rw [hb]
      rfl
    show (do return Value.ofOrdering (u.compare (← version [.version u, .text b] 1))) = _
    rw [hversion]
    rfl
  rw [← hcompare]
  exact memberAnswers_compareTo u (.text b)

/-- For two texts that `Parse` reads, the functions of the tool that compare texts all have a
boolean for an answer. What is less or greater for them is so for `CompareTo`, and what is equal for
`CompareTo` is equal for them. -/
theorem comparers_agree (ha : Answers "System.Version" "Parse" [.text a] (.ok v))
    (hb : Answers "System.Version" "Parse" [.text b] (.ok u)) :
    (∃ o, ∀ f ∈ looseTests, Answers "MSBuild" f.1 [.text a, .text b] (.ok (.bool (f.2 o)))) ∧
    (Answers "MSBuild" "VersionLessThan" [.text a, .text b] (.ok (.bool true)) →
      MemberAnswers v "CompareTo" [.text b] (.ok (.int (-1)))) ∧
    (Answers "MSBuild" "VersionGreaterThan" [.text a, .text b] (.ok (.bool true)) →
      MemberAnswers v "CompareTo" [.text b] (.ok (.int 1))) ∧
    (MemberAnswers v "CompareTo" [.text b] (.ok (.int 0)) →
      Answers "MSBuild" "VersionEquals" [.text a, .text b] (.ok (.bool true))) := by
  obtain ⟨x, hx, rfl⟩ := exists_of_answers_parse ha
  obtain ⟨y, hy, rfl⟩ := exists_of_answers_parse hb
  obtain ⟨o, hcompare, ho⟩ := Version.compareLoose_of_parse hx hy
  have hloose (f : String × (Ordering → Bool)) (hf : f ∈ looseTests) :
      Answers "MSBuild" f.1 [.text a, .text b] (.ok (.bool (f.2 o))) :=
    answers_loose_of_eq hf hcompare
  have hmember : MemberAnswers (.version x) "CompareTo" [.text b] _ :=
    memberAnswers_compareTo_text hy
  -- one order stands behind all the answers, so each of them says what it is
  have hholds {f : String × (Ordering → Bool)} (hf : f ∈ looseTests)
      (h : Answers "MSBuild" f.1 [.text a, .text b] (.ok (.bool true))) : f.2 o = true := by
    cases hsame : f.2 o with
    | true => rfl
    | false =>
      have hanswer := h.unique (hloose f hf)
      rw [hsame] at hanswer
      cases hanswer
  refine ⟨⟨o, hloose⟩, fun hless => ?_, fun hgreater => ?_, fun hequal => ?_⟩
  · have htest := hholds (f := ("VersionLessThan", (· == .lt))) (by simp [looseTests]) hless
    obtain rfl : o = .lt := by simpa using htest
    rw [← ho.resolve_left (by decide)] at hmember
    exact hmember
  · have htest := hholds (f := ("VersionGreaterThan", (· == .gt))) (by simp [looseTests]) hgreater
    obtain rfl : o = .gt := by simpa using htest
    rw [← ho.resolve_left (by decide)] at hmember
    exact hmember
  · have horder : x.compare y = .eq := by
      have hanswer := hequal.unique hmember
      cases hcompare : x.compare y with
      | eq => rfl
      | lt | gt =>
        rw [hcompare] at hanswer
        exact absurd (Value.int.inj (Except.ok.inj hanswer)) (by decide)
    obtain rfl : o = .eq := by
      rw [horder, or_self] at ho
      exact ho
    exact hloose ("VersionEquals", (· == .eq)) (by simp [looseTests])

/-- A version of two parts and one of three, which is greater in its second part. -/
theorem comparers_agree_of_missing_part :
    Answers "System.Version" "Parse" [.text "1.2"] (.ok (.version ⟨1, 2, -1, -1⟩)) ∧
    Answers "System.Version" "Parse" [.text " 1.10.0 "] (.ok (.version ⟨1, 10, 0, -1⟩)) ∧
    Answers "MSBuild" "VersionLessThan" [.text "1.2", .text " 1.10.0 "] (.ok (.bool true)) ∧
    MemberAnswers (.version ⟨1, 2, -1, -1⟩) "CompareTo" [.text " 1.10.0 "] (.ok (.int (-1))) := by
  have ha : Answers "System.Version" "Parse" [.text "1.2"] (.ok (.version ⟨1, 2, -1, -1⟩)) := by
    have hparse : Version.parse "1.2" = .ok ⟨1, 2, -1, -1⟩ := by decide +kernel
    exact answers_parse_of_eq hparse
  have hb : Answers "System.Version" "Parse" [.text " 1.10.0 "]
      (.ok (.version ⟨1, 10, 0, -1⟩)) := by
    have hparse : Version.parse " 1.10.0 " = .ok ⟨1, 10, 0, -1⟩ := by decide +kernel
    exact answers_parse_of_eq hparse
  have hless : Answers "MSBuild" "VersionLessThan" [.text "1.2", .text " 1.10.0 "]
      (.ok (.bool true)) := by
    have hcompare : Version.compareLoose "1.2" " 1.10.0 " = .ok .lt := by decide +kernel
    exact answers_loose_of_eq (f := ("VersionLessThan", (· == .lt))) (by simp [looseTests]) hcompare
  exact ⟨ha, hb, hless, (comparers_agree ha hb).2.1 hless⟩

end VersionFunctions

end BuildExpr
