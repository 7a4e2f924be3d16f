import BuildExpr.Proofs.Evaluation.Answers
import BuildExpr.Proofs.Number.IntegerTexts
import BuildExpr.Proofs.Source.Closing

/-!
# Filling a template

A template is put together from literal texts, whose braces are written twice, and places `{i}`.
Each part is read off the front of a template whatever stands behind it
(`Template.fill_written_append`), so a run of braces where a literal text meets a place is taken
apart as it was put together. `TextFunctions.format_template`: `Format` gives the literal texts with
the texts of the arguments between them, and refuses a place for which there is no argument.
-/

namespace BuildExpr

namespace Template

/-- A part of a template: literal text, or the place of the argument at an index. -/
inductive Part
  | literal (s : String)
  | place (index : ℕ)

/-- A character of literal text as it is written in a template: a brace is doubled. -/
def literalChar (c : Char) : List Char := if c = opening ∨ c = closing then [c, c] else [c]

namespace Part

/-- A part as it is written in a template. -/
def written : Part → List Char
  | literal s => s.toList.flatMap literalChar
  | place i => opening :: (Numeral.decimal i ++ [closing])

/-- What a part gives: its text, or the text of the argument. -/
def filled (values : List Value) : Part → List Char
  | literal s => s.toList
  | place i => (Arguments.text values i).toList

end Part

/-- The template made of parts. -/
def written (parts : List Part) : String := String.ofList (parts.flatMap Part.written)

/-- The literal texts with the texts of the arguments in their places. -/
def filled (values : List Value) (parts : List Part) : String :=
  String.ofList (parts.flatMap (Part.filled values))

variable {values : List Value} {c : Char} {cs : List Char}

/-! ## Literal text -/

theorem fill_cons_of_ne (ho : c ≠ opening) (hc : c ≠ closing) (cs : List Char) :
    fill values (c :: cs) = (fill values cs).map (c :: ·) := by
  rw [fill.eq_def]
  simp only [beq_iff_eq, ho, hc, if_false]

/-- A character of literal text is read in front of anything. -/
theorem fill_literalChar_append (c : Char) (cs : List Char) :
    fill values (literalChar c ++ cs) = (fill values cs).map (c :: ·) := by
  rw [literalChar]
  split
  · rename_i h
    rcases h with rfl | rfl <;>
    · rw [List.cons_append, List.singleton_append, fill]
      rfl
  · rename_i h
    rw [not_or] at h
    exact fill_cons_of_ne h.1 h.2 cs

theorem fill_literal_append (xs cs : List Char) :
    fill values (xs.flatMap literalChar ++ cs) = (fill values cs).map (xs ++ ·) := by
  induction xs with
  | nil => cases h : fill values cs <;> simp [h, Except.map]
  | cons x xs ih =>
    rw [List.flatMap_cons, List.append_assoc, fill_literalChar_append, ih]
    cases fill values cs <;> rfl

/-! ## Places -/

/-- Behind an opening brace stands what is written between it and the next closing brace. -/
theorem fill_place {item after : List Char} (hc : c ≠ opening)
    (hcut : Chars.cut? closing (c :: cs) = some (item, after)) :
    fill values (opening :: c :: cs) =
      place values item >>= fun text => (fill values after).map (text ++ ·) := by
  rw [fill, if_pos (beq_self_eq_true opening), if_neg (by simpa using hc)]
  split
  · rename_i h
    rw [hcut] at h
    cases h
  · rename_i h
    rw [hcut] at h
    obtain ⟨rfl, rfl⟩ := Prod.mk.inj (Option.some.inj h)
    cases place values item with
    | error e => rfl
    | ok text => cases fill values after <;> rfl

theorem pad_zero (cs : List Char) : pad 0 cs = cs := by
  rw [pad, if_neg (by decide)]
  simp

theorem render_nil (v : Value) : render v [] = .ok v.display := by
  cases v <;> rfl

/-- A place that is an index and nothing else takes the text of that argument. -/
theorem place_decimal (hcount : values.length ≤ Numeral.bound64) (i : ℕ) :
    place values (Numeral.decimal i) =
      if i < values.length then .ok (Arguments.text values i).toList
      else .error .formatIndex := by
  have hread : Numeral.read? 10 (Numeral.decimal i) = some i :=
    Numeral.read?_text (by decide) (by decide) i
  have hcut {sep : Char} (hsep : Numeral.digit? 10 sep = none) :
      Chars.cut? sep (Numeral.decimal i) = none :=
    Chars.cut?_eq_none.2 (Numeral.not_mem_of_read? hread hsep)
  have hindex : (Numeral.readBounded? Numeral.bound64 (Numeral.decimal i)).bind (values[·]?) =
      values[i]? := by
    rw [Numeral.readBounded?_of_read? hread]
    split
    · rfl
    · exact (List.getElem?_eq_none (by omega)).symm
  have hcolon : Chars.cut? ':' (Numeral.decimal i) = none := hcut rfl
  have hcomma : Chars.cut? ',' (Numeral.decimal i) = none := hcut rfl
  rw [place, hcolon]
  simp only [Option.getD_none, hcomma, Numeral.trim_of_read? hread, hindex]
  by_cases hi : i < values.length
  · have hvalue : Arguments.value values i = values[i] := by
      rw [Arguments.value, List.getD_eq_getElem?_getD, List.getElem?_eq_getElem hi,
        Option.getD_some]
    rw [if_pos hi, List.getElem?_eq_getElem hi, Arguments.text, hvalue]
    simp only [render_nil, pad_zero]
    rfl
  · rw [if_neg hi, List.getElem?_eq_none (by omega)]

/-! ## The parts of a template -/

/-- There is an argument for the place. -/
def Part.HasValue (values : List Value) : Part → Prop
  | literal _ => True
  | place i => i < values.length

theorem fill_place_append {i : ℕ} (hcount : values.length ≤ Numeral.bound64) (cs : List Char) :
    fill values ((Part.place i).written ++ cs) =
      if i < values.length then
        (fill values cs).map ((Part.place i).filled values ++ ·)
      else .error .formatIndex := by
  obtain ⟨d, ds, hdigits⟩ := List.exists_cons_of_ne_nil (Numeral.decimal_ne_nil i)
  have hdigit : ∀ c ∈ Numeral.decimal i, Numeral.isDigit c = true :=
    Numeral.isDigit_of_mem_decimal i
  have hd : d ≠ opening := by
    rintro rfl
    exact absurd (hdigit _ (hdigits ▸ List.mem_cons_self)) (by decide)
  have hclosing : closing ∉ Numeral.decimal i := fun h => absurd (hdigit _ h) (by decide)
  have hcut := Chars.cut?_append_of_not_mem hclosing cs
  have hplace := place_decimal hcount i
  rw [hdigits] at hplace
  rw [hdigits, List.cons_append] at hcut
  rw [Part.written, List.cons_append, List.append_assoc, List.singleton_append, hdigits,
    List.cons_append, fill_place hd hcut, hplace]
  split <;> rfl

/-- What a part gives stands in front of what the rest of the template gives. -/
theorem fill_written_append {part : Part} (hcount : values.length ≤ Numeral.bound64)
    (h : part.HasValue values) (cs : List Char) :
    fill values (part.written ++ cs) = (fill values cs).map (part.filled values ++ ·) := by
  cases part with
  | literal s => exact fill_literal_append s.toList cs
  | place i => rw [fill_place_append hcount, if_pos (show i < values.length from h)]

theorem fill_flatMap_written {parts : List Part} (hcount : values.length ≤ Numeral.bound64)
    (h : ∀ part ∈ parts, part.HasValue values) :
    fill values (parts.flatMap Part.written) = .ok (parts.flatMap (Part.filled values)) := by
  induction parts with
  | nil => rw [List.flatMap_nil, fill]; rfl
  | cons part parts ih =>
    obtain ⟨hpart, hparts⟩ := List.forall_mem_cons.1 h
    rw [List.flatMap_cons, fill_written_append hcount hpart, ih hparts, List.flatMap_cons]
    rfl

/-- The first place without an argument is the fault. -/
theorem fill_flatMap_written_of_not {parts : List Part} (hcount : values.length ≤ Numeral.bound64)
    (h : ¬∀ part ∈ parts, part.HasValue values) :
    fill values (parts.flatMap Part.written) = .error .formatIndex := by
  induction parts with
  | nil => exact absurd (by simp) h
  | cons part parts ih =>
    rw [List.forall_mem_cons, not_and] at h
    rw [List.flatMap_cons]
    by_cases hpart : part.HasValue values
    · rw [fill_written_append hcount hpart, ih (h hpart)]
      rfl
    · cases part with
      | literal s => exact absurd trivial hpart
      | place i => rw [fill_place_append hcount, if_neg (show ¬i < values.length from hpart)]

end Template

namespace TextFunctions

open Arguments FunctionTable

variable {values : List Value}

theorem answers_format (template : String) (hcount : values.length ≤ 15) :
    Answers "System.String" "Format" (.text template :: values)
      (format (.text template :: values)) :=
  answers_of_resolve (resolveStatic_of_find (by rfl : _ = "system.string")
    (by rfl : _ = "format") rfl (by simp [Function.accepts, Function.pure]; omega))

/-- `Format` inserts and unescapes exactly. However literal texts and places follow each other, with
the braces of the texts doubled and an argument for each place, the texts come back with the texts
of the arguments between them; what stands in an argument is not read as a template. If a place has
no argument, the template is refused. Behind the template `Format` takes fifteen arguments at
most. -/
theorem format_template (hcount : values.length ≤ 15) (parts : List Template.Part) :
    ((∀ part ∈ parts, part.HasValue values) →
      Answers "System.String" "Format" (.text (Template.written parts) :: values)
        (.ok (.text (Template.filled values parts)))) ∧
    ((¬∀ part ∈ parts, part.HasValue values) →
      Answers "System.String" "Format" (.text (Template.written parts) :: values)
        (Answer.refuse .formatIndex)) := by
  have hanswer := answers_format (Template.written parts) hcount
  have hwords : values.length ≤ Numeral.bound64 := hcount.trans (by decide)
  have hformat : format (.text (Template.written parts) :: values) =
      Answer.of (Template.fill values (parts.flatMap Template.Part.written)) >>= answer := by
    have hchars : chars (.text (Template.written parts) :: values) 0 =
        parts.flatMap Template.Part.written := String.toList_ofList
    rw [format, hchars]
    rfl
  rw [hformat] at hanswer
  refine ⟨fun h => ?_, fun h => ?_⟩
  · rwa [Template.fill_flatMap_written hwords h] at hanswer
  · rwa [Template.fill_flatMap_written_of_not hwords h] at hanswer

/-- Places between runs of braces, and an argument that is a place itself. -/
theorem format_template_of_braces :
    [Value.text "\x7b1\x7d", .int 255].length ≤ 15 ∧ [Value.null].length ≤ 15 ∧
      Answers "System.String" "Format"
        [.text "\x7b\x7b\x7b0\x7d\x7d\x7d\x7b1\x7d\x7b0\x7d", .text "\x7b1\x7d", .int 255]
        (.ok (.text "\x7b\x7b1\x7d\x7d255\x7b1\x7d")) ∧
      Answers "System.String" "Format" [.text "a\x7b1\x7d", .null]
        (Answer.refuse .formatIndex) := by
  have htwo : [Value.text "\x7b1\x7d", .int 255].length ≤ 15 := by decide
  have hone : [Value.null].length ≤ 15 := by decide
  have hvalid := (format_template htwo
    [.literal "\x7b", .place 0, .literal "\x7d", .place 1, .place 0]).1
      (by simp [Template.Part.HasValue])
  have hinvalid := (format_template hone [.literal "a", .place 1]).2
    (by simp [Template.Part.HasValue])
  have hwritten : Template.written
      [.literal "\x7b", .place 0, .literal "\x7d", .place 1, .place 0] =
      "\x7b\x7b\x7b0\x7d\x7d\x7d\x7b1\x7d\x7b0\x7d" := by decide +kernel
  have hfilled : Template.filled [.text "\x7b1\x7d", .int 255]
      [.literal "\x7b", .place 0, .literal "\x7d", .place 1, .place 0] =
      "\x7b\x7b1\x7d\x7d255\x7b1\x7d" := by decide +kernel
  have hother : Template.written [.literal "a", .place 1] = "a\x7b1\x7d" := by decide +kernel
  rw [hwritten, hfilled] at hvalid
  rw [hother] at hinvalid
  exact ⟨htwo, hone, hvalid, hinvalid⟩

end TextFunctions

end BuildExpr
