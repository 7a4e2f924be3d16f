import BuildExpr.Proofs.Expansion.Escaped
import BuildExpr.Proofs.Expression.Calls
import BuildExpr.Proofs.Text.Escaping
import BuildExpr.Proofs.Text.Pieces

/-!
# Values survive expansion

An escaped text can never open a reference, whatever stands behind it, so escaped texts around
references to properties are read token by token as they were put together (`scan_tokens`). The
value is again an escaped text, and `expand_template` reads it back: raw texts around raw values.
-/

namespace BuildExpr

/-- A name of letters A to Z, digits and underscores that does not begin with a digit. -/
def IsIdentifier (name : String) : Prop :=
  ∃ c cs, name.toList = c :: cs ∧ (c.isAlpha || c == '_') = true ∧ ∀ d ∈ cs, Chars.isWord d = true

/-- A reference to a property, the raw value the property has and the raw text behind the
reference. -/
structure Slot where
  name : String
  value : String
  after : String

namespace Slot

/-- Escaped raw text, and behind it the references, each with its escaped raw text. -/
def template (first : String) : List Slot → String
  | [] => Text.escape first
  | t :: slots => Text.escape first ++ "$(" ++ t.name ++ ")" ++ template t.after slots

/-- The raw text with the values in the places of the references. -/
def filled (first : String) : List Slot → String
  | [] => first
  | t :: slots => first ++ t.value ++ filled t.after slots

/-- The reference to the property. -/
def reference (t : Slot) : List Char := '$' :: '(' :: t.name.toList ++ [')']

/-- The token of the reference. -/
def token (t : Slot) : Token :=
  .reference t.reference
    (.property (.named ⟨0, String.ofList t.reference⟩ ⟨2, t.name⟩))

/-- The tokens of a template. -/
def tokens (first : String) : List Slot → List Token
  | [] => (Chars.escape first.toList).map Token.char
  | t :: slots => (Chars.escape first.toList).map Token.char ++ t.token :: tokens t.after slots

end Slot

/-! ## Identifiers -/

namespace IsIdentifier

variable {name : String}

theorem isWord_of_mem (h : IsIdentifier name) {c : Char} (hc : c ∈ name.toList) :
    Chars.isWord c = true := by
  obtain ⟨d, cs, hname, hd, hcs⟩ := h
  rw [hname] at hc
  rcases List.mem_cons.1 hc with rfl | hc
  · simp only [Bool.or_eq_true] at hd
    rcases hd with hd | hd
    · simp [Chars.isWord, Char.isAlphanum, hd]
    · simp [Chars.isWord, hd]
  · exact hcs c hc

theorem not_mem (h : IsIdentifier name) {c : Char} (hc : Chars.isWord c = false) :
    c ∉ name.toList := by
  intro hmem
  rw [h.isWord_of_mem hmem] at hc
  cases hc

theorem isBlank_eq_false (h : IsIdentifier name) : Text.isBlank name = false := by
  have hword := h
  obtain ⟨c, cs, hname, -⟩ := h
  have hblank := Chars.isBlank_of_isWord (hword.isWord_of_mem (c := c) (by simp [hname]))
  simp [Text.isBlank, hname, hblank]

theorem startsWithIgnoreCase_eq_false (h : IsIdentifier name) :
    Expression.startsWithIgnoreCase name.toList Expression.registryMark = false := by
  rw [Bool.eq_false_iff]
  intro hstart
  have hcolon := (Expression.mem_take_of_startsWithIgnoreCase hstart (d := ':') rfl).2 (by decide)
  exact h.not_mem rfl (List.mem_of_mem_take hcolon)

/-- The name of a property closes the parenthesis before it. -/
theorem closes (h : IsIdentifier name) : Chars.Closes '(' ')' { depth := 1 } name.toList := by
  refine Chars.closes_of_plain fun c hc => ⟨?_, ?_, ?_⟩
  · cases hquote : isQuote c with
    | false => rfl
    | true =>
      simp only [isQuote, Bool.or_eq_true, beq_iff_eq] at hquote
      rcases hquote with (rfl | rfl) | rfl <;> exact absurd hc (h.not_mem rfl)
  · rintro rfl
    exact h.not_mem rfl hc
  · rintro rfl
    exact h.not_mem rfl hc

/-- An identifier between parentheses is the name of a property as it stands. -/
theorem isPropertyName (h : IsIdentifier name) : IsPropertyName name where
  closes := h.closes
  unmarked := h.startsWithIgnoreCase_eq_false
  memberless := by
    refine List.any_eq_false.2 fun c hc => ?_
    simp only [Expression.beginsMember, Bool.or_eq_true, beq_iff_eq]
    rintro ((rfl | rfl) | rfl) <;> exact h.not_mem rfl hc
  pathless := by simpa using h.not_mem rfl
  filled := h.isBlank_eq_false

end IsIdentifier

/-! ## Tokens of a template -/

namespace Slot

variable {options : Options}

/-- The escaped form of a character opens no reference with what stands behind it. -/
theorem scan_escapeChar (c : Char) {ts : List Token} (h : Token.Scan options ts) :
    Token.Scan options ((Chars.escapeChar c).map Token.char ++ ts) := by
  have hopens {d : Char} (hd : Chars.isSpecial d = false) : ¬Chars.IsMark d := by
    rintro (rfl | rfl | rfl) <;> cases hd
  cases hc : Chars.isSpecial c with
  | false =>
    rw [Chars.escapeChar_of_not_special hc]
    exact .char (fun hopen => absurd hopen (hopens hc)) h
  | true =>
    obtain ⟨high, low, he, ⟨hhigh, -, hparen⟩, hlow, -⟩ := Chars.escapeChar_of_special hc
    rw [he]
    refine .char (fun _ => ?_) (.char (fun hopen => absurd hopen (hopens hhigh))
      (.char (fun hopen => absurd hopen (hopens hlow)) h))
    simpa [Token.text] using hparen

theorem scan_escape (cs : List Char) {ts : List Token} (h : Token.Scan options ts) :
    Token.Scan options ((Chars.escape cs).map Token.char ++ ts) := by
  induction cs with
  | nil => exact h
  | cons c cs ih =>
    have hcons : Chars.escape (c :: cs) = Chars.escapeChar c ++ Chars.escape cs := rfl
    rw [hcons, List.map_append, List.append_assoc]
    exact scan_escapeChar c ih

/-- The reference of a slot reads as the property that it names. -/
theorem fits_token (h : options.properties = true) {t : Slot} (ht : IsIdentifier t.name) :
    t.token.Fits options := by
  refine ⟨_, .property h ht.closes, ?_⟩
  refine Except.bind_eq_ok.2 ⟨_, ht.isPropertyName.parseProperty _ _ _ _, ?_⟩
  rfl

theorem scan_tokens (h : options.properties = true) (first : String) {slots : List Slot}
    (hnames : ∀ t ∈ slots, IsIdentifier t.name) : Token.Scan options (tokens first slots) := by
  induction slots generalizing first with
  | nil =>
    have hnil : Token.Scan options [] := .nil
    have := scan_escape first.toList hnil
    rwa [List.append_nil] at this
  | cons t slots ih =>
    exact scan_escape _ (.reference (fits_token h (hnames t (by simp)))
      (ih t.after fun t ht => hnames t (by simp [ht])))

/-- The tokens make up the template. -/
theorem textAll_tokens (first : String) (slots : List Slot) :
    Token.textAll (tokens first slots) = (template first slots).toList := by
  induction slots generalizing first with
  | nil => simp [tokens, template, Text.escape]
  | cons t slots ih =>
    simp [tokens, template, Text.escape, ih, token, reference, Token.text]

/-- The value of the tokens is the escaped form of the raw text with the raw values in it. -/
theorem evalSegments_tokens {s : Setting} (hs : s.options.truncate = false) (item : Option Item)
    (first : String) {slots : List Slot} (hnames : ∀ t ∈ slots, IsIdentifier t.name)
    (hvalues : ∀ t ∈ slots, s.lookup.property? t.name = some (Text.escape t.value)) :
    evalSegments s item ((tokens first slots).map Token.segment) =
      return Text.escape (filled first slots) := by
  induction slots generalizing first with
  | nil =>
    rw [tokens, evalSegments_map_char]
    rfl
  | cons t slots ih =>
    have hname := (hnames t (by simp)).isBlank_eq_false
    have hvalue : s.shownValue (s.property t.name) = Text.escape t.value := by
      simp [Setting.shownValue, hs, Setting.property, hname, hvalues t (by simp)]
    have htoken : evalSegment s item t.token.segment = return Text.escape t.value := by
      rw [← hvalue]
      rfl
    have hmore := ih t.after (fun t ht => hnames t (by simp [ht])) fun t ht =>
      hvalues t (by simp [ht])
    rw [tokens, evalSegments_chars, List.map_cons, evalSegments, htoken, hmore, filled]
    simp only [pure_bind, Text.escape_append, String.append_assoc]
    rfl

end Slot

/-! ## Expansion of a template -/

namespace Slot

variable {x : Expander} {options : Options} {lookup : Lookup} {first : String}
  {slots : List Slot}

/-- A template expands to the escaped form of the raw text with the raw values in it. -/
theorem expandEscaped_template (hproperties : options.properties = true)
    (htruncate : options.truncate = false) (hnames : ∀ t ∈ slots, IsIdentifier t.name)
    (hvalues : ∀ t ∈ slots, lookup.property? t.name = some (Text.escape t.value)) (w : World) :
    (x.expandEscaped (template first slots) options lookup).result w =
      (.ok (Text.escape (filled first slots)), w) := by
  have hscan := scan_tokens hproperties first hnames
  obtain ⟨e, he, hvalue⟩ := Token.parse_of_readable hscan.readable
  rw [textAll_tokens, String.ofList_toList] at he
  refine Expander.result_expandEscaped he ?_
  have hs : (x.setting options lookup w).options.truncate = false := htruncate
  rw [hvalue, evalSegments_tokens hs none first hnames hvalues]
  rfl

end Slot

/-- Raw values survive expansion: escaped raw texts around references to properties whose values
are escaped raw texts expand to the raw texts with the raw values between them, whatever characters
they have. As a list this is one entry without the blanks at its ends, and none if it is blank. -/
theorem expand_template (x : Expander) {options : Options} {lookup : Lookup} (first : String)
    {slots : List Slot} (hproperties : options.properties = true)
    (htruncate : options.truncate = false) (hnames : ∀ t ∈ slots, IsIdentifier t.name)
    (hvalues : ∀ t ∈ slots, lookup.property? t.name = some (Text.escape t.value)) (w : World) :
    (x.expand (Slot.template first slots) options lookup).result w =
        (.ok (Slot.filled first slots), w) ∧
      (x.expandList (Slot.template first slots) options lookup).result w =
        (.ok (if (Text.trim (Slot.filled first slots)).isEmpty then []
          else [Text.trim (Slot.filled first slots)]), w) := by
  have hescaped : (x.expandEscaped (Slot.template first slots) options lookup).result w =
      (.ok (Text.escape (Slot.filled first slots)), w) :=
    Slot.expandEscaped_template hproperties htruncate hnames hvalues w
  constructor
  · exact Eval.result_bind_eq_ok.2 ⟨_, _, hescaped, by rw [Text.unescape_escape]; rfl⟩
  · exact Eval.result_bind_eq_ok.2 ⟨_, _, hescaped, by
      rw [Text.splitList_escape, Text.entriesOf_singleton]
      rfl⟩

theorem expand_template_of_marks :
    (({} : Expander).expand " 100%25 $(A)%40(B) " .all
          { scopes := [.ofDocument [("A", "x%3b%24(A)")] []] }).result .bare =
        (.ok " 100% x;$(A)@(B) ", .bare) ∧
      (({} : Expander).expandList " 100%25 $(A)%40(B) " .all
          { scopes := [.ofDocument [("A", "x%3b%24(A)")] []] }).result .bare =
        (.ok ["100% x;$(A)@(B)"], .bare) := by
  have htemplate : Slot.template " 100% " [⟨"A", "x;$(A)", "@(B) "⟩] = " 100%25 $(A)%40(B) " := by
    decide +kernel
  have hfilled : Slot.filled " 100% " [⟨"A", "x;$(A)", "@(B) "⟩] = " 100% x;$(A)@(B) " := by
    decide +kernel
  have htrim : Text.trim " 100% x;$(A)@(B) " = "100% x;$(A)@(B)" := by decide +kernel
  have hname : IsIdentifier "A" := ⟨'A', [], by decide, rfl, by simp⟩
  have hvalue : ({ scopes := [.ofDocument [("A", "x%3b%24(A)")] []] } : Lookup).property? "A" =
      some (Text.escape "x;$(A)") := by
    decide +kernel
  have hnames : ∀ t ∈ [(⟨"A", "x;$(A)", "@(B) "⟩ : Slot)], IsIdentifier t.name := by
    simpa using hname
  have hproperties : Options.all.properties = true := rfl
  have h := expand_template {} " 100% " hproperties rfl hnames (by simpa using hvalue) .bare
  rw [htemplate, hfilled, htrim] at h
  exact h

end BuildExpr
