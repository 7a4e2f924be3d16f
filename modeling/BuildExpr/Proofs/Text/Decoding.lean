import BuildExpr.Proofs.Text.Escaping
import BuildExpr.Proofs.Text.Utf8
import BuildExpr.Text.Escape

/-!
# Escaping is an exact encoding

What a text stands for is given by rules of its own (`StandsFor`): reading the escapes of the
characters follows them (`standsFor_iff`), and so does reading those of the bytes
(`unescape_encode`), where a character beyond seven bits has no byte that could belong to an escape.
So the bytes that come out are UTF-8 at all times. `escape_unescape_iff` tells which texts are the
escaped form of what they stand for.
-/

namespace BuildExpr

namespace Chars

/-! ## What a text stands for -/

/-- What a text stands for when its escapes are read from left to right without overlap. -/
inductive StandsFor : List Char → List Char → Prop
  | nil : StandsFor [] []
  | escape {high low d : Char} {h l : Nat} {cs ds : List Char} (hhigh : hexValue? high = some h)
      (hlow : hexValue? low = some l) (hcode : d.toNat = 16 * h + l) (rest : StandsFor cs ds) :
      StandsFor ('%' :: high :: low :: cs) (d :: ds)
  | plain {c : Char} {cs ds : List Char}
      (hplain : ∀ high low after, c :: cs = '%' :: high :: low :: after →
        hexValue? high = none ∨ hexValue? low = none)
      (rest : StandsFor cs ds) : StandsFor (c :: cs) (c :: ds)

/-- A digit is a character of seven bits. -/
theorem hexValue?_of_le {c : Char} (hc : 128 ≤ c.toNat) : hexValue? c = none := by
  have hbound {last : Char} (hlast : last.toNat < 128) (first : Char) :
      ¬(first ≤ c ∧ c ≤ last) := fun h => by
    have hle : c.toNat ≤ last.toNat := h.2
    omega
  rw [hexValue?, if_neg (hbound (by decide) _), if_neg (hbound (by decide) _),
    if_neg (hbound (by decide) _)]

theorem hexValue?_lt {c : Char} {n : Nat} (h : hexValue? c = some n) : n < 16 := by
  have hdigits : ∀ k < 128, ∀ m ∈ hexValue? (Char.ofNat k), m < 16 := by decide
  have hc : c.toNat < 128 := by
    by_contra hc
    rw [hexValue?_of_le (Nat.not_lt.1 hc)] at h
    cases h
  exact hdigits c.toNat hc n (by rw [Char.ofNat_toNat]; exact h)

theorem toNat_ofNat_code : ∀ h < 16, ∀ l < 16, (Char.ofNat (16 * h + l)).toNat = 16 * h + l := by
  decide

theorem unescape_hex {high low : Char} {h l : Nat} (hhigh : hexValue? high = some h)
    (hlow : hexValue? low = some l) (cs : List Char) :
    unescape ('%' :: high :: low :: cs) = Char.ofNat (16 * h + l) :: unescape cs := by
  simp only [unescape, hhigh, hlow]

/-- A character that begins no escape is copied. -/
theorem unescape_plain {c : Char} {cs : List Char}
    (h : ∀ high low after, c :: cs = '%' :: high :: low :: after →
      hexValue? high = none ∨ hexValue? low = none) :
    unescape (c :: cs) = c :: unescape cs := by
  by_cases hc : c = '%'
  · subst hc
    match cs with
    | [] => rfl
    | [_] => rfl
    | high :: low :: after =>
      rw [unescape]
      rcases h high low after rfl with hnone | hnone
      · rw [hnone]
      · rw [hnone]
        split <;> simp_all
  · exact unescape_cons hc cs

theorem unescape_of_not_mem {cs : List Char} (h : '%' ∉ cs) : unescape cs = cs := by
  induction cs with
  | nil => rfl
  | cons c cs ih =>
    rw [List.mem_cons, not_or] at h
    rw [unescape_cons (Ne.symm h.1), ih h.2]

theorem standsFor_unescape (cs : List Char) : StandsFor cs (unescape cs) := by
  induction h : cs.length using Nat.strongRecOn generalizing cs with
  | ind n ih =>
    cases cs with
    | nil => exact .nil
    | cons c cs =>
      by_cases hescape : ∃ high low after h l, c :: cs = '%' :: high :: low :: after ∧
          hexValue? high = some h ∧ hexValue? low = some l
      · obtain ⟨high, low, after, hi, lo, heq, hhigh, hlow⟩ := hescape
        rw [heq, unescape_hex hhigh hlow]
        refine .escape hhigh hlow (toNat_ofNat_code _ (hexValue?_lt hhigh) _ (hexValue?_lt hlow))
          (ih _ ?_ _ rfl)
        rw [← h, heq]
        simp only [List.length_cons]
        omega
      · have hplain : ∀ high low after, c :: cs = '%' :: high :: low :: after →
            hexValue? high = none ∨ hexValue? low = none := by
          intro high low after heq
          cases hhigh : hexValue? high with
          | none => exact .inl rfl
          | some h =>
            cases hlow : hexValue? low with
            | none => exact .inr rfl
            | some l => exact absurd ⟨high, low, after, h, l, heq, hhigh, hlow⟩ hescape
        rw [unescape_plain hplain]
        exact .plain hplain (ih _ (by simp only [List.length_cons] at h; omega) _ rfl)

/-- Reading the escapes of a text gives what it stands for, and nothing else does. -/
theorem standsFor_iff {cs ds : List Char} : StandsFor cs ds ↔ ds = unescape cs := by
  refine ⟨fun h => ?_, fun h => h ▸ standsFor_unescape cs⟩
  induction h with
  | nil => rfl
  | escape hhigh hlow hcode rest ih => rw [unescape_hex hhigh hlow, ← hcode, Char.ofNat_toNat, ih]
  | plain hplain rest ih => rw [unescape_plain hplain, ih]

/-! ## Texts that are escaped -/

/-- What stands behind the `%` when a special character is escaped. -/
def specialCodes : List String := ["25", "2a", "3f", "40", "24", "3b", "27"]

/-- A text in which no special character stands raw and every `%` begins an escape of a special
character, in lower case. -/
def IsEscaped (cs : List Char) : Prop :=
  (∀ c ∈ ['*', '?', '@', '$', ';', '\''], c ∉ cs) ∧
    ∀ after, '%' :: after <:+ cs → ∃ code ∈ specialCodes, code.toList <+: after

theorem isSpecial_iff {c : Char} :
    isSpecial c = true ↔ c = '%' ∨ c ∈ ['*', '?', '@', '$', ';', '\''] := by
  simp [isSpecial, or_assoc]

theorem escape_cons (c : Char) (cs : List Char) :
    escape (c :: cs) = escapeChar c ++ escape cs := List.flatMap_cons

theorem exists_specialCode {c : Char} (h : isSpecial c = true) :
    ∃ code ∈ specialCodes, escapeChar c = '%' :: code.toList := by
  simp only [isSpecial, Bool.or_eq_true, beq_iff_eq] at h
  rcases h with (((((rfl | rfl) | rfl) | rfl) | rfl) | rfl) | rfl <;> decide

theorem exists_escapeChar {code : String} (h : code ∈ specialCodes) :
    ∃ c, escapeChar c = '%' :: code.toList := by
  simp only [specialCodes, List.mem_cons, List.not_mem_nil, or_false] at h
  rcases h with rfl | rfl | rfl | rfl | rfl | rfl | rfl
  exacts [⟨'%', by decide⟩, ⟨'*', by decide⟩, ⟨'?', by decide⟩, ⟨'@', by decide⟩,
    ⟨'$', by decide⟩, ⟨';', by decide⟩, ⟨'\'', by decide⟩]

theorem IsEscaped.of_suffix {cs ds : List Char} (h : IsEscaped cs) (hds : ds <:+ cs) :
    IsEscaped ds :=
  ⟨fun c hc hmem => h.1 c hc (hds.subset hmem), fun after hafter => h.2 after (hafter.trans hds)⟩

theorem isEscaped_escape (cs : List Char) : IsEscaped (escape cs) := by
  refine ⟨fun c hc hmem => ?_, fun after hafter => ?_⟩
  · have hpercent : '%' ∉ ['*', '?', '@', '$', ';', '\''] := by decide
    rw [eq_percent_of_mem_escape hmem (isSpecial_iff.2 (.inr hc))] at hc
    exact hpercent hc
  · induction cs with
    | nil =>
      rw [escape, List.flatMap_nil, List.suffix_nil] at hafter
      cases hafter
    | cons c cs ih =>
      rw [escape_cons] at hafter
      cases hc : isSpecial c with
      | false =>
        rw [escapeChar_of_not_special hc, List.singleton_append, List.suffix_cons_iff] at hafter
        rcases hafter with heq | hafter
        · obtain ⟨rfl, -⟩ := List.cons.inj heq
          cases hc
        · exact ih hafter
      | true =>
        -- The digits of an escape are no `%`, so the `%` is the first of this one or behind it.
        obtain ⟨code, hcode, he⟩ := exists_specialCode hc
        obtain ⟨high, low, hdigits, ⟨hhigh, -⟩, hlow, -⟩ := escapeChar_of_special hc
        have htail : code.toList = [high, low] := (List.cons.inj (he.symm.trans hdigits)).2
        rw [hdigits] at hafter
        simp only [List.cons_append, List.nil_append, List.suffix_cons_iff, List.cons.injEq,
          true_and] at hafter
        rcases hafter with rfl | ⟨rfl, -⟩ | ⟨rfl, -⟩ | hafter
        · exact ⟨code, hcode, escape cs, by rw [htail]; rfl⟩
        · cases hhigh
        · cases hlow
        · exact ih hafter

/-- Whatever is escaped in this sense is the escaped form of some text. -/
theorem IsEscaped.exists_escape {cs : List Char} (h : IsEscaped cs) : ∃ xs, cs = escape xs := by
  induction hn : cs.length using Nat.strongRecOn generalizing cs with
  | ind n ih =>
    cases cs with
    | nil => exact ⟨[], rfl⟩
    | cons c cs =>
      by_cases hc : c = '%'
      · subst hc
        obtain ⟨code, hcode, rest, rfl⟩ := h.2 cs List.suffix_rfl
        obtain ⟨d, hd⟩ := exists_escapeChar hcode
        have hsuffix : rest <:+ '%' :: (code.toList ++ rest) :=
          (List.suffix_append _ _).trans (List.suffix_cons _ _)
        obtain ⟨xs, rfl⟩ := ih rest.length
          (by simp only [List.length_cons, List.length_append] at hn; omega)
          (h.of_suffix hsuffix) rfl
        exact ⟨d :: xs, by rw [escape_cons, hd, List.cons_append]⟩
      · have hplain : isSpecial c = false := by
          rw [Bool.eq_false_iff, ne_eq, isSpecial_iff, not_or]
          exact ⟨hc, fun hmem => h.1 c hmem List.mem_cons_self⟩
        obtain ⟨xs, rfl⟩ := ih cs.length (by simp only [List.length_cons] at hn; omega)
          (h.of_suffix (List.suffix_cons _ _)) rfl
        exact ⟨c :: xs, by rw [escape_cons, escapeChar_of_not_special hplain]; rfl⟩

/-- Escaping again what an escaped text stands for gives that text, and only then. -/
theorem escape_unescape_iff {cs : List Char} : escape (unescape cs) = cs ↔ IsEscaped cs := by
  refine ⟨fun h => h ▸ isEscaped_escape _, fun h => ?_⟩
  obtain ⟨xs, rfl⟩ := h.exists_escape
  rw [unescape_escape]

end Chars

/-! ## Escapes in the bytes of a text -/

namespace Utf8

theorem hexValue?_ofNat : ∀ n < 128,
    hexValue? (UInt8.ofNat n) = (Chars.hexValue? (Char.ofNat n)).map UInt8.ofNat := by
  decide

theorem hexValue?_of_le {b : UInt8} (hb : 128 ≤ b.toNat) : hexValue? b = none := by
  have hbytes : ∀ n < 256, 128 ≤ n → hexValue? (UInt8.ofNat n) = none := by decide +kernel
  rw [← UInt8.ofNat_toNat (x := b)]
  exact hbytes b.toNat b.toNat_lt hb

/-- The first byte of a character is a digit if the character is, and then it is its only one. -/
theorem exists_utf8EncodeChar (c : Char) :
    ∃ b bytes, String.utf8EncodeChar c = b :: bytes ∧
      hexValue? b = (Chars.hexValue? c).map UInt8.ofNat ∧
      ((Chars.hexValue? c).isSome → bytes = []) := by
  by_cases hc : c.toNat < 128
  · refine ⟨_, [], utf8EncodeChar_of_lt hc, ?_, fun _ => rfl⟩
    rw [hexValue?_ofNat _ hc, Char.ofNat_toNat]
  · have hnone := Chars.hexValue?_of_le (Nat.not_lt.1 hc)
    obtain ⟨b, bytes, hbytes, -⟩ := character_utf8EncodeChar c []
    have hb := le_of_mem_utf8EncodeChar (Nat.not_lt.1 hc) (b := b) (by simp [hbytes])
    exact ⟨b, bytes, hbytes, by rw [hexValue?_of_le hb, hnone]; rfl, by simp [hnone]⟩

theorem unescape_escape {high low : UInt8} {h l : UInt8} (hhigh : hexValue? high = some h)
    (hlow : hexValue? low = some l) (bytes : List UInt8) :
    unescape (percent :: high :: low :: bytes) = codeBytes ((h <<< 4) ||| l) ++ unescape bytes := by
  simp only [unescape, hhigh, hlow, beq_self_eq_true]

/-- A byte that begins no escape is copied. -/
theorem unescape_plain {b : UInt8} {bytes : List UInt8}
    (h : ∀ high low after, b :: bytes = percent :: high :: low :: after →
      hexValue? high = none ∨ hexValue? low = none) :
    unescape (b :: bytes) = b :: unescape bytes := by
  match bytes with
  | [] => simp [unescape]
  | [_] => simp [unescape]
  | high :: low :: after =>
    rw [unescape]
    split
    · rename_i hb hhigh hlow
      rcases h high low after (by rw [eq_of_beq hb]) with hnone | hnone
      · rw [hhigh] at hnone
        cases hnone
      · rw [hlow] at hnone
        cases hnone
    · rfl

/-- The bytes of the character that an escape stands for. -/
theorem codeBytes_eq : ∀ h < 16, ∀ l < 16,
    codeBytes ((UInt8.ofNat h <<< 4) ||| UInt8.ofNat l) =
      String.utf8EncodeChar (Char.ofNat (16 * h + l)) := by
  decide +kernel

/-- Bytes of which none is a `%` are copied. -/
theorem unescape_append {xs : List UInt8} (h : percent ∉ xs) (ys : List UInt8) :
    unescape (xs ++ ys) = xs ++ unescape ys := by
  induction xs with
  | nil => rfl
  | cons x xs ih =>
    rw [List.mem_cons, not_or] at h
    rw [List.cons_append, unescape_plain, ih h.2, List.cons_append]
    intro high low after heq
    exact absurd (List.cons.inj heq).1.symm h.1

theorem percent_not_mem_utf8EncodeChar {c : Char} (hc : c ≠ '%') :
    percent ∉ String.utf8EncodeChar c := by
  intro hmem
  by_cases hlt : c.toNat < 128
  · have hcodes : ∀ n < 128, percent = UInt8.ofNat n → Char.ofNat n = '%' := by decide
    rw [utf8EncodeChar_of_lt hlt, List.mem_singleton] at hmem
    have := hcodes _ hlt hmem
    rw [Char.ofNat_toNat] at this
    exact hc this
  · have := le_of_mem_utf8EncodeChar (Nat.not_lt.1 hlt) hmem
    exact absurd this (by decide)

/-- What begins no escape as characters begins none as bytes. -/
theorem encode_plain {cs : List Char}
    (h : ∀ high low after, cs = high :: low :: after →
      Chars.hexValue? high = none ∨ Chars.hexValue? low = none)
    {high low : UInt8} {after : List UInt8} (hbytes : encode cs = high :: low :: after) :
    hexValue? high = none ∨ hexValue? low = none := by
  cases cs with
  | nil =>
    rw [encode_nil] at hbytes
    cases hbytes
  | cons c cs =>
    obtain ⟨b, bytes, hc, hvalue, hone⟩ := exists_utf8EncodeChar c
    rw [encode_cons, hc, List.cons_append, List.cons.injEq] at hbytes
    obtain ⟨rfl, hbytes⟩ := hbytes
    cases hdigit : Chars.hexValue? c with
    | none => exact .inl (by rw [hvalue, hdigit]; rfl)
    | some n =>
      rw [hone (by rw [hdigit]; rfl), List.nil_append] at hbytes
      cases cs with
      | nil =>
        rw [encode_nil] at hbytes
        cases hbytes
      | cons d cs =>
        obtain ⟨b', bytes', hd, hvalue', -⟩ := exists_utf8EncodeChar d
        rw [encode_cons, hd, List.cons_append, List.cons.injEq] at hbytes
        obtain ⟨rfl, -⟩ := hbytes
        have hnone := (h c d cs rfl).resolve_left (by rw [hdigit]; exact Option.some_ne_none n)
        exact .inr (by rw [hvalue', hnone]; rfl)

theorem encode_percent (cs : List Char) : encode ('%' :: cs) = percent :: encode cs := by
  rw [encode_cons, utf8EncodeChar_of_lt (by decide), List.singleton_append]
  rfl

theorem encode_digit {c : Char} {n : Nat} (h : Chars.hexValue? c = some n) (cs : List Char) :
    ∃ b, encode (c :: cs) = b :: encode cs ∧ hexValue? b = some (UInt8.ofNat n) := by
  obtain ⟨b, bytes, hc, hvalue, hone⟩ := exists_utf8EncodeChar c
  refine ⟨b, ?_, by rw [hvalue, h]; rfl⟩
  rw [encode_cons, hc, hone (by rw [h]; rfl), List.singleton_append]

/-- The escapes that are read from the bytes of a text give the bytes of what it stands for. -/
theorem unescape_encode_of_standsFor {cs ds : List Char} (h : Chars.StandsFor cs ds) :
    unescape (encode cs) = encode ds := by
  induction h with
  | nil => rw [encode_nil, unescape]
  | @escape high low d h l cs ds hhigh hlow hcode rest ih =>
    obtain ⟨b, hb, hbvalue⟩ := encode_digit hhigh (low :: cs)
    obtain ⟨b', hb', hbvalue'⟩ := encode_digit hlow cs
    have hcodeBytes := codeBytes_eq h (Chars.hexValue?_lt hhigh) l (Chars.hexValue?_lt hlow)
    rw [encode_percent, hb, hb', unescape_escape hbvalue hbvalue', hcodeBytes, ih, encode_cons,
      ← hcode, Char.ofNat_toNat]
  | @plain c cs ds hplain rest ih =>
    by_cases hc : c = '%'
    · subst hc
      have hbytes : ∀ high low after, percent :: encode cs = percent :: high :: low :: after →
          hexValue? high = none ∨ hexValue? low = none := fun high low after heq =>
        encode_plain (fun high low after h => hplain high low after (by rw [h]))
          (List.cons.inj heq).2
      rw [encode_percent, encode_percent, unescape_plain hbytes, ih]
    · rw [encode_cons, encode_cons, unescape_append (percent_not_mem_utf8EncodeChar hc), ih]

/-- The escapes in the bytes of a text are those of its characters. -/
theorem unescape_encode (cs : List Char) : unescape (encode cs) = encode (Chars.unescape cs) :=
  unescape_encode_of_standsFor (Chars.standsFor_unescape cs)

end Utf8

namespace Text

/-- The bytes without their escapes are UTF-8: those of the text without its escapes. -/
theorem decode_unescape (s : String) :
    Utf8.decode (Utf8.unescape (Utf8.encode s.toList)) = .ok (unescape s).toList := by
  rw [Utf8.unescape_encode, Utf8.decode_encode, unescape, String.toList_ofList]

theorem unescapeBytes_eq (s : String) : unescapeBytes s = unescape s := by
  rw [unescapeBytes]
  split
  · rw [decode_unescape]
    exact String.ofList_toList
  · rename_i h
    have hpercent : '%' ∉ s.toList := by simpa using h
    rw [unescape, Chars.unescape_of_not_mem hpercent, String.ofList_toList]

/-- Escaping is an exact encoding: what was escaped is read back; a text is the escaped form of what
it stands for exactly if no special character stands raw in it and every `%` begins an escape of one
in lower case; and reading the bytes of a text never falls back to the text, its result is at all
times what the text stands for. -/
theorem escape_exact :
    (∀ s, unescapeBytes (escape s) = s) ∧
      (∀ e, escape (unescapeBytes e) = e ↔ Chars.IsEscaped e.toList) ∧
      (∀ e, Utf8.decode (Utf8.unescape (Utf8.encode e.toList)) = .ok (unescapeBytes e).toList) ∧
      (∀ e d : String, Chars.StandsFor e.toList d.toList ↔ d = unescapeBytes e) ∧
      ∀ e, unescapeBytes e = unescape e := by
  refine ⟨fun s => ?_, fun e => ?_, fun e => ?_, fun e d => ?_, unescapeBytes_eq⟩
  · rw [unescapeBytes_eq, unescape_escape]
  · rw [unescapeBytes_eq, escape, unescape, String.toList_ofList, ← Chars.escape_unescape_iff,
      ← String.toList_inj, String.toList_ofList]
  · rw [unescapeBytes_eq, decode_unescape]
  · rw [unescapeBytes_eq, Chars.standsFor_iff, ← String.toList_inj, unescape,
      String.toList_ofList]

end Text

end BuildExpr
