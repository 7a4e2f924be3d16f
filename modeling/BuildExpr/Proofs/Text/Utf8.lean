import BuildExpr.Text.Utf8

/-!
# Reading back UTF-8

The bytes of a text are those of its characters, one behind the other (`encode_eq_flatMap`), and
what is read from them is the text (`decode_encode`).
-/

namespace BuildExpr

namespace Utf8

/-! ## The bytes of a text -/

theorem toList_loop (bytes : ByteArray) (i : Nat) (read : List UInt8) :
    ByteArray.toList.loop bytes i read = read.reverse ++ bytes.data.toList.drop i := by
  have hsize : bytes.data.toList.length = bytes.size := Array.length_toList
  induction h : bytes.size - i generalizing i read with
  | zero =>
    rw [ByteArray.toList.loop, if_neg (by omega), List.drop_of_length_le (by omega),
      List.append_nil]
  | succ n ih =>
    have hi : i < bytes.size := by omega
    have hlist : i < bytes.data.toList.length := by omega
    have hget : bytes.get! i = bytes.data.toList[i] := by
      rw [Array.getElem_toList]
      exact getElem!_pos bytes.data i hi
    rw [ByteArray.toList.loop, if_pos hi, ih _ _ (by omega),
      List.drop_eq_getElem_cons (i := i) (by omega), hget, List.reverse_cons, List.append_assoc,
      List.singleton_append]

/-- The bytes of a text are those of its characters. -/
theorem encode_eq_flatMap (cs : List Char) : encode cs = cs.flatMap String.utf8EncodeChar := by
  have hbytes : (String.ofList cs).toUTF8 = cs.utf8Encode := String.toByteArray_ofList
  rw [encode, hbytes, ByteArray.toList, toList_loop, List.utf8Encode, List.data_toByteArray]
  rfl

@[simp] theorem encode_nil : encode [] = [] := by rw [encode_eq_flatMap, List.flatMap_nil]

theorem encode_cons (c : Char) (cs : List Char) :
    encode (c :: cs) = String.utf8EncodeChar c ++ encode cs := by
  rw [encode_eq_flatMap, encode_eq_flatMap, List.flatMap_cons]

/-- A character of seven bits is a byte of its own. -/
theorem utf8EncodeChar_of_lt {c : Char} (h : c.toNat < 128) :
    String.utf8EncodeChar c = [UInt8.ofNat c.toNat] := by
  have hc : c.val.toNat ≤ 127 := Nat.le_of_lt_succ h
  rw [String.utf8EncodeChar, if_pos hc]
  rfl

/-- The bytes of a character beyond seven bits are beyond seven bits. -/
theorem le_of_mem_utf8EncodeChar {c : Char} (hc : 128 ≤ c.toNat) {b : UInt8}
    (hb : b ∈ String.utf8EncodeChar c) : 128 ≤ b.toNat := by
  have hfirst : ¬c.val.toNat ≤ 127 := fun h => by
    have : c.toNat ≤ 127 := h
    omega
  have hbyte {m k : Nat} (hk : 128 ≤ k) (hlt : m + k < 256) :
      128 ≤ (UInt8.ofNat (m + k)).toNat := by
    rw [UInt8.toNat_ofNat_of_lt' hlt]
    omega
  rw [String.utf8EncodeChar, if_neg hfirst] at hb
  split at hb
  · simp only [List.mem_cons, List.not_mem_nil, or_false] at hb
    rcases hb with rfl | rfl
    all_goals exact hbyte (by decide) (by omega)
  · split at hb
    · simp only [List.mem_cons, List.not_mem_nil, or_false] at hb
      rcases hb with rfl | rfl | rfl
      all_goals exact hbyte (by decide) (by omega)
    · simp only [List.mem_cons, List.not_mem_nil, or_false] at hb
      rcases hb with rfl | rfl | rfl | rfl
      all_goals exact hbyte (by decide) (by omega)

/-! ## Reading it back -/

/-- A byte of a character behind its first, which adds six bits. -/
theorem tailBytes_cons {n seen k : Nat} {low high : UInt8} {ranges : List (UInt8 × UInt8)}
    {bytes : List UInt8} (hk : k < 64) (hlow : low.toNat ≤ k + 128)
    (hhigh : k + 128 ≤ high.toNat) :
    tailBytes n seen ((low, high) :: ranges) (UInt8.ofNat (k + 128) :: bytes) =
      tailBytes (n * 64 + k) (seen + 1) ranges bytes := by
  have hb : (UInt8.ofNat (k + 128)).toNat = k + 128 := UInt8.toNat_ofNat_of_lt' (by
    show k + 128 < 256
    omega)
  have hbits : (k + 128) % 64 = k := by omega
  rw [tailBytes, if_pos, hb, hbits]
  simp only [Bool.and_eq_true, decide_eq_true_eq, UInt8.le_iff_toNat_le, hb]
  exact ⟨hlow, hhigh⟩

theorem lead?_one : ∀ n ≤ 127, lead? (UInt8.ofNat n) = some (n, []) := by decide

theorem lead?_two : ∀ m < 32, m < 2 ∨
    lead? (UInt8.ofNat (m + 192)) = some (m, [(0x80, 0xbf)]) := by decide

theorem lead?_three : ∀ m < 16, lead? (UInt8.ofNat (m + 224)) =
    some (m, [(if m = 0 then 0xa0 else 0x80, if m = 13 then 0x9f else 0xbf), (0x80, 0xbf)]) := by
  decide

theorem lead?_four : ∀ m < 5, lead? (UInt8.ofNat (m + 240)) =
    some (m, [(if m = 0 then 0x90 else 0x80, if m = 4 then 0x8f else 0xbf), (0x80, 0xbf),
      (0x80, 0xbf)]) := by
  decide

/-- A character is read from its bytes. -/
theorem character_utf8EncodeChar (c : Char) (rest : List UInt8) :
    ∃ b bytes, String.utf8EncodeChar c = b :: bytes ∧
      character b (bytes ++ rest) = .ok (c, rest) := by
  have hvalid : c.val.toNat < 0xd800 ∨ 0xdfff < c.val.toNat ∧ c.val.toNat < 0x110000 := c.valid
  have hc : Char.ofNat c.val.toNat = c := Char.ofNat_toNat c
  have hlow : (0x80 : UInt8).toNat = 128 := rfl
  have hhigh : (0xbf : UInt8).toNat = 191 := rfl
  have hcode {m : Nat} (hm : m = c.val.toNat) :
      (tailBytes m 0 [] rest).map (fun p => (Char.ofNat p.1, p.2)) = .ok (c, rest) := by
    rw [tailBytes, Except.map, hm, hc]
  rw [String.utf8EncodeChar]
  generalize c.val.toNat = n at hvalid hcode
  split
  · rename_i h
    refine ⟨_, _, rfl, ?_⟩
    rw [character, lead?_one n h]
    exact hcode rfl
  · split
    · rename_i h₁ h₂
      refine ⟨_, _, rfl, ?_⟩
      have hlead := (lead?_two (n / 64 % 32) (by omega)).resolve_left (by omega)
      rw [character, hlead]
      dsimp only [List.cons_append, List.nil_append]
      rw [tailBytes_cons (Nat.mod_lt _ (by decide)) (by omega) (by omega)]
      exact hcode (by omega)
    · split
      · rename_i h₁ h₂ h₃
        refine ⟨_, _, rfl, ?_⟩
        rw [character, lead?_three (n / 4096 % 16) (by omega)]
        dsimp only [List.cons_append, List.nil_append]
        rw [tailBytes_cons (Nat.mod_lt _ (by decide)) (by split <;> simp <;> omega)
            (by split <;> simp <;> omega),
          tailBytes_cons (Nat.mod_lt _ (by decide)) (by omega) (by omega)]
        exact hcode (by omega)
      · rename_i h₁ h₂ h₃
        refine ⟨_, _, rfl, ?_⟩
        rw [character, lead?_four (n / 262144 % 8) (by omega)]
        dsimp only [List.cons_append, List.nil_append]
        rw [tailBytes_cons (Nat.mod_lt _ (by decide)) (by split <;> simp <;> omega)
            (by split <;> simp <;> omega),
          tailBytes_cons (Nat.mod_lt _ (by decide)) (by omega) (by omega),
          tailBytes_cons (Nat.mod_lt _ (by decide)) (by omega) (by omega)]
        exact hcode (by omega)

theorem decodeFrom_encode (index : Nat) (cs : List Char) :
    decodeFrom index (encode cs) = .ok cs := by
  induction cs generalizing index with
  | nil => rw [encode_nil, decodeFrom]
  | cons c cs ih =>
    obtain ⟨b, bytes, hbytes, hread⟩ := character_utf8EncodeChar c (encode cs)
    rw [encode_cons, hbytes, List.cons_append, decodeFrom]
    split
    · rename_i h
      rw [hread] at h
      cases h
    · rename_i h
      rw [hread] at h
      cases h
    · rename_i h
      rw [hread] at h
      cases h
      rw [ih]
      rfl

/-- What is read from the bytes of a text is the text. -/
theorem decode_encode (cs : List Char) : decode (encode cs) = .ok cs := decodeFrom_encode 0 cs

end Utf8

end BuildExpr
