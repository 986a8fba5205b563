import RecordGate.Text.Utf8

/-!
# Decoding what was encoded

The bytes of a text are those of its characters one after the other (`Text.encode_ofList`), and each
character is decoded from its bytes whatever follows them (`Text.decodeChar?_append`). So a text comes back
from its bytes (`Text.decode_encode`).
-/

namespace RecordGate.Text

theorem encode_ofList (cs : List Char) : encode (String.ofList cs) = cs.flatMap String.utf8EncodeChar := by
  rw [encode, String.toUTF8, String.toByteArray_ofList, List.utf8Encode, List.data_toByteArray]

theorem encode_eq (s : String) : encode s = s.toList.flatMap String.utf8EncodeChar := by
  rw [← encode_ofList, String.ofList_toList]

theorem encode_append (s t : String) : encode (s ++ t) = encode s ++ encode t := by
  rw [encode_eq, String.toList_append, List.flatMap_append, ← encode_eq, ← encode_eq]

/-! ## One character -/

theorem utf8EncodeChar_ascii {c : Char} (small : c.toNat < 0x80) :
    String.utf8EncodeChar c = [UInt8.ofNat c.toNat] := by
  have one : c.val.toNat ≤ 127 := Nat.le_of_lt_succ small
  rw [String.utf8EncodeChar]
  exact if_pos one

/-- A character beyond the first 128 has no bytes of ASCII. -/
theorem le_of_mem_utf8EncodeChar {c : Char} (large : ¬c.toNat < 0x80) {b : UInt8}
    (h : b ∈ String.utf8EncodeChar c) : 0x80 ≤ b := by
  have high {n : Nat} (least : 0x80 ≤ n) (most : n < 0x100) : (0x80 : UInt8) ≤ UInt8.ofNat n := by
    rw [UInt8.le_iff_toNat_le, UInt8.toNat_ofNat_of_lt' most]
    exact least
  have many : ¬c.val.toNat ≤ 127 := fun few => large (Nat.lt_succ_of_le few)
  have valid : c.val.toNat < 0xD800 ∨ 0xDFFF < c.val.toNat ∧ c.val.toNat < 0x110000 := c.valid
  rw [String.utf8EncodeChar, if_neg many] at h
  split at h
  · simp only [List.mem_cons, List.not_mem_nil, or_false] at h
    rcases h with rfl | rfl <;> exact high (by omega) (by omega)
  split at h
  · simp only [List.mem_cons, List.not_mem_nil, or_false] at h
    rcases h with rfl | rfl | rfl <;> exact high (by omega) (by omega)
  · simp only [List.mem_cons, List.not_mem_nil, or_false] at h
    rcases h with rfl | rfl | rfl | rfl <;> exact high (by omega) (by omega)

/-- A continuation byte gives back the six bits it carries, where they lie in the range asked for. -/
theorem tailWithin?_ofNat {low high : UInt8} {n : Nat} (small : n < 0x40) (least : low.toNat ≤ n + 0x80)
    (most : n + 0x80 ≤ high.toNat) : tailWithin? low high (UInt8.ofNat (n + 0x80)) = some n := by
  have value : (UInt8.ofNat (n + 0x80)).toNat = n + 0x80 := UInt8.toNat_ofNat_of_lt' (by change _ < 256; omega)
  have within : (low ≤ UInt8.ofNat (n + 0x80) && UInt8.ofNat (n + 0x80) ≤ high) = true := by
    rw [Bool.and_eq_true, decide_eq_true_eq, decide_eq_true_eq, UInt8.le_iff_toNat_le, UInt8.le_iff_toNat_le,
      value]
    exact ⟨least, most⟩
  rw [tailWithin?, if_pos within, value, Nat.add_sub_cancel]

theorem tail?_ofNat {n : Nat} (small : n < 0x40) : tail? (UInt8.ofNat (n + 0x80)) = some n :=
  tailWithin?_ofNat small (by change 128 ≤ _; omega) (by change _ ≤ 191; omega)

/-! The classes of the first byte follow the number of bytes. -/

section Lengths

variable {a b c d : Nat} (rest : Bytes)

theorem decodeChar?_one (ha : a < 0x80) : decodeChar? (UInt8.ofNat a :: rest) = some (Char.ofNat a, 1) := by
  have front : (UInt8.ofNat a).toNat = a := UInt8.toNat_ofNat_of_lt' (by change _ < 256; omega)
  simp only [decodeChar?, front, if_pos ha]

theorem decodeChar?_two (long : 2 ≤ a) (ha : a < 0x20) (hb : b < 0x40) :
    decodeChar? (UInt8.ofNat (a + 0xC0) :: UInt8.ofNat (b + 0x80) :: rest) =
      some (Char.ofNat (a * 0x40 + b), 2) := by
  have front : (UInt8.ofNat (a + 0xC0)).toNat = a + 0xC0 := UInt8.toNat_ofNat_of_lt' (by change _ < 256; omega)
  have many : ¬a + 0xC0 < 0x80 ∧ ¬a + 0xC0 < 0xC2 := by omega
  simp only [decodeChar?, front, if_neg many.1, if_neg many.2, if_pos (show a + 0xC0 < 0xE0 by omega),
    tail?_ofNat hb, Option.bind_eq_bind, Option.bind_some, Nat.add_sub_cancel]

theorem decodeChar?_three (ha : a < 0x10) (hb : b < 0x40) (hc : c < 0x40) (long : a = 0 → 0x20 ≤ b)
    (noSurrogate : a = 0xD → b < 0x20) :
    decodeChar? (UInt8.ofNat (a + 0xE0) :: UInt8.ofNat (b + 0x80) :: UInt8.ofNat (c + 0x80) :: rest) =
      some (Char.ofNat (a * 0x1000 + b * 0x40 + c), 3) := by
  have front : (UInt8.ofNat (a + 0xE0)).toNat = a + 0xE0 := UInt8.toNat_ofNat_of_lt' (by change _ < 256; omega)
  have many : ¬a + 0xE0 < 0x80 ∧ ¬a + 0xE0 < 0xC2 ∧ ¬a + 0xE0 < 0xE0 := by omega
  have second : tailWithin? (if a + 0xE0 == 0xE0 then 0xA0 else 0x80) (if a + 0xE0 == 0xED then 0x9F else 0xBF)
      (UInt8.ofNat (b + 0x80)) = some b := by
    simp only [beq_iff_eq]
    apply tailWithin?_ofNat hb
    · split <;> simp only [UInt8.toNat_ofNat] <;> omega
    · split <;> simp only [UInt8.toNat_ofNat] <;> omega
  simp only [decodeChar?, front, if_neg many.1, if_neg many.2.1, if_neg many.2.2,
    if_pos (show a + 0xE0 < 0xF0 by omega), second, tail?_ofNat hc, Option.bind_eq_bind, Option.bind_some,
    Nat.add_sub_cancel]

theorem decodeChar?_four (hb : b < 0x40) (hc : c < 0x40) (hd : d < 0x40) (long : a = 0 → 0x10 ≤ b)
    (last : a < 4 ∨ a = 4 ∧ b < 0x10) :
    decodeChar? (UInt8.ofNat (a + 0xF0) :: UInt8.ofNat (b + 0x80) :: UInt8.ofNat (c + 0x80) ::
      UInt8.ofNat (d + 0x80) :: rest) = some (Char.ofNat (a * 0x40000 + b * 0x1000 + c * 0x40 + d), 4) := by
  have front : (UInt8.ofNat (a + 0xF0)).toNat = a + 0xF0 := UInt8.toNat_ofNat_of_lt' (by change _ < 256; omega)
  have many : ¬a + 0xF0 < 0x80 ∧ ¬a + 0xF0 < 0xC2 ∧ ¬a + 0xF0 < 0xE0 ∧ ¬a + 0xF0 < 0xF0 := by omega
  have second : tailWithin? (if a + 0xF0 == 0xF0 then 0x90 else 0x80) (if a + 0xF0 == 0xF4 then 0x8F else 0xBF)
      (UInt8.ofNat (b + 0x80)) = some b := by
    simp only [beq_iff_eq]
    apply tailWithin?_ofNat hb
    · split <;> simp only [UInt8.toNat_ofNat] <;> omega
    · split <;> simp only [UInt8.toNat_ofNat] <;> omega
  simp only [decodeChar?, front, if_neg many.1, if_neg many.2.1, if_neg many.2.2.1, if_neg many.2.2.2,
    if_pos (show a + 0xF0 < 0xF5 by omega), second, tail?_ofNat hc, tail?_ofNat hd, Option.bind_eq_bind,
    Option.bind_some, Nat.add_sub_cancel]

end Lengths

/-- **A character is decoded from its bytes**, whatever follows them. -/
theorem decodeChar?_append (c : Char) (rest : Bytes) :
    decodeChar? (String.utf8EncodeChar c ++ rest) = some (c, (String.utf8EncodeChar c).length) := by
  have valid : c.toNat < 0xD800 ∨ 0xDFFF < c.toNat ∧ c.toNat < 0x110000 := c.valid
  have back {n : Nat} (same : n = c.toNat) : Char.ofNat n = c := same ▸ Char.ofNat_toNat c
  unfold String.utf8EncodeChar
  generalize form : c.val.toNat = v
  have form : c.toNat = v := form
  rw [form] at valid back
  by_cases one : v ≤ 127
  · rw [if_pos one]
    exact (decodeChar?_one rest (by omega)).trans (by rw [back rfl]; rfl)
  by_cases two : v ≤ 2047
  · rw [if_neg one, if_pos two]
    refine (decodeChar?_two rest (by omega) (by omega) (by omega)).trans ?_
    rw [back (by omega)]
    rfl
  by_cases three : v ≤ 65535
  · rw [if_neg one, if_neg two, if_pos three]
    refine (decodeChar?_three rest (by omega) (by omega) (by omega) (by omega) (by omega)).trans ?_
    rw [back (by omega)]
    rfl
  · rw [if_neg one, if_neg two, if_neg three]
    refine (decodeChar?_four rest (by omega) (by omega) (by omega) (by omega) (by omega)).trans ?_
    rw [back (by omega)]
    rfl

/-! ## Texts -/

theorem decodeFrom_skip (taken : Bytes) (valid : Nat) (done : List Char) (rest : Bytes) :
    decodeFrom taken.length valid done (taken ++ rest) = decodeFrom 0 valid done rest := by
  induction taken with
  | nil => rfl
  | cons b taken ih => exact ih

theorem decodeFrom_encoded (cs : List Char) (valid : Nat) (done : List Char) :
    decodeFrom 0 valid done (cs.flatMap String.utf8EncodeChar) = .ok (cs.reverse ++ done) := by
  induction cs generalizing valid done with
  | nil => rfl
  | cons c cs ih =>
    rw [List.flatMap_cons]
    have read := decodeChar?_append c (cs.flatMap String.utf8EncodeChar)
    cases bytes : String.utf8EncodeChar c with
    | nil => exact absurd bytes (List.ne_nil_of_length_pos (by simp [Char.utf8Size_pos]))
    | cons b tail =>
      rw [bytes, List.cons_append] at read
      rw [List.cons_append, decodeFrom, read]
      change decodeFrom tail.length _ _ _ = _
      rw [decodeFrom_skip, ih, List.reverse_cons, List.append_assoc]
      rfl

/-- **A text is decoded from its bytes.** -/
theorem decode_encode (s : String) : decode (encode s) = .ok s := by
  rw [decode, encode_eq, decodeFrom_encoded, List.append_nil]
  change Except.ok (String.ofList s.toList.reverse.reverse) = _
  rw [List.reverse_reverse, String.ofList_toList]

theorem encode_injective : Function.Injective encode := by
  intro s t same
  have decoded := congrArg decode same
  rw [decode_encode, decode_encode] at decoded
  exact Except.ok.inj decoded

end RecordGate.Text
