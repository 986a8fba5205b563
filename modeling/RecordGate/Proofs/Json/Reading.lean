import RecordGate.Proofs.Json.Containers

/-!
# Reading a value

What is read as a value is a value of the grammar (`Json.value_sound`), and it is read as the same value
whatever gaps stand before it, whatever follows it, and wherever it stands as long as it does not nest too deep
there (`Json.Reads`). For an array this goes for each of its items (`Json.parse_array`).
-/

namespace RecordGate.Json

/-! ## Values -/

/-- The letters of a constant are read whatever follows them. -/
theorem ident_reads (letters : Bytes) (j : Json) (after : Bytes) :
    ident letters j (letters ++ after) = .ok (j, after) := by
  induction letters with
  | nil => rfl
  | cons letter rest ih =>
    rw [List.cons_append, ident, if_pos (beq_self_eq_true letter), ih]

theorem ident_sound {letters input rest : Bytes} {j k : Json} (h : ident letters j input = .ok (k, rest)) :
    k = j ∧ input = letters ++ rest := by
  induction letters generalizing input with
  | nil =>
    rw [ident] at h
    cases h
    exact ⟨rfl, rfl⟩
  | cons letter letters ih =>
    cases input with
    | nil => cases h
    | cons b input =>
      rw [ident] at h
      split at h
      · next same =>
        obtain ⟨rfl, rfl⟩ := ih h
        exact ⟨rfl, by rw [beq_iff_eq.mp same]; rfl⟩
      · cases h

section Value

variable (depth fuel : Nat) (rest : Bytes)

theorem value_gap : SkipsGaps (value depth) := by
  intro fuel g input gap
  rw [value.eq_def, value.eq_def depth fuel input]
  simp only [skipGaps_append gap]

theorem value_nil : value depth fuel [] = .error .eofValue := by
  rw [value.eq_def]
  rfl

theorem value_null : value depth fuel (0x6E :: rest) = ident nullTail .null rest := by
  rw [value.eq_def]
  rfl

theorem value_true : value depth fuel (0x74 :: rest) = ident trueTail (.bool true) rest := by
  rw [value.eq_def]
  rfl

theorem value_false : value depth fuel (0x66 :: rest) = ident falseTail (.bool false) rest := by
  rw [value.eq_def]
  rfl

theorem value_string :
    value depth fuel (0x22 :: rest) = (string fuel rest).map fun (s, rest) => (.str s, rest) := by
  rw [value.eq_def]
  rfl

theorem value_negative :
    value depth fuel (0x2D :: rest) = (number false rest).map fun (n, rest) => (.num n, rest) := by
  rw [value.eq_def]
  rfl

theorem value_array : value (depth + 1) fuel (0x5B :: rest) = items (value depth) fuel [] rest := by
  rw [value.eq_def]
  rfl

theorem value_object : value (depth + 1) fuel (0x7B :: rest) = members (value depth) fuel [] rest := by
  rw [value.eq_def]
  rfl

theorem value_digit {b : UInt8} (digit : isDigitByte b = true) :
    value depth fuel (b :: rest) = (number true (b :: rest)).map fun (n, rest) => (.num n, rest) := by
  have others (c : UInt8) (noDigit : isDigitByte c = false) : (b == c) = false := by
    cases same : b == c with
    | false => rfl
    | true =>
      rw [← beq_iff_eq.mp same, digit] at noDigit
      cases noDigit
  rw [value.eq_def]
  simp [skipGaps_cons (notGap_of_isDigit digit), others 0x6E rfl, others 0x74 rfl, others 0x66 rfl,
    others 0x22 rfl, others 0x2D rfl, digit]

/-- A byte that a value may start with. -/
inductive Leads : (depth : Nat) → UInt8 → Prop where
  | null {depth : Nat} : Leads depth 0x6E
  | true {depth : Nat} : Leads depth 0x74
  | false {depth : Nat} : Leads depth 0x66
  | string {depth : Nat} : Leads depth 0x22
  | negative {depth : Nat} : Leads depth 0x2D
  | digit {depth : Nat} {b : UInt8} (digit : isDigitByte b = true) : Leads depth b
  | array {depth : Nat} : Leads (depth + 1) 0x5B
  | object {depth : Nat} : Leads (depth + 1) 0x7B

theorem leads_of_value {b : UInt8} (notGap : isGapByte b = false) {a : Json × Bytes}
    (h : value depth fuel (b :: rest) = .ok a) : Leads depth b := by
  rw [value.eq_def] at h
  simp only [skipGaps_cons notGap] at h
  split at h
  · next same => exact beq_iff_eq.mp same ▸ .null
  split at h
  · next same => exact beq_iff_eq.mp same ▸ .true
  split at h
  · next same => exact beq_iff_eq.mp same ▸ .false
  split at h
  · next same => exact beq_iff_eq.mp same ▸ .string
  split at h
  · next same => exact beq_iff_eq.mp same ▸ .negative
  split at h
  · next digit => exact .digit digit
  split at h
  · split at h <;> cases h
  · split at h
    · next same => exact beq_iff_eq.mp same ▸ .array
    · split at h
      · next same => exact beq_iff_eq.mp same ▸ .object
      · cases h

end Value

theorem IsUnsigned.startsDigit {t : Bytes} (h : IsUnsigned t) : ∃ d rest, t = d :: rest ∧ isDigitByte d = true := by
  obtain ⟨whole, tail, isWhole, -, rfl⟩ := h
  cases isWhole with
  | zero => exact ⟨0x30, tail, rfl, rfl⟩
  | digits d digit nonzero rest => exact ⟨d, _, rfl, digit⟩

theorem IsScalar.startsItem {t : Bytes} (h : IsScalar t) : StartsItem t := by
  cases h with
  | null => exact ⟨_, _, rfl, by decide, by decide⟩
  | true => exact ⟨_, _, rfl, by decide, by decide⟩
  | false => exact ⟨_, _, rfl, by decide, by decide⟩
  | string h =>
    obtain ⟨tail, -, rfl⟩ := h
    exact ⟨_, _, rfl, by decide, by decide⟩
  | positive h =>
    obtain ⟨d, rest, rfl, digit⟩ := h.startsDigit
    refine ⟨d, rest, rfl, visible_of_isDigit digit, ?_⟩
    rintro rfl
    cases digit
  | negative h => exact ⟨_, _, rfl, by decide, by decide⟩

theorem IsValue.startsItem {depth : Nat} {t : Bytes} (h : IsValue depth t) : StartsItem t := by
  cases depth with
  | zero => exact IsScalar.startsItem h
  | succ depth =>
    rcases h with scalar | array | object
    · exact scalar.startsItem
    · obtain ⟨-, -⟩ := array
      exact ⟨_, _, rfl, by decide, by decide⟩
    · obtain ⟨-, -, -⟩ := object
      exact ⟨_, _, rfl, by decide, by decide⟩

theorem IsValue.scalar {t : Bytes} (h : IsScalar t) (depth : Nat) : IsValue depth t := by
  cases depth with
  | zero => exact h
  | succ depth => exact .inl h

/-! What a value starts with tells how it is read. -/

section Sound

variable {depth depth' fuel : Nat} {b : UInt8} {left rest : Bytes} {j : Json}

/-- The input begins with a text of a value, which a reader of its own depth reads in the same way. -/
def TakesValue (depth depth' : Nat) (input rest : Bytes) (j : Json) : Prop :=
  ∃ t, IsValue depth t ∧ Reads (value depth') t j ∧ input = t ++ rest

theorem takesValue_constant {letters : Bytes} {k : Json} (scalar : IsScalar (b :: letters))
    (form : ∀ depth fuel rest, value depth fuel (b :: rest) = ident letters k rest)
    (h : value depth fuel (b :: left) = .ok (j, rest)) : TakesValue depth depth' (b :: left) rest j := by
  rw [form] at h
  obtain ⟨rfl, rfl⟩ := ident_sound h
  refine ⟨b :: letters, .scalar scalar depth, fun fuel after _ _ => ?_, rfl⟩
  rw [List.cons_append, form, ident_reads]

theorem takesValue_string (h : value depth fuel (0x22 :: left) = .ok (j, rest)) :
    TakesValue depth depth' (0x22 :: left) rest j := by
  rw [value_string] at h
  obtain ⟨⟨s, left⟩, read, same⟩ := map_eq_ok.mp h
  cases same
  obtain ⟨t, isTail, rfl, reads⟩ := string_sound read
  refine ⟨0x22 :: t, .scalar (.string ⟨t, isTail, rfl⟩) depth, fun fuel after le _ => ?_, rfl⟩
  rw [List.cons_append, value_string, reads fuel after (Nat.le_of_succ_le le)]
  rfl

theorem takesValue_negative (h : value depth fuel (0x2D :: left) = .ok (j, rest)) :
    TakesValue depth depth' (0x2D :: left) rest j := by
  rw [value_negative] at h
  obtain ⟨⟨n, left⟩, read, same⟩ := map_eq_ok.mp h
  cases same
  obtain ⟨t, isUnsigned, rfl, reads⟩ := takes_number false _ _ _ read
  refine ⟨0x2D :: t, .scalar (.negative isUnsigned) depth, fun fuel after _ stops => ?_, rfl⟩
  rw [List.cons_append, value_negative, reads after stops]
  rfl

theorem takesValue_digit (digit : isDigitByte b = true) (h : value depth fuel (b :: left) = .ok (j, rest)) :
    TakesValue depth depth' (b :: left) rest j := by
  rw [value_digit _ _ _ digit] at h
  obtain ⟨⟨n, left⟩, read, same⟩ := map_eq_ok.mp h
  cases same
  obtain ⟨t, isUnsigned, split, reads⟩ := takes_number true _ _ _ read
  refine ⟨t, .scalar (.positive isUnsigned) depth, fun fuel after _ stops => ?_, split⟩
  obtain ⟨d, t, rfl, digit⟩ := isUnsigned.startsDigit
  rw [List.cons_append, value_digit _ _ _ digit, ← List.cons_append, reads after stops]
  rfl

theorem takesValue_array (nested : ReadsLike (IsValue depth) (value depth) (value depth'))
    (h : value (depth + 1) fuel (0x5B :: left) = .ok (j, rest)) :
    TakesValue (depth + 1) (depth' + 1) (0x5B :: left) rest j := by
  rw [value_array] at h
  obtain ⟨g, pieces, values, gap, parts, all, rfl, rfl⟩ := items_sound nested h
  have text (after : Bytes) : 0x5B :: (g ++ listed (pieces.map Piece.bytes) ++ [0x5D]) ++ after =
      0x5B :: (g ++ (listedFrom true (pieces.map Piece.bytes) ++ 0x5D :: after)) := by
    simp [listed_eq]
  refine ⟨_, .inr (.inl (.mk gap parts)), fun fuel after le _ => ?_, (text rest).symm⟩
  rw [text, value_array]
  refine items_reads (fun p hp => (parts p hp).startsItem) all gap [] after ?_
  rw [← List.append_nil (0x5B :: _), text] at le
  exact Nat.le_of_succ_le le

theorem takesValue_object (nested : ReadsLike (IsValue depth) (value depth) (value depth'))
    (h : value (depth + 1) fuel (0x7B :: left) = .ok (j, rest)) :
    TakesValue (depth + 1) (depth' + 1) (0x7B :: left) rest j := by
  rw [value_object] at h
  obtain ⟨g, ms, vs, gap, parts, all, rfl, rfl⟩ := members_sound nested h
  have text (after : Bytes) : 0x7B :: (g ++ listed (ms.map Member.bytes) ++ [0x7D]) ++ after =
      0x7B :: (g ++ (listedFrom true (ms.map Member.bytes) ++ 0x7D :: after)) := by
    simp [listed_eq]
  refine ⟨_, .inr (.inr (.mk gap (fun m hm => (parts m hm).1) fun m hm => (parts m hm).2)),
    fun fuel after le _ => ?_, (text rest).symm⟩
  rw [text, value_object]
  refine members_reads (value_gap depth') all gap [] after ?_
  rw [← List.append_nil (0x7B :: _), text] at le
  exact Nat.le_of_succ_le le

theorem takesValue_of_leads (le : depth ≤ depth')
    (nested : ∀ shallower deeper, depth = shallower + 1 → depth' = deeper + 1 →
      ReadsLike (IsValue shallower) (value shallower) (value deeper))
    (leads : Leads depth b) (h : value depth fuel (b :: left) = .ok (j, rest)) :
    TakesValue depth depth' (b :: left) rest j := by
  cases leads with
  | null => exact takesValue_constant .null value_null h
  | true => exact takesValue_constant .true value_true h
  | false => exact takesValue_constant .false value_false h
  | string => exact takesValue_string h
  | negative => exact takesValue_negative h
  | digit digit => exact takesValue_digit digit h
  | @array depth =>
    obtain ⟨depth', rfl⟩ : ∃ deeper, depth' = deeper + 1 := Nat.exists_eq_add_one.mpr (by omega)
    exact takesValue_array (nested depth depth' rfl rfl) h
  | @object depth =>
    obtain ⟨depth', rfl⟩ : ∃ deeper, depth' = deeper + 1 := Nat.exists_eq_add_one.mpr (by omega)
    exact takesValue_object (nested depth depth' rfl rfl) h

end Sound

theorem value_sound_of_nested {depth depth' : Nat} (le : depth ≤ depth')
    (nested : ∀ shallower deeper, depth = shallower + 1 → depth' = deeper + 1 →
      ReadsLike (IsValue shallower) (value shallower) (value deeper)) :
    ReadsLike (IsValue depth) (value depth) (value depth') := by
  intro fuel input j rest h
  obtain ⟨g, gap, split⟩ := exists_gap input
  have behind : value depth fuel (skipGaps input) = .ok (j, rest) := by
    rw [← value_gap depth fuel g _ gap, ← split]
    exact h
  cases front : skipGaps input with
  | nil =>
    rw [front, value_nil] at behind
    cases behind
  | cons b left =>
    rw [front] at behind
    have leads := leads_of_value depth fuel left (notGap_of_skipGaps front) behind
    obtain ⟨t, isValue, reads, same⟩ := takesValue_of_leads le nested leads behind
    exact ⟨g, t, gap, isValue, reads, by rw [← same, ← front]; exact split⟩

/--
**What is read as a value is a value**, and it is read as the same value whatever stands around it, where it may
nest as deep.
-/
theorem value_sound {depth depth' : Nat} (le : depth ≤ depth') :
    ReadsLike (IsValue depth) (value depth) (value depth') := by
  induction depth generalizing depth' with
  | zero =>
    refine value_sound_of_nested le fun shallower deeper none => ?_
    cases none
  | succ depth ih =>
    refine value_sound_of_nested le fun shallower deeper same same' => ?_
    cases same
    exact ih (by omega)

/-! ## Whole texts -/

/-- A text that does not end with a gap. -/
def Ends (t : Bytes) : Prop := ∃ front b, t = front ++ [b] ∧ isGapByte b = false

theorem Ends.append_left {u : Bytes} (h : Ends u) (t : Bytes) : Ends (t ++ u) := by
  obtain ⟨front, b, rfl, notGap⟩ := h
  exact ⟨t ++ front, b, (List.append_assoc ..).symm, notGap⟩

theorem ends_digits {d : UInt8} {ds : Bytes} (digit : isDigitByte d = true) (digits : AllDigits ds) :
    Ends (d :: ds) := by
  induction ds generalizing d with
  | nil => exact ⟨[], d, rfl, notGap_of_isDigit digit⟩
  | cons e ds ih =>
    obtain ⟨digit, digits⟩ := List.forall_mem_cons.mp digits
    exact (ih digit digits).append_left [d]

theorem StringTail.ends {t : Bytes} (h : StringTail t) : Ends t := by
  induction h with
  | close => exact ⟨[], 0x22, rfl, rfl⟩
  | byte b quote backslash control tail ih => exact ih.append_left [b]
  | escape c letter tail ih => exact ih.append_left [0x5C, c]
  | unicode a b c d hex tail ih => exact ih.append_left [0x5C, 0x75, a, b, c, d]

theorem IsUnsigned.ends {t : Bytes} (h : IsUnsigned t) : Ends t := by
  obtain ⟨whole, tail, isWhole, ⟨fraction, exponent, isFraction, isExponent, rfl⟩, rfl⟩ := h
  cases isExponent with
  | digits mark sign d letter signed digit rest =>
    exact (((ends_digits digit rest).append_left (mark :: sign)).append_left fraction).append_left whole
  | none =>
    rw [List.append_nil]
    cases isFraction with
    | decimals d digit rest => exact ((ends_digits digit rest).append_left [0x2E]).append_left whole
    | none =>
      rw [List.append_nil]
      cases isWhole with
      | zero => exact ⟨[], 0x30, rfl, rfl⟩
      | digits d digit nonzero rest => exact ends_digits digit rest

theorem IsScalar.ends {t : Bytes} (h : IsScalar t) : Ends t := by
  cases h with
  | null => exact ⟨[0x6E, 0x75, 0x6C], 0x6C, rfl, rfl⟩
  | true => exact ⟨[0x74, 0x72, 0x75], 0x65, rfl, rfl⟩
  | false => exact ⟨[0x66, 0x61, 0x6C, 0x73], 0x65, rfl, rfl⟩
  | string h =>
    obtain ⟨tail, isTail, rfl⟩ := h
    exact isTail.ends.append_left [0x22]
  | positive h => exact h.ends
  | negative h => exact h.ends.append_left [0x2D]

theorem IsValue.ends {depth : Nat} {t : Bytes} (h : IsValue depth t) : Ends t := by
  cases depth with
  | zero => exact IsScalar.ends h
  | succ depth =>
    rcases h with scalar | array | object
    · exact scalar.ends
    · obtain ⟨-, -⟩ := array
      exact ⟨_ :: _, 0x5D, rfl, rfl⟩
    · obtain ⟨-, -, -⟩ := object
      exact ⟨_ :: _, 0x7D, rfl, rfl⟩

/-- A text that ends before a gap has ended before a gap that is behind it. -/
theorem Ends.split {t text g rest : Bytes} (h : Ends t) (gap : IsGap g) (same : text ++ g = t ++ rest) :
    ∃ r, text = t ++ r ∧ rest = r ++ g := by
  rcases List.append_eq_append_iff.mp same with ⟨tail, rfl, rfl⟩ | ⟨r, rfl, rfl⟩
  · -- The text would end within the gap.
    obtain ⟨front, b, last, notGap⟩ := h
    rcases List.eq_nil_or_concat tail with rfl | ⟨tail, c, rfl⟩
    · exact ⟨[], (List.append_nil _).symm.trans (List.append_nil _).symm, rfl⟩
    · rw [List.concat_eq_append, ← List.append_assoc] at last
      obtain rfl := List.singleton_inj.mp (List.append_inj_right' last rfl)
      have isGap : isGapByte c = true := List.all_eq_true.mp gap c (by simp)
      rw [notGap] at isGap
      cases isGap
  · exact ⟨r, rfl, rfl⟩

variable {input : Bytes} {j : Json}

theorem stops_of_isGap {g : Bytes} (gap : IsGap g) : Stops g := by
  cases g with
  | nil => exact clear_nil _
  | cons b rest => exact clear_cons.mpr (not_inNumber_of_isGap (Bool.and_eq_true_iff.mp gap).1)

/-- A text that is read as a value, with gaps around it, is read as this value. -/
theorem parse_of_reads (p : Piece) (h : Reads (value maxDepth) p.text j) : parse p.bytes = .ok j := by
  have read : value maxDepth (p.bytes.length + 1) p.bytes = .ok (j, p.after) := by
    rw [Piece.bytes, List.append_assoc, value_gap maxDepth _ _ _ p.gapBefore]
    refine h _ _ ?_ (stops_of_isGap p.gapAfter)
    simp only [List.length_append]
    omega
  refine bind_eq_ok.mpr ⟨_, read, ?_⟩
  dsimp only
  rw [skipGaps_of_isGap p.gapAfter]
  rfl

theorem value_of_parse (h : parse input = .ok j) :
    ∃ rest, IsGap rest ∧ value maxDepth (input.length + 1) input = .ok (j, rest) := by
  obtain ⟨⟨k, rest⟩, read, behind⟩ := bind_eq_ok.mp h
  dsimp only at behind
  split at behind
  · next noMore =>
    cases behind
    exact ⟨rest, isGap_of_skipGaps (List.isEmpty_iff.mp noMore), read⟩
  · cases behind

/-- What is read as a text of JSON is one value, with gaps around it. -/
theorem parse_sound (h : parse input = .ok j) :
    ∃ p : Piece, input = p.bytes ∧ IsValue maxDepth p.text ∧ Reads (value maxDepth) p.text j := by
  obtain ⟨rest, behind, read⟩ := value_of_parse h
  obtain ⟨g, t, gap, isValue, reads, split⟩ := value_sound (Nat.le_refl _) _ _ _ _ read
  exact ⟨⟨g, t, rest, gap, behind⟩, split.trans (List.append_assoc ..).symm, isValue, reads⟩

/-- **What is read is a text of JSON.** -/
theorem isText_of_parse (h : parse input = .ok j) : IsText input := by
  obtain ⟨p, rfl, isValue, -⟩ := parse_sound h
  exact ⟨maxDepth, p, isValue, rfl⟩

/-- **Gaps around a text do not matter**, whatever the text. -/
theorem parse_bytes (p : Piece) : parse p.bytes = .ok j ↔ parse p.text = .ok j := by
  constructor
  · intro h
    obtain ⟨rest, behind, read⟩ := value_of_parse h
    rw [Piece.bytes, List.append_assoc, value_gap maxDepth _ _ _ p.gapBefore] at read
    obtain ⟨g, t, gap, isValue, reads, split⟩ := value_sound (Nat.le_refl _) _ _ _ _ read
    obtain ⟨r, text, rfl⟩ := (isValue.ends.append_left g).split p.gapAfter (split.trans (List.append_assoc ..).symm)
    have gapAfter : IsGap r := (Bool.and_eq_true_iff.mp (List.all_append.symm.trans behind)).1
    rw [text]
    exact parse_of_reads ⟨g, t, r, gap, gapAfter⟩ reads
  · intro h
    obtain ⟨q, same, isValue, reads⟩ := parse_sound h
    have around : p.bytes = Piece.bytes ⟨p.before ++ q.before, q.text, q.after ++ p.after,
        p.gapBefore.append q.gapBefore, q.gapAfter.append p.gapAfter⟩ := by
      simp [Piece.bytes, same]
    rw [around]
    exact parse_of_reads _ reads

/-- What is read as an array or an object is read behind the bracket that opens it. -/
theorem value_cases {depth fuel : Nat} {b : UInt8} (leads : Leads depth b) {left rest : Bytes}
    (h : value depth fuel (b :: left) = .ok (j, rest)) :
    ((∀ values, j ≠ .arr values) ∧ ∀ members, j ≠ .obj members) ∨
      ∃ shallower, depth = shallower + 1 ∧
        (b = 0x5B ∧ items (value shallower) fuel [] left = .ok (j, rest) ∨
          b = 0x7B ∧ members (value shallower) fuel [] left = .ok (j, rest)) := by
  cases leads with
  | null =>
    rw [value_null] at h
    cases (ident_sound h).1
    exact .inl ⟨nofun, nofun⟩
  | true =>
    rw [value_true] at h
    cases (ident_sound h).1
    exact .inl ⟨nofun, nofun⟩
  | false =>
    rw [value_false] at h
    cases (ident_sound h).1
    exact .inl ⟨nofun, nofun⟩
  | string =>
    rw [value_string] at h
    obtain ⟨read, -, same⟩ := map_eq_ok.mp h
    cases same
    exact .inl ⟨nofun, nofun⟩
  | negative =>
    rw [value_negative] at h
    obtain ⟨read, -, same⟩ := map_eq_ok.mp h
    cases same
    exact .inl ⟨nofun, nofun⟩
  | digit digit =>
    rw [value_digit _ _ _ digit] at h
    obtain ⟨read, -, same⟩ := map_eq_ok.mp h
    cases same
    exact .inl ⟨nofun, nofun⟩
  | @array depth =>
    rw [value_array] at h
    exact .inr ⟨depth, rfl, .inl ⟨rfl, h⟩⟩
  | @object depth =>
    rw [value_object] at h
    exact .inr ⟨depth, rfl, .inr ⟨rfl, h⟩⟩

/-- What is read as an array starts with a bracket. -/
theorem items_of_value {depth fuel : Nat} {b : UInt8} (leads : Leads depth b) {left rest : Bytes} {values : List Json}
    (h : value depth fuel (b :: left) = .ok (.arr values, rest)) :
    b = 0x5B ∧ ∃ shallower, depth = shallower + 1 ∧
      items (value shallower) fuel [] left = .ok (.arr values, rest) := by
  obtain ⟨noArray, -⟩ | ⟨shallower, deep, ⟨front, within⟩ | ⟨-, within⟩⟩ := value_cases leads h
  · exact absurd rfl (noArray values)
  · exact ⟨front, shallower, deep, within⟩
  · obtain ⟨g, ms, vs, -, -, -, same, -⟩ := members_sound (value_sound (Nat.le_refl shallower)) within
    cases same

/-- What is read as an object starts with a brace. -/
theorem members_of_value {depth fuel : Nat} {b : UInt8} (leads : Leads depth b) {left rest : Bytes}
    {found : List (String × Json)} (h : value depth fuel (b :: left) = .ok (.obj found, rest)) :
    b = 0x7B ∧ ∃ shallower, depth = shallower + 1 ∧
      members (value shallower) fuel [] left = .ok (.obj found, rest) := by
  obtain ⟨-, noObject⟩ | ⟨shallower, deep, ⟨-, within⟩ | ⟨front, within⟩⟩ := value_cases leads h
  · exact absurd rfl (noObject found)
  · obtain ⟨g, ps, vs, -, -, -, same, -⟩ := items_sound (value_sound (Nat.le_refl shallower)) within
    cases same
  · exact ⟨front, shallower, deep, within⟩

/-- Behind gaps a value begins with a byte that it may start with, and behind it there are gaps. -/
theorem value_at_front (h : parse input = .ok j) :
    ∃ lead b left rest, IsGap lead ∧ IsGap rest ∧ input = lead ++ b :: left ∧ Leads maxDepth b ∧
      value maxDepth (input.length + 1) (b :: left) = .ok (j, rest) := by
  obtain ⟨rest, behind, read⟩ := value_of_parse h
  obtain ⟨lead, gap, split⟩ := exists_gap input
  have first : value maxDepth (input.length + 1) (skipGaps input) = .ok (j, rest) := by
    rw [← value_gap maxDepth _ lead _ gap, ← split]
    exact read
  cases front : skipGaps input with
  | nil =>
    rw [front, value_nil] at first
    cases first
  | cons b left =>
    rw [front] at first
    have leads := leads_of_value maxDepth _ left (notGap_of_skipGaps front) first
    exact ⟨lead, b, left, rest, gap, behind, front ▸ split, leads, first⟩

/-- The bytes of an array, with gaps around its brackets. -/
def arrayBytes (lead inner trail : Bytes) (pieces : List Piece) : Bytes :=
  lead ++ 0x5B :: (inner ++ (listed (pieces.map Piece.bytes) ++ 0x5D :: trail))

/-- What is read as an array is one, and its items are what is read of its pieces, one by one and in order. -/
theorem parse_array {values : List Json} (h : parse input = .ok (.arr values)) :
    ∃ lead inner trail pieces, IsGap lead ∧ IsGap inner ∧ IsGap trail ∧ input = arrayBytes lead inner trail pieces ∧
      (∀ p ∈ pieces, ∃ depth, IsValue depth p.text) ∧
      List.Forall₂ (fun p v => parse p.text = .ok v) pieces values := by
  obtain ⟨lead, b, left, rest, gap, behind, split, leads, read⟩ := value_at_front h
  obtain ⟨rfl, depth, deep, within⟩ := items_of_value leads read
  have le : depth ≤ maxDepth := deep ▸ Nat.le_succ depth
  obtain ⟨inner, pieces, found, gapInner, parts, all, same, rfl⟩ := items_sound (value_sound le) within
  obtain rfl : values = found := by cases same; rfl
  refine ⟨lead, inner, rest, pieces, gap, gapInner, behind, ?_, fun p hp => ⟨depth, parts p hp⟩, ?_⟩
  · rw [split, arrayBytes, listed_eq]
    rfl
  · refine all.imp fun p v reads => ?_
    have alone := parse_of_reads ⟨[], p.text, [], rfl, rfl⟩ reads
    rwa [Piece.bytes, List.nil_append, List.append_nil] at alone

/-- The bytes of an object, with gaps around its braces. -/
def objectBytes (lead inner trail : Bytes) (ms : List Member) : Bytes :=
  lead ++ 0x7B :: (inner ++ (listed (ms.map Member.bytes) ++ 0x7D :: trail))

/-- A reader of the values of a whole text that is an object. -/
def memberValue : Nat → Bytes → Except ParseError (Json × Bytes) := value (maxDepth - 1)

/-- What is read as an object is one, and its members are read one by one. -/
theorem parse_object {found : List (String × Json)} (h : parse input = .ok (.obj found)) :
    ∃ lead inner trail ms vs, IsGap lead ∧ IsGap inner ∧ IsGap trail ∧ input = objectBytes lead inner trail ms ∧
      List.Forall₂ (ReadsMember memberValue) ms vs ∧ found = sortMembers vs := by
  obtain ⟨lead, b, left, rest, gap, behind, split, leads, read⟩ := value_at_front h
  obtain ⟨rfl, depth, deep, within⟩ := members_of_value leads read
  obtain rfl : depth = maxDepth - 1 := by rw [deep, Nat.add_sub_cancel]
  obtain ⟨inner, ms, vs, gapInner, -, all, same, rfl⟩ := members_sound (value_sound (Nat.le_refl _)) within
  refine ⟨lead, inner, rest, ms, vs, gap, gapInner, behind, ?_, all, Json.obj.inj same⟩
  rw [split, objectBytes, listed_eq]
  rfl

/-- An object whose members are read one by one is read; of members with one name the last stays. -/
theorem parse_objectBytes {lead inner trail : Bytes} {ms : List Member} {vs : List (String × Json)}
    (gapLead : IsGap lead) (gapInner : IsGap inner) (gapTrail : IsGap trail)
    (all : List.Forall₂ (ReadsMember memberValue) ms vs) :
    parse (objectBytes lead inner trail ms) = .ok (ofMembers vs) := by
  let text : Bytes := 0x7B :: (inner ++ (listedFrom true (ms.map Member.bytes) ++ [0x7D]))
  have reads : Reads (value maxDepth) text (ofMembers vs) := by
    intro fuel after le _
    have form : text ++ after = 0x7B :: (inner ++ (listedFrom true (ms.map Member.bytes) ++ 0x7D :: after)) := by
      simp [text]
    rw [form]
    refine (value_object (maxDepth - 1) fuel _).trans ?_
    exact members_reads (value_gap _) all gapInner [] after (Nat.le_of_succ_le le)
  have around : objectBytes lead inner trail ms = Piece.bytes ⟨lead, text, trail, gapLead, gapTrail⟩ := by
    simp [objectBytes, Piece.bytes, text, listed_eq]
  rw [around]
  exact parse_of_reads _ reads

end RecordGate.Json
