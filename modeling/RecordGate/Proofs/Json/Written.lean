import RecordGate.Proofs.Json.Numerals
import RecordGate.Proofs.Json.Reading

/-!
# What is written is JSON

The bytes of a value in the form without blanks (`Json.written`). Character by character, a string is written in a
way that is read back (`Json.string_tail`). Every value is written as a value of the grammar
(`Json.exists_isValue`), and no control character stands in it (`Json.clean_written`), so it fits on one line.
-/

namespace RecordGate.Json

/-! ## Strings -/

section Strings

variable (fuel : Nat) (done after : Bytes) (c : Char)

/-- The bytes that are written for a character of a string. -/
def escaped (c : Char) : Bytes := (escapeChar c).flatMap String.utf8EncodeChar

/-- A byte that stands for itself in a string. -/
def StandsAlone (b : UInt8) : Prop := b ≠ 0x22 ∧ b ≠ 0x5C ∧ ¬b < 0x20

theorem hexDigit?_hexChar (n : Nat) :
    ∃ b, String.utf8EncodeChar (hexChar n) = [b] ∧ hexDigit? b = some (n % 16) := by
  have digit : ∀ d < 16, (Nat.digitChar d).toNat < 0x80 ∧
      hexDigit? (UInt8.ofNat (Nat.digitChar d).toNat) = some d := by decide
  obtain ⟨small, value⟩ := digit (n % 16) (Nat.mod_lt _ (by decide))
  exact ⟨_, Text.utf8EncodeChar_ascii small, value⟩

/-- The escape of a control character is read as the byte of the character. -/
theorem unicodeEscape_control (control : c.toNat < 0x20) :
    unicodeEscape (['0', '0', hexChar (c.toNat / 16), hexChar c.toNat].flatMap String.utf8EncodeChar ++ after) =
      .ok (String.utf8EncodeChar c, after) := by
  obtain ⟨high, highByte, highValue⟩ := hexDigit?_hexChar (c.toNat / 16)
  obtain ⟨low, lowByte, lowValue⟩ := hexDigit?_hexChar c.toNat
  have zero : String.utf8EncodeChar '0' = [0x30] := rfl
  have text : ['0', '0', hexChar (c.toNat / 16), hexChar c.toNat].flatMap String.utf8EncodeChar ++ after =
      0x30 :: 0x30 :: high :: low :: after := by
    simp [highByte, lowByte, zero]
  have value : hexEscape (0x30 :: 0x30 :: high :: low :: after) = .ok (c.toNat, after) := by
    have none : hexDigit? 0x30 = some 0 := rfl
    have whole : c.toNat / 16 % 16 * 0x10 + c.toNat % 16 = c.toNat := by omega
    simp only [hexEscape, none, highValue, lowValue, Nat.zero_mul, Nat.zero_add, whole]
  have bytes : codePointBytes c.toNat = String.utf8EncodeChar c := by
    rw [codePointBytes, Char.ofNat_toNat, Text.encode_eq]
    simp
  have noTrailing : ¬(0xDC00 ≤ c.toNat && c.toNat ≤ 0xDFFF) = true := by simp; omega
  have single : (c.toNat < 0xD800 || c.toNat > 0xDBFF) = true := by simp; omega
  refine bind_eq_ok.mpr ⟨(c.toNat, after), text ▸ value, ?_⟩
  rw [← bytes]
  exact (if_neg noTrailing).trans (if_pos single)

/-- A character is written as an escape of it, or as its bytes, which stand for themselves. -/
theorem escaped_cases :
    (∃ e, escaped c = 0x5C :: e ∧ ∀ after, escape (e ++ after) = .ok (String.utf8EncodeChar c, after)) ∨
      escaped c = String.utf8EncodeChar c ∧ ∀ b ∈ String.utf8EncodeChar c, StandsAlone b := by
  have known {d : Char} {n : Nat} (same : (c.toNat == n) = true) (value : d.toNat = n) : c = d :=
    Char.toNat_inj.mp ((beq_iff_eq.mp same).trans value.symm)
  unfold escaped escapeChar
  dsimp only
  split
  · next quote => exact .inl ⟨[0x22], rfl, fun after => beq_iff_eq.mp quote ▸ rfl⟩
  next quote =>
  split
  · next backslash => exact .inl ⟨[0x5C], rfl, fun after => beq_iff_eq.mp backslash ▸ rfl⟩
  next backslash =>
  split
  · next same => exact .inl ⟨[0x62], rfl, fun after => known (d := '\x08') same rfl ▸ rfl⟩
  split
  · next same => exact .inl ⟨[0x74], rfl, fun after => known (d := '\t') same rfl ▸ rfl⟩
  split
  · next same => exact .inl ⟨[0x6E], rfl, fun after => known (d := '\n') same rfl ▸ rfl⟩
  split
  · next same => exact .inl ⟨[0x66], rfl, fun after => known (d := '\x0C') same rfl ▸ rfl⟩
  split
  · next same => exact .inl ⟨[0x72], rfl, fun after => known (d := '\r') same rfl ▸ rfl⟩
  split
  · next control => exact .inl ⟨0x75 :: _, rfl, fun after => unicodeEscape_control after c control⟩
  next control =>
  refine .inr ⟨List.flatMap_singleton .., fun b mem => ?_⟩
  by_cases small : c.toNat < 0x80
  · rw [Text.utf8EncodeChar_ascii small, List.mem_singleton] at mem
    have value : b.toNat = c.toNat := mem ▸ UInt8.toNat_ofNat_of_lt' (Nat.lt_of_lt_of_le small (by decide))
    refine ⟨?_, ?_, ?_⟩
    · rintro rfl
      exact quote (beq_iff_eq.mpr (Char.toNat_inj.mp value.symm))
    · rintro rfl
      exact backslash (beq_iff_eq.mpr (Char.toNat_inj.mp value.symm))
    · rw [UInt8.lt_iff_toNat_lt, value]
      exact control
  · have high : 0x80 ≤ b := Text.le_of_mem_utf8EncodeChar small mem
    have other {d : UInt8} (low : ¬0x80 ≤ d) : b ≠ d := fun same => low (same ▸ high)
    exact ⟨other (by decide), other (by decide), UInt8.not_lt.mpr (UInt8.le_trans (by decide) high)⟩

theorem stringBytes_escape {e bytes : Bytes} (h : ∀ after, escape (e ++ after) = .ok (bytes, after)) :
    stringBytes (fuel + 1) done (0x5C :: (e ++ after)) = stringBytes fuel (bytes.reverse ++ done) after := by
  have isQuote : ¬((0x5C : UInt8) == 0x22) = true := by decide
  have isBackslash : ((0x5C : UInt8) == 0x5C) = true := rfl
  rw [stringBytes, if_neg isQuote, if_pos isBackslash, h]

/-- Bytes that stand for themselves are read as they are. -/
theorem stringBytes_alone {bytes : Bytes} (alone : ∀ b ∈ bytes, StandsAlone b) :
    stringBytes (fuel + bytes.length) done (bytes ++ after) = stringBytes fuel (bytes.reverse ++ done) after := by
  induction bytes generalizing done with
  | nil => rfl
  | cons b bytes ih =>
    obtain ⟨⟨quote, backslash, control⟩, others⟩ := List.forall_mem_cons.mp alone
    rw [List.cons_append, List.length_cons, ← Nat.add_assoc, stringBytes, if_neg (by simpa using quote),
      if_neg (by simpa using backslash), if_neg control, ih (b :: done) others, List.reverse_cons, List.append_assoc]
    rfl

/-- **What is written for a character is read as the character**, with fuel to spare. -/
theorem stringBytes_escaped :
    ∃ spare, stringBytes (fuel + (escaped c).length) done (escaped c ++ after) =
      stringBytes (fuel + spare) ((String.utf8EncodeChar c).reverse ++ done) after := by
  rcases escaped_cases c with ⟨e, form, reads⟩ | ⟨form, alone⟩
  · refine ⟨e.length, ?_⟩
    rw [form, List.length_cons, ← Nat.add_assoc]
    exact stringBytes_escape _ done after reads
  · refine ⟨0, ?_⟩
    rw [form]
    exact stringBytes_alone fuel done after alone

/-- The characters of a string and its closing quote. -/
def stringTail (cs : List Char) : Bytes := cs.flatMap escaped ++ [0x22]

theorem stringBytes_tail (cs : List Char) :
    stringBytes (fuel + (stringTail cs).length) done (stringTail cs ++ after) =
      .ok (done.reverse ++ cs.flatMap String.utf8EncodeChar, after) := by
  induction cs generalizing fuel done with
  | nil =>
    rw [List.flatMap_nil, List.append_nil]
    rfl
  | cons c cs ih =>
    have split (after : Bytes) : stringTail (c :: cs) ++ after = escaped c ++ (stringTail cs ++ after) := by
      simp [stringTail]
    have length : (stringTail (c :: cs)).length = (stringTail cs).length + (escaped c).length := by
      rw [← List.append_nil (stringTail (c :: cs)), split, List.append_nil, List.length_append, Nat.add_comm]
    obtain ⟨spare, first⟩ := stringBytes_escaped (fuel + (stringTail cs).length) done (stringTail cs ++ after) c
    rw [split, length, ← Nat.add_assoc, first, Nat.add_right_comm, ih, List.reverse_append, List.reverse_reverse,
      List.append_assoc, List.flatMap_cons]

/-- **A string is read back**, whatever follows it. -/
theorem string_tail (s : String) {fuel : Nat} (le : (stringTail s.toList).length ≤ fuel) :
    string fuel (stringTail s.toList ++ after) = .ok (s, after) := by
  obtain ⟨more, rfl⟩ := Nat.exists_eq_add_of_le' le
  have bytes := stringBytes_tail more [] after s.toList
  rw [List.reverse_nil, List.nil_append, ← Text.encode_eq] at bytes
  refine bind_eq_ok.mpr ⟨_, bytes, ?_⟩
  dsimp only
  rw [Text.decode_encode]

theorem encode_quoted (s : String) : Text.encode (quoted s) = 0x22 :: stringTail s.toList := by
  rw [quoted, Text.encode_ofList, List.cons_append, List.flatMap_cons, List.flatMap_append, List.flatMap_assoc]
  rfl

theorem isString_quoted (s : String) : IsString (Text.encode (quoted s)) := by
  obtain ⟨t, isTail, same, -⟩ := string_sound (string_tail [] s (Nat.le_refl _))
  rw [List.append_nil, List.append_nil] at same
  exact ⟨t, isTail, (encode_quoted s).trans (congrArg _ same)⟩

end Strings

/-! ## Values -/

section Values

/-- A statement about every value follows from one case for each sort of value. -/
@[elab_as_elim, induction_eliminator]
theorem induction {motive : Json → Prop} (null : motive .null) (bool : ∀ b, motive (.bool b))
    (num : ∀ n, motive (.num n)) (str : ∀ s, motive (.str s))
    (arr : ∀ items, (∀ j ∈ items, motive j) → motive (.arr items))
    (obj : ∀ members, (∀ m ∈ members, motive m.2) → motive (.obj members)) (j : Json) : motive j :=
  Json.rec (motive_2 := fun items => ∀ j ∈ items, motive j)
    (motive_3 := fun members => ∀ m ∈ members, motive m.2) (motive_4 := fun m => motive m.2) null bool num str arr obj
    nofun (fun _ _ first others => List.forall_mem_cons.mpr ⟨first, others⟩) nofun
    (fun _ _ first others => List.forall_mem_cons.mpr ⟨first, others⟩) (fun _ _ value => value) j

/-- The bytes of a value in the form without blanks. -/
def written (j : Json) : Bytes := Text.encode j.compact

theorem isGap_nil : IsGap [] := rfl

/-- A text with no gaps around it. -/
def Piece.bare (t : Bytes) : Piece := ⟨[], t, [], isGap_nil, isGap_nil⟩

theorem Piece.bytes_bare (t : Bytes) : (Piece.bare t).bytes = t := List.append_nil t

/-- A member as it is written. -/
def Member.written (m : String × Json) : Member := ⟨.bare (Text.encode (quoted m.1)), .bare m.2.written⟩

variable {items : List Json} {members : List (String × Json)}

theorem encode_intercalate (texts : List String) :
    Text.encode (",".intercalate texts) = listed (texts.map Text.encode) := by
  induction texts with
  | nil => rfl
  | cons t rest ih =>
    cases rest with
    | nil => rw [String.intercalate_singleton, List.map_cons, listed_cons]; exact (List.append_nil _).symm
    | cons u rest =>
      rw [String.intercalate_cons_cons, Text.encode_append, Text.encode_append, ih, List.map_cons, List.map_cons,
        List.map_cons, listed_cons, listed_cons, List.flatMap_cons, List.append_assoc]
      rfl

theorem compactItems_eq (items : List Json) : compactItems items = items.map compact := by
  induction items with
  | nil => rfl
  | cons j rest ih => rw [compactItems, ih, List.map_cons]

theorem compactMembers_eq (members : List (String × Json)) :
    compactMembers members = members.map fun m => quoted m.1 ++ ":" ++ compact m.2 := by
  induction members with
  | nil => rfl
  | cons m rest ih => rw [compactMembers, ih, List.map_cons]

theorem written_arr (items : List Json) :
    written (.arr items) =
      0x5B :: (listed ((items.map fun j => Piece.bare j.written).map Piece.bytes) ++ [0x5D]) := by
  have texts : (items.map fun j => Piece.bare j.written).map Piece.bytes = (items.map compact).map Text.encode := by
    rw [List.map_map, List.map_map]
    exact List.map_congr_left fun j _ => Piece.bytes_bare j.written
  rw [written, compact, Text.encode_append, Text.encode_append, compactItems_eq, encode_intercalate, texts]
  rfl

theorem written_obj (members : List (String × Json)) :
    written (.obj members) = 0x7B :: (listed ((members.map Member.written).map Member.bytes) ++ [0x7D]) := by
  have texts : (members.map Member.written).map Member.bytes =
      (members.map fun m => quoted m.1 ++ ":" ++ compact m.2).map Text.encode := by
    rw [List.map_map, List.map_map]
    refine List.map_congr_left fun m _ => ?_
    rw [Function.comp_apply, Function.comp_apply, Text.encode_append, Text.encode_append, List.append_assoc,
      Member.bytes, Member.written, Piece.bytes_bare, Piece.bytes_bare]
    rfl
  rw [written, compact, Text.encode_append, Text.encode_append, compactMembers_eq, encode_intercalate, texts]
  rfl

theorem IsValue.succ {depth : Nat} {t : Bytes} (h : IsValue depth t) : IsValue (depth + 1) t := by
  induction depth generalizing t with
  | zero => exact .inl h
  | succ depth ih =>
    rcases h with scalar | array | object
    · exact .inl scalar
    · obtain ⟨isGap, all⟩ := array
      exact .inr (.inl ⟨isGap, fun p hp => ih (all p hp)⟩)
    · obtain ⟨isGap, names, values⟩ := object
      exact .inr (.inr ⟨isGap, names, fun m hm => ih (values m hm)⟩)

theorem IsValue.mono {depth depth' : Nat} {t : Bytes} (le : depth ≤ depth') (h : IsValue depth t) :
    IsValue depth' t := by
  induction le with
  | refl => exact h
  | step _ ih => exact ih.succ

/-- Values of a list nest at most so deep for one depth. -/
theorem exists_depth {α : Type} {xs : List α} {text : α → Bytes}
    (h : ∀ x ∈ xs, ∃ depth, IsValue depth (text x)) : ∃ depth, ∀ x ∈ xs, IsValue depth (text x) := by
  induction xs with
  | nil => exact ⟨0, nofun⟩
  | cons x rest ih =>
    obtain ⟨⟨first, isFirst⟩, others⟩ := List.forall_mem_cons.mp h
    obtain ⟨depth, all⟩ := ih others
    refine ⟨max first depth, List.forall_mem_cons.mpr ⟨isFirst.mono (Nat.le_max_left ..), fun y hy => ?_⟩⟩
    exact (all y hy).mono (Nat.le_max_right ..)

/-- **What is written is a value of JSON.** -/
theorem exists_isValue (j : Json) : ∃ depth, IsValue depth j.written := by
  induction j with
  | null => exact ⟨0, .null⟩
  | bool b =>
    cases b with
    | true => exact ⟨0, .true⟩
    | false => exact ⟨0, .false⟩
  | num n => exact ⟨0, (isNumber_toString n).isScalar⟩
  | str s => exact ⟨0, .string (isString_quoted s)⟩
  | arr items ih =>
    obtain ⟨depth, all⟩ := exists_depth ih
    refine ⟨depth + 1, .inr (.inl ?_)⟩
    rw [written_arr]
    refine .mk isGap_nil fun p mem => ?_
    obtain ⟨j, inside, rfl⟩ := List.mem_map.mp mem
    exact all j inside
  | obj members ih =>
    obtain ⟨depth, all⟩ := exists_depth ih
    refine ⟨depth + 1, .inr (.inr ?_)⟩
    rw [written_obj]
    refine .mk isGap_nil (fun m mem => ?_) fun m mem => ?_
    · obtain ⟨member, -, rfl⟩ := List.mem_map.mp mem
      exact isString_quoted member.1
    · obtain ⟨member, inside, rfl⟩ := List.mem_map.mp mem
      exact all member inside

/-! ## No control characters -/

/-- A text without control characters, in particular without line breaks. -/
def Clean (t : Bytes) : Prop := ∀ b ∈ t, 0x20 ≤ b

instance (t : Bytes) : Decidable (Clean t) := List.decidableBAll (0x20 ≤ ·) t

theorem Clean.append {t u : Bytes} (ht : Clean t) (hu : Clean u) : Clean (t ++ u) :=
  List.forall_mem_append.mpr ⟨ht, hu⟩

theorem Clean.cons {b : UInt8} {t : Bytes} (hb : 0x20 ≤ b) (ht : Clean t) : Clean (b :: t) :=
  List.forall_mem_cons.mpr ⟨hb, ht⟩

theorem Clean.bracketed {t : Bytes} {opening closing : UInt8} (h : Clean t) (opens : 0x20 ≤ opening)
    (closes : 0x20 ≤ closing) : Clean (opening :: (t ++ [closing])) :=
  (h.append (List.forall_mem_singleton.mpr closes)).cons opens

theorem AllDigits.clean {t : Bytes} (h : AllDigits t) : Clean t := fun b mem =>
  UInt8.le_of_lt (visible_of_isDigit (h b mem))

theorem clean_digits {d : UInt8} {ds : Bytes} (digit : isDigitByte d = true) (rest : AllDigits ds) :
    Clean (d :: ds) :=
  AllDigits.clean (List.forall_mem_cons.mpr ⟨digit, rest⟩)

theorem IsUnsigned.clean {t : Bytes} (h : IsUnsigned t) : Clean t := by
  obtain ⟨whole, tail, isWhole, ⟨fraction, exponent, isFraction, isExponent, rfl⟩, rfl⟩ := h
  have whole : Clean whole := by
    cases isWhole with
    | zero => decide
    | digits d digit nonzero rest => exact clean_digits digit rest
  have fraction : Clean fraction := by
    cases isFraction with
    | none => exact nofun
    | decimals d digit rest => exact (clean_digits digit rest).cons (by decide)
  have exponent : Clean exponent := by
    cases isExponent with
    | none => exact nofun
    | digits mark sign d letter signed digit rest =>
      have marked : 0x20 ≤ mark := by rcases letter with rfl | rfl <;> decide
      have signed : Clean sign := by rcases signed with rfl | rfl | rfl <;> decide
      exact (signed.append (clean_digits digit rest)).cons marked
  exact whole.append (fraction.append exponent)

theorem StringTail.clean {t : Bytes} (h : StringTail t) : Clean t := by
  induction h with
  | close => decide
  | byte b quote backslash control tail ih => exact ih.cons (UInt8.not_lt.mp control)
  | escape c letter tail ih =>
    have letters : Clean escapeLetters := by decide
    exact (ih.cons (letters c letter)).cons (by decide)
  | unicode a b c d hex tail ih =>
    have digits : Clean [a, b, c, d] := by
      intro x mem
      refine UInt8.not_lt.mp fun control => ?_
      have none : ∀ n < 0x20, hexDigit? (UInt8.ofNat n) = none := by decide
      have some := hex x mem
      rw [← UInt8.ofNat_toNat (x := x), none x.toNat (UInt8.lt_iff_toNat_lt.mp control)] at some
      cases some
    exact ((digits.append ih).cons (by decide)).cons (by decide)

theorem IsScalar.clean {t : Bytes} (h : IsScalar t) : Clean t := by
  cases h with
  | null => decide
  | true => decide
  | false => decide
  | string h =>
    obtain ⟨tail, isTail, rfl⟩ := h
    exact isTail.clean.cons (by decide)
  | positive h => exact h.clean
  | negative h => exact h.clean.cons (by decide)

theorem clean_listed {texts : List Bytes} (h : ∀ t ∈ texts, Clean t) : Clean (listed texts) := by
  cases texts with
  | nil => exact nofun
  | cons t rest =>
    obtain ⟨first, others⟩ := List.forall_mem_cons.mp h
    rw [listed_cons]
    refine first.append fun b mem => ?_
    obtain ⟨u, inside, mem⟩ := List.mem_flatMap.mp mem
    exact (others u inside).cons (by decide) b mem

/-- **What is written has no control characters**, so it stands on one line. -/
theorem clean_written (j : Json) : Clean j.written := by
  induction j with
  | null => decide
  | bool b => cases b <;> decide
  | num n => exact (isNumber_toString n).isScalar.clean
  | str s => exact (IsScalar.string (isString_quoted s)).clean
  | arr items ih =>
    rw [written_arr]
    refine (clean_listed fun t mem => ?_).bracketed (by decide) (by decide)
    obtain ⟨p, piece, rfl⟩ := List.mem_map.mp mem
    obtain ⟨j, inside, rfl⟩ := List.mem_map.mp piece
    rw [Piece.bytes_bare]
    exact ih j inside
  | obj members ih =>
    rw [written_obj]
    refine (clean_listed fun t mem => ?_).bracketed (by decide) (by decide)
    obtain ⟨m, written, rfl⟩ := List.mem_map.mp mem
    obtain ⟨member, inside, rfl⟩ := List.mem_map.mp written
    rw [Member.bytes, Member.written, Piece.bytes_bare, Piece.bytes_bare]
    exact (IsScalar.string (isString_quoted member.1)).clean.append ((ih member inside).cons (by decide))

end Values

end RecordGate.Json
