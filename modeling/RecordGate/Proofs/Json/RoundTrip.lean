import RecordGate.Proofs.Json.Written

/-!
# Reading what was written

A value that is written without blanks is read back wherever it stands, if containers do not nest too deep and its
numbers are read back (`Json.Legible`): whole numbers of 64 bits are (`Json.readsBack_whole`). What is read has the
members of its objects in the order of their names (`Json.sorted`, `Json.reads_sorted`). So a value whose members
stand in that order is read as it is (`Json.Readable`, `Json.parse_written`).
-/

namespace RecordGate.Json

/-! ## Numbers -/

section Numbers

variable (positive : Bool) {cs : List Char} {after : Bytes}

/-- Digits that fit the significand are read as the number that they write. -/
theorem wholeDigits_encoded (digits : ∀ c ∈ cs, c.isDigit = true) (significand : Nat)
    (fits : Nat.ofDigitChars 10 cs significand ≤ maxSignificand) (stops : Stops after) :
    wholeDigits positive significand (cs.flatMap String.utf8EncodeChar ++ after) =
      afterWhole positive (Nat.ofDigitChars 10 cs significand) after := by
  induction cs generalizing significand with
  | nil => exact wholeDigits_of_clear positive significand fun b mem => noDigit_of_not_inNumber b (stops b mem)
  | cons c cs ih =>
    obtain ⟨first, others⟩ := List.forall_mem_cons.mp digits
    obtain ⟨b, form, digit, value⟩ := utf8EncodeChar_digit first
    have value : digitValue b = c.toNat - '0'.toNat := by rw [digitValue, value]; rfl
    rw [Nat.ofDigitChars_cons, Nat.mul_comm, ← value] at fits ⊢
    -- What is read so far is not above the number.
    have small : significand * 10 + digitValue b ≤ maxSignificand := by
      rw [Nat.ofDigitChars_eq_ofDigitChars_zero] at fits
      have grows : significand * 10 + digitValue b ≤ 10 ^ cs.length * (significand * 10 + digitValue b) :=
        Nat.le_mul_of_pos_left _ (Nat.pow_pos (by decide))
      omega
    have within : ¬overflows significand (digitValue b) = true := by
      simpa [overflows] using small
    rw [List.flatMap_cons, form, List.append_assoc, List.singleton_append, wholeDigits, if_pos digit, if_neg within]
    exact ih others _ fits

/-- The digits of a positive number are read one by one from the first on. -/
theorem number_digits {n : Nat} (nonzero : n ≠ 0) :
    ∃ first cs, first ≤ 9 ∧ (∀ c ∈ cs, c.isDigit = true) ∧ Nat.ofDigitChars 10 cs first = n ∧ ∀ after,
      number positive ((Nat.toDigits 10 n).flatMap String.utf8EncodeChar ++ after) =
        wholeDigits positive first (cs.flatMap String.utf8EncodeChar ++ after) := by
  have value := Nat.ofDigitChars_ten_toDigits (n := n)
  obtain ⟨c, cs, form⟩ := List.exists_cons_of_ne_nil (Nat.toDigits_ne_nil (b := 10) (n := n))
  have digits : ∀ d ∈ c :: cs, d.isDigit = true := fun d mem => isDigit_of_mem_toDigits (form ▸ mem)
  obtain ⟨first, others⟩ := List.forall_mem_cons.mp digits
  obtain ⟨b, byte, digit, same⟩ := utf8EncodeChar_digit first
  have notZero : b ≠ 0x30 := by
    rintro rfl
    have front : c = '0' := Char.toNat_inj.mp same.symm
    exact head?_toDigits nonzero (by rw [form, front]; rfl)
  have front : digitValue b = 10 * 0 + (c.toNat - '0'.toNat) := by
    rw [digitValue, same, Nat.mul_zero, Nat.zero_add]
    rfl
  have small : digitValue b ≤ 9 := by
    have most : c.toNat ≤ 57 := (Char.isDigit_iff_toNat.mp first).2
    rw [digitValue, same]
    omega
  rw [form, Nat.ofDigitChars_cons, ← front] at value
  refine ⟨digitValue b, cs, small, others, value, fun after => ?_⟩
  rw [form, List.flatMap_cons, byte, List.append_assoc, List.singleton_append, number_digit positive digit notZero]

/-- The digits of a number that fits the significand are read as the number. -/
theorem number_toDigits {n : Nat} (fits : n ≤ maxSignificand) (stops : Stops after) :
    number positive ((Nat.toDigits 10 n).flatMap String.utf8EncodeChar ++ after) =
      .ok (wholeNumber positive n, after) := by
  have clear : Clear afterWholeMark after := fun b mem => not_afterWholeMark b (stops b mem)
  by_cases zero : n = 0
  · subst zero
    exact (number_zero positive fun b mem => noDigit_of_not_inNumber b (stops b mem)).trans
      (afterWhole_of_clear positive 0 clear)
  · obtain ⟨first, cs, -, digits, value, read⟩ := number_digits positive zero
    rw [read, wholeDigits_encoded positive digits _ (value ▸ fits) stops, value, afterWhole_of_clear positive n clear]

/-- A number in front of what does not go on with it is read as it is read alone, however deep it stands. -/
theorem IsNumber.value_eq {t : Bytes} (h : IsNumber t) (depth depth' fuel fuel' : Nat) (after : Bytes) :
    value depth fuel (t ++ after) = value depth' fuel' (t ++ after) := by
  cases h with
  | positive h =>
    obtain ⟨d, rest, rfl, digit⟩ := h.startsDigit
    rw [List.cons_append, value_digit _ _ _ digit, value_digit _ _ _ digit]
  | negative h => rw [List.cons_append, value_negative, value_negative]

end Numbers

/-- A value that is read alone is read so wherever it stands. -/
theorem reads_of_parse {depth : Nat} {t : Bytes} {j : Json} (isValue : IsValue depth t) (h : parse t = .ok j) :
    Reads (value maxDepth) t j := by
  obtain ⟨p, form, -, reads⟩ := parse_sound h
  have lead : p.before = [] := by
    cases gap : p.before with
    | nil => rfl
    | cons b rest =>
      obtain ⟨c, tail, same, visible, -⟩ := isValue.startsItem
      rw [form, Piece.bytes, gap] at same
      obtain rfl : b = c := (List.cons.inj same).1
      have isGap : isGapByte b = true := List.all_eq_true.mp p.gapBefore b (gap ▸ List.mem_cons_self)
      rw [notGap_of_visible visible] at isGap
      cases isGap
  have trail : p.after = [] := by
    obtain ⟨r, -, none⟩ := isValue.ends.split p.gapAfter ((form.trans rfl).symm.trans (List.append_nil t).symm)
    exact (List.append_eq_nil_iff.mp none.symm).2
  rw [Piece.bytes, lead, trail, List.nil_append, List.append_nil] at form
  exact form ▸ reads

/-- A number is read back from its text. -/
def Number.ReadsBack (n : Number) : Prop := parse (Json.num n).written = .ok (.num n)

theorem reads_number {n : Number} (back : n.ReadsBack) (depth : Nat) :
    Reads (value depth) (Json.num n).written (.num n) := by
  have isNumber : IsNumber (Json.num n).written := isNumber_toString n
  have isValue : IsValue 0 (Json.num n).written := isNumber.isScalar
  intro fuel after le stops
  rw [isNumber.value_eq depth maxDepth fuel fuel]
  exact reads_of_parse isValue back fuel after le stops

/-- What is read behind a minus sign is the negative number, while it fits 64 bits. -/
theorem wholeNumber_negative {n : Int} (negative : n < 0) (least : n.natAbs ≤ Nat.pow 2 63) :
    wholeNumber false n.natAbs = .whole n := by
  have inside : ¬(n.natAbs == 0 || n.natAbs > Nat.pow 2 63) = true := by
    simp only [Bool.or_eq_true, beq_iff_eq, decide_eq_true_eq]
    omega
  have same : -(n.natAbs : Int) = n := by omega
  rw [wholeNumber, if_neg Bool.false_ne_true, if_neg inside, same]

/-- The digits of an integer are read behind its sign. -/
theorem value_integerText (depth fuel : Nat) (negative : Bool) (n : Nat) (after : Bytes) :
    value depth fuel (Text.encode (integerText negative n) ++ after) =
      (number (!negative) ((Nat.toDigits 10 n).flatMap String.utf8EncodeChar ++ after)).map
        fun (n, rest) => (.num n, rest) := by
  rw [integerText, Text.encode_ofList]
  cases negative with
  | true =>
    have sign : ['-'].flatMap String.utf8EncodeChar = [0x2D] := by decide
    rw [if_pos rfl, List.flatMap_append, sign, List.append_assoc, List.singleton_append, value_negative]
    rfl
  | false =>
    obtain ⟨c, cs, form⟩ := List.exists_cons_of_ne_nil (Nat.toDigits_ne_nil (b := 10) (n := n))
    obtain ⟨d, byte, digit, -⟩ := utf8EncodeChar_digit (isDigit_of_mem_toDigits (form ▸ List.mem_cons_self))
    rw [if_neg Bool.false_ne_true, List.nil_append, form, List.flatMap_cons, byte, List.append_assoc,
      List.singleton_append, value_digit _ _ _ digit]
    rfl

/-- An integer that fits the significand is read wherever it stands. -/
theorem reads_integerText (depth : Nat) (negative : Bool) {n : Nat} (fits : n ≤ maxSignificand) :
    Reads (value depth) (Text.encode (integerText negative n)) (.num (wholeNumber (!negative) n)) := by
  intro fuel after _ stops
  rw [value_integerText, number_toDigits (!negative) fits stops]
  rfl

/-- **Whole numbers of 64 bits, with a sign or without, are read back.** -/
theorem readsBack_whole {n : Int} (least : -(Nat.pow 2 63 : Nat) ≤ n) (most : n ≤ maxSignificand) :
    (Number.whole n).ReadsBack := by
  have fits : n.natAbs ≤ maxSignificand := by
    have large : Nat.pow 2 63 ≤ maxSignificand := by decide
    omega
  have number : wholeNumber (!decide (n < 0)) n.natAbs = .whole n := by
    by_cases negative : n < 0
    · rw [decide_eq_true negative]
      exact wholeNumber_negative negative (by omega)
    · have same : ((n.natAbs : Nat) : Int) = n := by omega
      rw [decide_eq_false negative, wholeNumber, if_pos (Bool.not_false), same]
  have reads := reads_integerText maxDepth (decide (n < 0)) fits
  rw [number, ← toString_whole] at reads
  have parsed := parse_of_reads (.bare _) reads
  rwa [Piece.bytes_bare] at parsed

/-! ## Sorted members -/

theorem insertMember_last {name : String} {members : List (String × Json)} (value : Json)
    (h : ∀ m ∈ members, m.1 < name) : insertMember name value members = members ++ [(name, value)] := by
  induction members with
  | nil => rfl
  | cons m rest ih =>
    obtain ⟨first, others⟩ := List.forall_mem_cons.mp h
    have later : ¬name < m.1 := fun less => String.lt_irrefl _ (String.lt_trans less first)
    have other : ¬(name == m.1) = true := fun same => String.lt_irrefl _ (beq_iff_eq.mp same ▸ first)
    rw [insertMember, if_neg later, if_neg other, ih others]
    rfl

/-- Members that stand in the order of their names stay as they are. -/
theorem ofMembers_of_sorted {members : List (String × Json)} (sorted : members.Pairwise fun a b => a.1 < b.1) :
    ofMembers members = .obj members := by
  have onwards (done rest : List (String × Json)) (sorted : (done ++ rest).Pairwise fun a b => a.1 < b.1) :
      rest.foldl (fun done m => insertMember m.1 m.2 done) done = done ++ rest := by
    induction rest generalizing done with
    | nil => exact (List.append_nil done).symm
    | cons m rest ih =>
      have before := (List.pairwise_append.mp sorted).2.2
      rw [List.foldl_cons, insertMember_last m.2 fun d mem => before d mem m List.mem_cons_self]
      rw [← List.singleton_append, ← List.append_assoc] at sorted
      rw [ih _ sorted, List.append_assoc]
      rfl
  exact congrArg Json.obj (onwards [] members sorted)

/-! ## Values -/

mutual

/-- The value as it is read: the members of its objects in the order of their names, of those with one name the last. -/
def sorted : Json → Json
  | .arr items => .arr (sortedItems items)
  | .obj members => ofMembers (sortedValues members)
  | j => j

/-- The items as they are read. -/
def sortedItems : List Json → List Json
  | [] => []
  | item :: rest => item.sorted :: sortedItems rest

/-- The members as they are read, in their old order. -/
def sortedValues : List (String × Json) → List (String × Json)
  | [] => []
  | (name, value) :: rest => (name, value.sorted) :: sortedValues rest

end

theorem sorted_arr (items : List Json) : sorted (.arr items) = .arr (items.map sorted) := by
  rw [sorted, Json.arr.injEq]
  induction items with
  | nil => rfl
  | cons item rest ih => rw [sortedItems, ih, List.map_cons]

theorem sorted_obj (members : List (String × Json)) :
    sorted (.obj members) = ofMembers (members.map fun m => (m.1, m.2.sorted)) := by
  rw [sorted]
  congr 1
  induction members with
  | nil => rfl
  | cons m rest ih => rw [sortedValues, ih, List.map_cons]

/-- A value that can be read: containers nest at most so deep, and numbers are read back. -/
inductive Legible : (depth : Nat) → Json → Prop where
  | null {depth : Nat} : Legible depth .null
  | bool {depth : Nat} (b : Bool) : Legible depth (.bool b)
  | num {depth : Nat} {n : Number} (back : n.ReadsBack) : Legible depth (.num n)
  | str {depth : Nat} (s : String) : Legible depth (.str s)
  | arr {depth : Nat} {items : List Json} (all : ∀ j ∈ items, Legible depth j) : Legible (depth + 1) (.arr items)
  | obj {depth : Nat} {members : List (String × Json)} (all : ∀ m ∈ members, Legible depth m.2) :
      Legible (depth + 1) (.obj members)

theorem legible_ofNat {depth n : Nat} (fits : n < Nat.pow 2 64) : Legible depth (.ofNat n) := by
  refine .num (readsBack_whole ?_ ?_)
  · omega
  · have top : maxSignificand = Nat.pow 2 64 - 1 := rfl
    omega

theorem startsItem_written (j : Json) : StartsItem j.written := by
  obtain ⟨depth, isValue⟩ := exists_isValue j
  exact isValue.startsItem

/-- The name of a written member is read. -/
theorem readsMember_written {item : Nat → Bytes → Except ParseError (Json × Bytes)} {m : String × Json} {j : Json}
    (reads : Reads item m.2.written j) : ReadsMember item (.written m) (m.1, j) where
  name := ⟨stringTail m.1.toList, encode_quoted m.1, fun _ after le => string_tail after m.1 le⟩
  value := reads

/-- **A written value is read with its members in the order of their names**, whatever follows it. -/
theorem reads_sorted {depth : Nat} {j : Json} (h : Legible depth j) : Reads (value depth) j.written j.sorted := by
  induction h with
  | null =>
    intro fuel after _ _
    exact (value_null _ _ _).trans (ident_reads nullTail .null after)
  | bool b =>
    intro fuel after _ _
    cases b with
    | true => exact (value_true _ _ _).trans (ident_reads trueTail (.bool true) after)
    | false => exact (value_false _ _ _).trans (ident_reads falseTail (.bool false) after)
  | num back => exact reads_number back _
  | str s =>
    intro fuel after le _
    have form : (Json.str s).written = 0x22 :: stringTail s.toList := encode_quoted s
    rw [form, List.length_cons] at le
    rw [form, List.cons_append, value_string, string_tail after s (Nat.le_of_succ_le le)]
    rfl
  | @arr depth items all ih =>
    let pieces := items.map fun j => Piece.bare j.written
    have starts : ∀ p ∈ pieces, StartsItem p.text := by
      intro p mem
      obtain ⟨j, -, rfl⟩ := List.mem_map.mp mem
      exact startsItem_written j
    have reads : List.Forall₂ (fun p j => Reads (value depth) p.text j) pieces (items.map sorted) :=
      List.forall₂_map_left_iff.mpr (List.forall₂_map_right_iff.mpr (List.forall₂_same.mpr ih))
    have text (after : Bytes) : (Json.arr items).written ++ after =
        0x5B :: ([] ++ (listedFrom true (pieces.map Piece.bytes) ++ 0x5D :: after)) := by
      simp [written_arr, listed_eq, pieces]
    intro fuel after le _
    rw [text, value_array, sorted_arr]
    refine items_reads starts reads isGap_nil [] after ?_
    rw [← List.append_nil (Json.arr items).written, text] at le
    exact Nat.le_of_succ_le le
  | @obj depth members all ih =>
    have reads : List.Forall₂ (ReadsMember (value depth)) (members.map Member.written)
        (members.map fun m => (m.1, m.2.sorted)) := by
      exact List.forall₂_map_left_iff.mpr (List.forall₂_map_right_iff.mpr (List.forall₂_same.mpr fun m mem =>
        readsMember_written (ih m mem)))
    have text (after : Bytes) : (Json.obj members).written ++ after =
        0x7B :: ([] ++ (listedFrom true ((members.map Member.written).map Member.bytes) ++ 0x7D :: after)) := by
      simp [written_obj, listed_eq]
    intro fuel after le _
    rw [text, value_object, sorted_obj]
    refine members_reads (value_gap depth) reads isGap_nil [] after ?_
    rw [← List.append_nil (Json.obj members).written, text] at le
    exact Nat.le_of_succ_le le

/-- **The text of a value is read as the value**, with its members in the order of their names. -/
theorem ofString_compact {j : Json} (h : Legible maxDepth j) : ofString j.compact = .ok j.sorted := by
  have parsed := parse_of_reads (.bare j.written) (reads_sorted h)
  rwa [Piece.bytes_bare] at parsed

/-! ## Values in order -/

/--
A value that can be read back: containers nest at most so deep, the members of an object stand in the order of their
names, each name once, and numbers are read back.
-/
inductive Readable : (depth : Nat) → Json → Prop where
  | null {depth : Nat} : Readable depth .null
  | bool {depth : Nat} (b : Bool) : Readable depth (.bool b)
  | num {depth : Nat} {n : Number} (back : n.ReadsBack) : Readable depth (.num n)
  | str {depth : Nat} (s : String) : Readable depth (.str s)
  | arr {depth : Nat} {items : List Json} (all : ∀ j ∈ items, Readable depth j) :
      Readable (depth + 1) (.arr items)
  | obj {depth : Nat} {members : List (String × Json)} (sorted : members.Pairwise fun a b => a.1 < b.1)
      (all : ∀ m ∈ members, Readable depth m.2) : Readable (depth + 1) (.obj members)

/-- A value in order can be read, and is read as it is. -/
theorem Readable.legible {depth : Nat} {j : Json} (h : Readable depth j) : Legible depth j ∧ j.sorted = j := by
  induction h with
  | null => exact ⟨.null, rfl⟩
  | bool b => exact ⟨.bool b, rfl⟩
  | num back => exact ⟨.num back, rfl⟩
  | str s => exact ⟨.str s, rfl⟩
  | arr _ ih =>
    refine ⟨.arr fun j mem => (ih j mem).1, ?_⟩
    rw [sorted_arr, List.map_congr_left fun j mem => (ih j mem).2, List.map_id']
  | @obj _ members ascending _ ih =>
    have same : members.map (fun m => (m.1, m.2.sorted)) = members := by
      rw [List.map_congr_left fun m mem => congrArg (Prod.mk m.1) (ih m mem).2, List.map_id']
    exact ⟨.obj fun m mem => (ih m mem).1, by rw [sorted_obj, same, ofMembers_of_sorted ascending]⟩

/-- **What was written in order is read.** -/
theorem parse_written {j : Json} (h : Readable maxDepth j) : parse j.written = .ok j := by
  have read : parse j.written = .ok j.sorted := ofString_compact h.legible.1
  rwa [h.legible.2] at read

end RecordGate.Json
