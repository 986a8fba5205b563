import RecordGate.Json.Reader

/-!
# The texts of JSON

The grammar of JSON, told of bytes and without any reader: `Json.IsValue` by the depth to which containers
nest, `Json.IsText` with gaps around the value. A number may be as large as it likes and an escape may name
any code unit; so these are the texts of JSON, whether or not a reader can represent them.

Balance is what can be seen of a text by looking at its strings and brackets alone (`Json.Balanced`). Every
text of JSON is balanced (`Json.IsText.balanced`): in front of any other bytes, and at any depth, it leaves
the depth as it was (`Json.Neutral`).
-/

namespace RecordGate.Json

/-! ## Balance -/

/--
Goes over bytes with so many brackets open, and tells whether they are balanced: outside of strings no comma
and no closing bracket is met while nothing is open, and at the end no string and no bracket is open.
-/
def balancedFrom : (depth : Nat) → (inString escaped : Bool) → Bytes → Bool
  | depth, inString, _, [] => !inString && depth == 0
  | depth, true, true, _ :: rest => balancedFrom depth true false rest
  | depth, true, false, b :: rest =>
    if b == 0x5C then balancedFrom depth true true rest
    else if b == 0x22 then balancedFrom depth false false rest
    else balancedFrom depth true false rest
  | depth, false, _, b :: rest =>
    if depth == 0 && (b == 0x2C || b == 0x5D) then false
    else if b == 0x22 then balancedFrom depth true false rest
    else if b == 0x7B || b == 0x5B then balancedFrom (depth + 1) false false rest
    else if b == 0x7D || b == 0x5D then balancedFrom (depth - 1) false false rest
    else balancedFrom depth false false rest

/-- Whether bytes are balanced on their own. -/
def Balanced (bytes : Bytes) : Prop := balancedFrom 0 false false bytes = true

instance (bytes : Bytes) : Decidable (Balanced bytes) := inferInstanceAs (Decidable (_ = true))

/-! ## The grammar -/

/-- Bytes that stand between tokens. -/
def IsGap (g : Bytes) : Prop := g.all isGapByte = true

/-- A part of a text with the gaps around it. -/
structure Piece where
  before : Bytes
  text : Bytes
  after : Bytes
  gapBefore : IsGap before
  gapAfter : IsGap after

def Piece.bytes (p : Piece) : Bytes := p.before ++ p.text ++ p.after

/-- What may follow a backslash, other than `u`: a quote, a backslash, a slash, or one of `b`, `f`, `n`, `r`, `t`. -/
def escapeLetters : Bytes := [0x22, 0x5C, 0x2F, 0x62, 0x66, 0x6E, 0x72, 0x74]

/-- A string after its opening quote. -/
inductive StringTail : Bytes → Prop where
  | close : StringTail [0x22]
  | byte (b : UInt8) {rest : Bytes} (quote : b ≠ 0x22) (backslash : b ≠ 0x5C) (control : ¬b < 0x20) :
      StringTail rest → StringTail (b :: rest)
  | escape (c : UInt8) {rest : Bytes} (letter : c ∈ escapeLetters) :
      StringTail rest → StringTail (0x5C :: c :: rest)
  | unicode (a b c d : UInt8) {rest : Bytes} (hex : ∀ h ∈ [a, b, c, d], (hexDigit? h).isSome) :
      StringTail rest → StringTail (0x5C :: 0x75 :: a :: b :: c :: d :: rest)

def IsString (t : Bytes) : Prop := ∃ tail, StringTail tail ∧ t = 0x22 :: tail

def AllDigits (ds : Bytes) : Prop := ∀ b ∈ ds, isDigitByte b = true

/-- The whole digits of a number: a zero at the front stands alone. -/
inductive IsWhole : Bytes → Prop where
  | zero : IsWhole [0x30]
  | digits (d : UInt8) {ds : Bytes} (digit : isDigitByte d = true) (nonzero : d ≠ 0x30) (rest : AllDigits ds) :
      IsWhole (d :: ds)

inductive IsFraction : Bytes → Prop where
  | none : IsFraction []
  | decimals (d : UInt8) {ds : Bytes} (digit : isDigitByte d = true) (rest : AllDigits ds) :
      IsFraction (0x2E :: d :: ds)

inductive IsExponent : Bytes → Prop where
  | none : IsExponent []
  | digits (mark : UInt8) (sign : Bytes) (d : UInt8) {ds : Bytes} (letter : mark = 0x65 ∨ mark = 0x45)
      (signed : sign = [] ∨ sign = [0x2B] ∨ sign = [0x2D]) (digit : isDigitByte d = true) (rest : AllDigits ds) :
      IsExponent (mark :: (sign ++ d :: ds))

/-- What follows the whole digits of a number. -/
def NumberTail (t : Bytes) : Prop :=
  ∃ fraction exponent, IsFraction fraction ∧ IsExponent exponent ∧ t = fraction ++ exponent

/-- A number after its sign. -/
def IsUnsigned (t : Bytes) : Prop := ∃ whole tail, IsWhole whole ∧ NumberTail tail ∧ t = whole ++ tail

inductive IsScalar : Bytes → Prop where
  | null : IsScalar (0x6E :: nullTail)
  | true : IsScalar (0x74 :: trueTail)
  | false : IsScalar (0x66 :: falseTail)
  | string {t : Bytes} : IsString t → IsScalar t
  | positive {t : Bytes} : IsUnsigned t → IsScalar t
  | negative {t : Bytes} : IsUnsigned t → IsScalar (0x2D :: t)

/-- Texts with commas between them. -/
def listed (texts : List Bytes) : Bytes := [0x2C].intercalate texts

/-- An array of items of a sort. -/
inductive IsArray (item : Bytes → Prop) : Bytes → Prop where
  | mk {gap : Bytes} {items : List Piece} (isGap : IsGap gap) (all : ∀ p ∈ items, item p.text) :
      IsArray item (0x5B :: (gap ++ listed (items.map Piece.bytes) ++ [0x5D]))

/-- A member of an object: a name and a value, with a colon between them. -/
structure Member where
  name : Piece
  value : Piece

def Member.bytes (m : Member) : Bytes := m.name.bytes ++ 0x3A :: m.value.bytes

/-- An object of members with values of a sort. -/
inductive IsObject (item : Bytes → Prop) : Bytes → Prop where
  | mk {gap : Bytes} {members : List Member} (isGap : IsGap gap) (names : ∀ m ∈ members, IsString m.name.text)
      (values : ∀ m ∈ members, item m.value.text) :
      IsObject item (0x7B :: (gap ++ listed (members.map Member.bytes) ++ [0x7D]))

/-- A value in which containers nest at most so deep. -/
def IsValue : (depth : Nat) → Bytes → Prop
  | 0, t => IsScalar t
  | depth + 1, t => IsScalar t ∨ IsArray (IsValue depth) t ∨ IsObject (IsValue depth) t

/-- A text of JSON: a value with gaps around it. -/
def IsText (t : Bytes) : Prop := ∃ depth, ∃ p : Piece, IsValue depth p.text ∧ t = p.bytes

theorem listed_cons (t : Bytes) (texts : List Bytes) : listed (t :: texts) = t ++ texts.flatMap (0x2C :: ·) := by
  induction texts generalizing t with
  | nil => simp [listed, List.intercalate]
  | cons u rest ih =>
    have next : listed (t :: u :: rest) = t ++ 0x2C :: listed (u :: rest) := by simp [listed, List.intercalate]
    rw [next, ih, List.flatMap_cons, List.cons_append]

/-! ## Every text is balanced -/

/-- Bytes that may stand in front of any others, where at least so many brackets are open, without a trace. -/
def Neutral (least : Nat) (t : Bytes) : Prop :=
  ∀ depth, least ≤ depth → ∀ rest, balancedFrom depth false false (t ++ rest) = balancedFrom depth false false rest

section Neutral

variable {least : Nat} {t u : Bytes}

theorem neutral_nil (least : Nat) : Neutral least [] := fun _ _ _ => rfl

theorem Neutral.append (ht : Neutral least t) (hu : Neutral least u) : Neutral least (t ++ u) := by
  intro depth open_ rest
  rw [List.append_assoc, ht depth open_, hu depth open_]

theorem Neutral.cons {b : UInt8} (hb : Neutral least [b]) (ht : Neutral least t) : Neutral least (b :: t) :=
  Neutral.append hb ht

theorem Neutral.within (h : Neutral 0 t) (least : Nat) : Neutral least t := fun depth _ => h depth (Nat.zero_le _)

theorem Neutral.flatMap {α : Type} {xs : List α} {f : α → Bytes} (h : ∀ x ∈ xs, Neutral least (f x)) :
    Neutral least (xs.flatMap f) := by
  induction xs with
  | nil => exact neutral_nil least
  | cons x rest ih =>
    rw [List.flatMap_cons]
    exact (h x List.mem_cons_self).append (ih fun y hy => h y (List.mem_cons_of_mem _ hy))

theorem Neutral.balanced (h : Neutral 0 t) : Balanced t := by
  have alone := h 0 (Nat.le_refl _) []
  rwa [List.append_nil] at alone

/-- A byte that is no quote, comma or bracket. -/
def isPlain (b : UInt8) : Bool :=
  !(b == 0x22 || b == 0x2C || b == 0x7B || b == 0x5B || b == 0x7D || b == 0x5D)

theorem neutral_byte {b : UInt8} (h : isPlain b = true) : Neutral 0 [b] := by
  intro depth _ rest
  simp only [isPlain, Bool.not_eq_true', Bool.or_eq_false_iff] at h
  simp [balancedFrom, h]

theorem neutral_plain (h : ∀ b ∈ t, isPlain b = true) : Neutral 0 t := by
  induction t with
  | nil => exact neutral_nil 0
  | cons b rest ih =>
    exact (neutral_byte (h b List.mem_cons_self)).cons (ih fun c hc => h c (List.mem_cons_of_mem _ hc))

/-- Inside of brackets a comma leaves no trace. -/
theorem neutral_comma : Neutral 1 [0x2C] := by
  intro depth open_ rest
  have some_open : (depth == 0) = false := beq_false_of_ne (Nat.ne_of_gt open_)
  simp [balancedFrom, some_open]

/-- What leaves no trace inside of brackets leaves none together with them. -/
theorem Neutral.bracketed {opening closing : UInt8} (h : Neutral 1 t) (opens : opening = 0x7B ∨ opening = 0x5B)
    (closes : closing = 0x7D ∨ closing = 0x5D) : Neutral 0 (opening :: (t ++ [closing])) := by
  intro depth _ rest
  have enter : balancedFrom depth false false (opening :: (t ++ [closing]) ++ rest) =
      balancedFrom (depth + 1) false false (t ++ (closing :: rest)) := by
    rcases opens with rfl | rfl <;> simp [balancedFrom]
  have leave : balancedFrom (depth + 1) false false (closing :: rest) = balancedFrom depth false false rest := by
    rcases closes with rfl | rfl <;> simp [balancedFrom]
  rw [enter, h (depth + 1) (Nat.le_add_left 1 depth), leave]

end Neutral

section Parts

variable {t : Bytes}

theorem isPlain_of_isDigit {b : UInt8} (h : isDigitByte b = true) : isPlain b = true := by
  cases mark : isPlain b with
  | true => rfl
  | false =>
    simp only [isPlain, Bool.not_eq_false', Bool.or_eq_true, beq_iff_eq] at mark
    rcases mark with ((((rfl | rfl) | rfl) | rfl) | rfl) | rfl <;> exact absurd h (by decide)

theorem isPlain_of_isGap {b : UInt8} (h : isGapByte b = true) : isPlain b = true := by
  simp only [isGapByte, Bool.or_eq_true, beq_iff_eq] at h
  rcases h with ((rfl | rfl) | rfl) | rfl <;> rfl

theorem IsGap.neutral (h : IsGap t) : Neutral 0 t :=
  neutral_plain fun b hb => isPlain_of_isGap (List.all_eq_true.mp h b hb)

theorem AllDigits.neutral (h : AllDigits t) : Neutral 0 t := neutral_plain fun b hb => isPlain_of_isDigit (h b hb)

theorem IsFraction.neutral (h : IsFraction t) : Neutral 0 t := by
  cases h with
  | none => exact neutral_nil 0
  | decimals d digit rest =>
    exact (neutral_byte rfl).cons ((neutral_byte (isPlain_of_isDigit digit)).cons (AllDigits.neutral rest))

theorem IsExponent.neutral (h : IsExponent t) : Neutral 0 t := by
  cases h with
  | none => exact neutral_nil 0
  | digits mark sign d letter signed digit rest =>
    have letter : Neutral 0 [mark] := by rcases letter with rfl | rfl <;> exact neutral_byte rfl
    have signed : Neutral 0 sign := by
      rcases signed with rfl | rfl | rfl
      · exact neutral_nil 0
      · exact neutral_byte rfl
      · exact neutral_byte rfl
    exact letter.cons (signed.append ((neutral_byte (isPlain_of_isDigit digit)).cons (AllDigits.neutral rest)))

theorem IsUnsigned.neutral (h : IsUnsigned t) : Neutral 0 t := by
  obtain ⟨whole, tail, isWhole, ⟨fraction, exponent, isFraction, isExponent, rfl⟩, rfl⟩ := h
  have whole : Neutral 0 whole := by
    cases isWhole with
    | zero => exact neutral_byte rfl
    | digits d digit nonzero rest => exact (neutral_byte (isPlain_of_isDigit digit)).cons (AllDigits.neutral rest)
  exact whole.append (isFraction.neutral.append isExponent.neutral)

/-- After its last quote a string has left the depth as it was. -/
theorem StringTail.leaves (h : StringTail t) (depth : Nat) (rest : Bytes) :
    balancedFrom depth true false (t ++ rest) = balancedFrom depth false false rest := by
  induction h with
  | close => rfl
  | byte b quote backslash control tail ih => simpa [balancedFrom, quote, backslash] using ih
  | escape c letter tail ih => exact ih
  | unicode a b c d hex tail ih =>
    -- A hexadecimal digit is neither a quote nor a backslash.
    have inside (h : UInt8) (mem : h ∈ [a, b, c, d]) : h ≠ 0x5C ∧ h ≠ 0x22 := by
      constructor <;> rintro rfl <;> exact absurd (hex _ mem) (by decide)
    simp only [List.forall_mem_cons] at inside
    obtain ⟨⟨a₁, a₂⟩, ⟨b₁, b₂⟩, ⟨c₁, c₂⟩, ⟨d₁, d₂⟩, -⟩ := inside
    simpa [balancedFrom, a₁, a₂, b₁, b₂, c₁, c₂, d₁, d₂] using ih

theorem IsString.neutral (h : IsString t) : Neutral 0 t := by
  obtain ⟨tail, isTail, rfl⟩ := h
  intro depth _ rest
  have enter : balancedFrom depth false false (0x22 :: tail ++ rest) = balancedFrom depth true false (tail ++ rest) := by
    simp [balancedFrom]
  rw [enter, isTail.leaves]

theorem IsScalar.neutral (h : IsScalar t) : Neutral 0 t := by
  cases h with
  | null => exact neutral_plain (List.all_eq_true.mp rfl)
  | true => exact neutral_plain (List.all_eq_true.mp rfl)
  | false => exact neutral_plain (List.all_eq_true.mp rfl)
  | string h => exact h.neutral
  | positive h => exact h.neutral
  | negative h => exact (neutral_byte rfl).cons h.neutral

theorem Piece.neutral {p : Piece} (h : Neutral 0 p.text) : Neutral 0 p.bytes :=
  (p.gapBefore.neutral.append h).append p.gapAfter.neutral

theorem neutral_listed {α : Type} {xs : List α} {f : α → Bytes} (h : ∀ x ∈ xs, Neutral 0 (f x)) :
    Neutral 1 (listed (xs.map f)) := by
  cases xs with
  | nil => exact neutral_nil 1
  | cons x rest =>
    rw [List.map_cons, listed_cons, List.flatMap_map]
    refine ((h x List.mem_cons_self).within 1).append (Neutral.flatMap fun y hy => ?_)
    exact neutral_comma.cons ((h y (List.mem_cons_of_mem _ hy)).within 1)

/-- A value leaves no trace, however deep it stands. -/
theorem IsValue.neutral {depth : Nat} (h : IsValue depth t) : Neutral 0 t := by
  induction depth generalizing t with
  | zero => exact IsScalar.neutral h
  | succ depth ih =>
    rcases h with scalar | array | object
    · exact scalar.neutral
    · obtain ⟨isGap, all⟩ := array
      refine ((isGap.neutral.within 1).append (neutral_listed fun p hp => ?_)).bracketed (.inr rfl) (.inr rfl)
      exact Piece.neutral (ih (all p hp))
    · obtain ⟨isGap, names, values⟩ := object
      refine ((isGap.neutral.within 1).append (neutral_listed fun m hm => ?_)).bracketed (.inl rfl) (.inl rfl)
      exact (Piece.neutral (names m hm).neutral).append
        ((neutral_byte rfl).cons (Piece.neutral (ih (values m hm))))

/-- **Every text of JSON is balanced.** -/
theorem IsText.balanced (h : IsText t) : Balanced t := by
  obtain ⟨depth, p, value, rfl⟩ := h
  exact (Piece.neutral value.neutral).balanced

end Parts

end RecordGate.Json
