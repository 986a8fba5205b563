import RecordGate.Proofs.Except
import RecordGate.Proofs.Json.Grammar

/-!
# Reading a number

What is read as a number is a number of the grammar, and what follows it does not matter as long as the number
ends there (`Json.takes_number`). The readers of the parts of a number are gone through in the order in which
they call each other; a run of digits is the same for all of them (`Json.TakesAt.digits`).
-/

namespace RecordGate.Json

variable {α : Type}

/-- A byte of a number that is no digit: a point, a sign, or the mark of an exponent. -/
def numberMarks : Bytes := [0x2E, 0x2B, 0x2D, 0x65, 0x45]

/-- Whether a byte may go on with a number. -/
def inNumber (b : UInt8) : Bool := isDigitByte b || numberMarks.contains b

/-- The first byte, if there is one, is not of the given kind. -/
def Clear (kind : UInt8 → Bool) (input : Bytes) : Prop := ∀ b ∈ input.head?, kind b = false

/-- What follows does not go on with a number. -/
def Stops (rest : Bytes) : Prop := Clear inNumber rest

/--
What a reader takes off an input is a text of the given sort, and it takes the same off every other input that
starts with this text and does not go on with a number.
-/
def TakesAt (Part : Bytes → Prop) (read : Bytes → Except ParseError (α × Bytes)) (input : Bytes) : Prop :=
  ∀ a rest, read input = .ok (a, rest) →
    ∃ t, Part t ∧ input = t ++ rest ∧ ∀ after, Stops after → read (t ++ after) = .ok (a, after)

section Clear

variable {kind : UInt8 → Bool} {input rest t after : Bytes} {b : UInt8}

theorem clear_nil (kind : UInt8 → Bool) : Clear kind [] := nofun

theorem clear_cons : Clear kind (b :: rest) ↔ kind b = false := by simp [Clear]

/-- The same text with something else behind it starts in the same way. -/
theorem Clear.swap (h : Clear kind (t ++ rest)) (stops : Clear kind after) : Clear kind (t ++ after) := by
  cases t with
  | nil => exact stops
  | cons b t => exact clear_cons.mpr (clear_cons.mp h)

end Clear

/-! ## Parts that follow each other -/

section Parts

variable {Part Tail : Bytes → Prop} {read tail : Bytes → Except ParseError (α × Bytes)} {input : Bytes}

theorem TakesAt.imp {Part' : Bytes → Prop} (h : TakesAt Part read input) (imp : ∀ t, Part t → Part' t) :
    TakesAt Part' read input := by
  intro a rest ok
  obtain ⟨t, part, split, same⟩ := h a rest ok
  exact ⟨t, imp t part, split, same⟩

/-- A reader that takes nothing. -/
theorem takesAt_result (x : Except ParseError α) (input : Bytes) :
    TakesAt (· = []) (fun input => x.map (·, input)) input := by
  intro a rest ok
  obtain ⟨b, result, pair⟩ := map_eq_ok.mp ok
  cases pair
  exact ⟨[], rfl, rfl, fun after _ => map_eq_ok.mpr ⟨a, result, rfl⟩⟩

theorem takesAt_error (e : ParseError) (input : Bytes) : TakesAt Part (fun _ => (.error e : Except _ (α × Bytes))) input :=
  nofun

/-- A reader goes on with another one after a first byte. -/
theorem TakesAt.step {b : UInt8} (same : ∀ rest, read (b :: rest) = tail rest) (grow : ∀ t, Tail t → Part (b :: t))
    (h : TakesAt Tail tail input) : TakesAt Part read (b :: input) := by
  intro a rest ok
  rw [same] at ok
  obtain ⟨t, part, split, others⟩ := h a rest ok
  exact ⟨b :: t, grow t part, congrArg (b :: ·) split, fun after stops => (same _).trans (others after stops)⟩

/-- A reader does as another one where the input does not start with a byte of some kind. -/
theorem TakesAt.of_clear {kind : UInt8 → Bool} (same : ∀ input, Clear kind input → read input = tail input)
    (kinds : ∀ b, inNumber b = false → kind b = false) (clear : Clear kind input) (h : TakesAt Tail tail input) :
    TakesAt Tail read input := by
  intro a rest ok
  rw [same input clear] at ok
  obtain ⟨t, part, split, others⟩ := h a rest ok
  refine ⟨t, part, split, fun after stops => ?_⟩
  have front : Clear kind (t ++ after) := Clear.swap (split ▸ clear) fun b hb => kinds b (stops b hb)
  rw [same _ front, others after stops]

theorem noDigit_of_not_inNumber (b : UInt8) (h : inNumber b = false) : isDigitByte b = false :=
  (Bool.or_eq_false_iff.mp h).1

/-- Whether a byte is one of some marks. -/
def isMark (marks : Bytes) (b : UInt8) : Bool := marks.contains b

theorem noMark_of_not_inNumber {marks : Bytes} (sub : marks ⊆ numberMarks) (b : UInt8) (h : inNumber b = false) :
    isMark marks b = false := by
  have none := (Bool.or_eq_false_iff.mp h).2
  simp only [isMark, List.contains_eq_mem, decide_eq_false_iff_not] at none ⊢
  exact fun mem => none (sub mem)

theorem mark_of_not_clear {b m n : UInt8} {rest : Bytes} (h : ¬Clear (isMark [m, n]) (b :: rest)) :
    b = m ∨ b = n := by
  rw [clear_cons, Bool.not_eq_false] at h
  simpa [isMark] using h

/-- Some digits and a text of a sort behind them. -/
def DigitsThen (Tail : Bytes → Prop) (t : Bytes) : Prop := ∃ ds u, AllDigits ds ∧ Tail u ∧ t = ds ++ u

theorem DigitsThen.cons {b : UInt8} {t : Bytes} (digit : isDigitByte b = true) (h : DigitsThen Tail t) :
    DigitsThen Tail (b :: t) := by
  obtain ⟨ds, u, digits, tail, rfl⟩ := h
  exact ⟨b :: ds, u, List.forall_mem_cons.mpr ⟨digit, digits⟩, tail, rfl⟩

/--
Digits are read one by one, each in a state that the digits before have left, until there is none or the rest
of them is left to another reader.
-/
theorem TakesAt.digits {σ : Type} (read : σ → Bytes → Except ParseError (α × Bytes))
    (stop : ∀ s input, Clear isDigitByte input → TakesAt Tail (read s) input)
    (digit : ∀ s b, isDigitByte b = true → (∃ s', ∀ rest, read s (b :: rest) = read s' rest) ∨
      ∃ tail, (∀ input, TakesAt (DigitsThen Tail) tail input) ∧ ∀ rest, read s (b :: rest) = tail rest)
    (s : σ) (input : Bytes) : TakesAt (DigitsThen Tail) (read s) input := by
  have stopped (s : σ) (input : Bytes) (clear : Clear isDigitByte input) :
      TakesAt (DigitsThen Tail) (read s) input :=
    (stop s input clear).imp fun t tail => ⟨[], t, nofun, tail, rfl⟩
  induction input generalizing s with
  | nil => exact stopped s [] (clear_nil _)
  | cons b rest ih =>
    cases isDigit : isDigitByte b with
    | false => exact stopped s _ (clear_cons.mpr isDigit)
    | true =>
      rcases digit s b isDigit with ⟨s', same⟩ | ⟨tail, takes, same⟩
      · exact TakesAt.step same (fun t => DigitsThen.cons isDigit) (ih s')
      · exact TakesAt.step same (fun t => DigitsThen.cons isDigit) (takes rest)

/-- Digits are dropped, and what follows them is read. -/
theorem TakesAt.afterDigits (h : ∀ input, Clear isDigitByte input → TakesAt Tail tail input) (input : Bytes) :
    TakesAt (DigitsThen Tail) (fun rest => tail (rest.dropWhile isDigitByte)) input := by
  have stays (input : Bytes) (clear : Clear isDigitByte input) : input.dropWhile isDigitByte = input := by
    cases input with
    | nil => rfl
    | cons b rest => rw [List.dropWhile_cons, clear_cons.mp clear]; rfl
  refine TakesAt.digits (fun (_ : Unit) rest => tail (rest.dropWhile isDigitByte)) ?_ ?_ () input
  · intro _ input clear
    exact TakesAt.of_clear (fun input clear => by rw [stays input clear]) noDigit_of_not_inNumber clear (h input clear)
  · intro _ b digit
    refine .inl ⟨(), fun rest => ?_⟩
    rw [List.dropWhile_cons, digit]
    rfl

end Parts

/-! ## Exponents -/

section Numbers

variable (positive positiveExponent : Bool) (significand : Nat)

theorem exponentDigits_of_clear (start : Int) (exponent : Nat) {input : Bytes} (clear : Clear isDigitByte input) :
    exponentDigits positive positiveExponent significand start exponent input =
      (scaled positive significand (if positiveExponent then start + exponent else start - exponent)).map (·, input) := by
  cases input with
  | nil => rw [exponentDigits]; rfl
  | cons b rest =>
    rw [exponentDigits, if_neg (by simp [clear_cons.mp clear])]
    rfl

theorem takes_exponentDigits (start : Int) (exponent : Nat) (input : Bytes) :
    TakesAt (DigitsThen (· = [])) (exponentDigits positive positiveExponent significand start exponent) input := by
  refine TakesAt.digits (exponentDigits positive positiveExponent significand start) ?_ ?_ exponent input
  · intro exponent input clear
    exact TakesAt.of_clear (fun input clear => exponentDigits_of_clear positive _ significand start exponent clear)
      noDigit_of_not_inNumber clear (takesAt_result _ input)
  · intro exponent b digit
    by_cases large : exponent * 10 + digitValue b > 2147483647
    · by_cases infinite : (significand != 0 && positiveExponent) = true
      · refine .inr ⟨fun _ => .error .numberOutOfRange, takesAt_error _, fun rest => ?_⟩
        rw [exponentDigits, if_pos digit, if_pos large, if_pos infinite]
      · refine .inr ⟨_, TakesAt.afterDigits (fun input _ =>
          takesAt_result (.ok (Number.float (if positive then .zero else Binary64.zero.neg))) input), fun rest => ?_⟩
        rw [exponentDigits, if_pos digit, if_pos large, if_neg infinite]
        rfl
    · refine .inl ⟨exponent * 10 + digitValue b, fun rest => ?_⟩
      rw [exponentDigits, if_pos digit, if_neg large]

/-- An exponent after its mark. -/
inductive ExponentDigits : Bytes → Prop where
  | mk (sign : Bytes) (d : UInt8) {ds : Bytes} (signed : sign = [] ∨ sign = [0x2B] ∨ sign = [0x2D])
      (digit : isDigitByte d = true) (rest : AllDigits ds) : ExponentDigits (sign ++ d :: ds)

/-- The digits of an exponent after its sign. -/
def afterSign (start : Int) : Bytes → Except ParseError (Number × Bytes)
  | [] => .error .eofValue
  | b :: rest =>
    if isDigitByte b then exponentDigits positive positiveExponent significand start (digitValue b) rest
    else .error .invalidNumber

theorem takes_afterSign (start : Int) (input : Bytes) :
    TakesAt (fun t => ∃ d ds, isDigitByte d = true ∧ AllDigits ds ∧ t = d :: ds)
      (afterSign positive positiveExponent significand start) input := by
  cases input with
  | nil => exact nofun
  | cons b rest =>
    cases digit : isDigitByte b with
    | false =>
      intro a left ok
      rw [afterSign, if_neg (by simp [digit])] at ok
      cases ok
    | true =>
      refine TakesAt.step (fun rest => if_pos digit) ?_
        (takes_exponentDigits positive positiveExponent significand start (digitValue b) rest)
      rintro t ⟨ds, u, digits, rfl, rfl⟩
      exact ⟨b, ds, digit, digits, by rw [List.append_nil]⟩

theorem exponentPart_of_clear (start : Int) {input : Bytes} (clear : Clear (isMark [0x2B, 0x2D]) input) :
    exponentPart positive significand start input = afterSign positive true significand start input := by
  cases input with
  | nil => rfl
  | cons b rest =>
    have noSign : b ≠ 0x2B ∧ b ≠ 0x2D := by simpa [isMark] using clear_cons.mp clear
    unfold exponentPart
    split
    next same =>
    split at same
    · next first => exact absurd (List.cons.inj first).1 noSign.1
    · next first => exact absurd (List.cons.inj first).1 noSign.2
    · cases same
      rfl

theorem takes_exponentPart (start : Int) (input : Bytes) :
    TakesAt ExponentDigits (exponentPart positive significand start) input := by
  by_cases clear : Clear (isMark [0x2B, 0x2D]) input
  · refine TakesAt.of_clear (fun _ => exponentPart_of_clear positive significand start)
      (noMark_of_not_inNumber (by decide)) clear ?_
    refine (takes_afterSign positive true significand start input).imp ?_
    rintro t ⟨d, ds, digit, rest, rfl⟩
    exact ExponentDigits.mk [] d (.inl rfl) digit rest
  · have signed {sign : UInt8} (letter : sign = 0x2B ∨ sign = 0x2D) (t : Bytes)
        (h : ∃ d ds, isDigitByte d = true ∧ AllDigits ds ∧ t = d :: ds) : ExponentDigits (sign :: t) := by
      obtain ⟨d, ds, digit, rest, rfl⟩ := h
      refine ExponentDigits.mk [sign] d (.inr ?_) digit rest
      rcases letter with rfl | rfl
      · exact .inl rfl
      · exact .inr rfl
    cases input with
    | nil => exact absurd (clear_nil _) clear
    | cons b rest =>
      have sign : b = 0x2B ∨ b = 0x2D := mark_of_not_clear clear
      rcases sign with rfl | rfl
      · exact TakesAt.step (fun _ => rfl) (signed (.inl rfl)) (takes_afterSign positive true significand start rest)
      · exact TakesAt.step (fun _ => rfl) (signed (.inr rfl)) (takes_afterSign positive false significand start rest)

theorem ExponentDigits.isExponent {mark : UInt8} {t : Bytes} (letter : mark = 0x65 ∨ mark = 0x45)
    (h : ExponentDigits t) : IsExponent (mark :: t) := by
  obtain ⟨sign, d, signed, digit, rest⟩ := h
  exact IsExponent.digits mark sign d letter signed digit rest

/-! ## Decimals -/

theorem afterDecimals_of_clear (exponent : Int) {input : Bytes} (clear : Clear (isMark [0x65, 0x45]) input) :
    afterDecimals positive significand exponent input = (scaled positive significand exponent).map (·, input) := by
  cases input with
  | nil => rfl
  | cons b rest =>
    have noMark : ¬(b == 0x65 || b == 0x45) = true := by simpa [isMark] using clear_cons.mp clear
    rw [afterDecimals, if_neg noMark]

theorem takes_afterDecimals (exponent : Int) (input : Bytes) :
    TakesAt IsExponent (afterDecimals positive significand exponent) input := by
  by_cases clear : Clear (isMark [0x65, 0x45]) input
  · refine TakesAt.of_clear (fun _ => afterDecimals_of_clear positive significand exponent)
      (noMark_of_not_inNumber (by decide)) clear ?_
    exact (takesAt_result _ input).imp fun t none => none ▸ IsExponent.none
  · cases input with
    | nil => exact absurd (clear_nil _) clear
    | cons b rest =>
      have mark : b = 0x65 ∨ b = 0x45 := mark_of_not_clear clear
      have isMark : (b == 0x65 || b == 0x45) = true := by simpa using mark
      exact TakesAt.step (fun rest => if_pos isMark) (fun t => ExponentDigits.isExponent mark)
        (takes_exponentPart positive significand exponent rest)

theorem decimals_of_clear (exponent : Int) {input : Bytes} (clear : Clear isDigitByte input) :
    decimals positive significand exponent true input = afterDecimals positive significand exponent input := by
  cases input with
  | nil => rfl
  | cons b rest =>
    rw [decimals, if_neg (by simp [clear_cons.mp clear]), if_pos rfl]

/-- A decimal is read with those before it, or it is one too many, and the others are passed over. -/
theorem decimals_digit (any : Bool) (exponent : Int) {b : UInt8} (digit : isDigitByte b = true) :
    (∃ significand' exponent', ∀ rest, decimals positive significand exponent any (b :: rest) =
      decimals positive significand' exponent' true rest) ∨
      ∀ rest, decimals positive significand exponent any (b :: rest) =
        afterDecimals positive significand exponent (rest.dropWhile isDigitByte) := by
  by_cases long : overflows significand (digitValue b) = true
  · refine .inr fun rest => ?_
    rw [decimals, if_pos digit, if_pos long]
  · refine .inl ⟨significand * 10 + digitValue b, exponent - 1, fun rest => ?_⟩
    rw [decimals, if_pos digit, if_neg long]

theorem takes_moreDecimals (exponent : Int) (input : Bytes) :
    TakesAt (DigitsThen IsExponent) (decimals positive significand exponent true) input := by
  refine TakesAt.digits (fun s : Nat × Int => decimals positive s.1 s.2 true) ?_ ?_ (significand, exponent) input
  · rintro ⟨significand, exponent⟩ input clear
    exact TakesAt.of_clear (fun _ => decimals_of_clear positive significand exponent) noDigit_of_not_inNumber clear
      (takes_afterDecimals positive significand exponent input)
  · rintro ⟨significand, exponent⟩ b digit
    rcases decimals_digit positive significand true exponent digit with ⟨significand', exponent', same⟩ | same
    · exact .inl ⟨(significand', exponent'), same⟩
    · exact .inr ⟨_, TakesAt.afterDigits fun input _ => takes_afterDecimals positive significand exponent input, same⟩

/-- The decimals after a point. -/
def Decimals (t : Bytes) : Prop := ∃ d u, isDigitByte d = true ∧ DigitsThen IsExponent u ∧ t = d :: u

theorem takes_decimals (exponent : Int) (input : Bytes) :
    TakesAt Decimals (decimals positive significand exponent false) input := by
  cases input with
  | nil => exact nofun
  | cons b rest =>
    cases digit : isDigitByte b with
    | false =>
      intro a left ok
      rw [decimals, if_neg (by simp [digit])] at ok
      cases ok
    | true =>
      rcases decimals_digit positive significand false exponent digit with ⟨significand', exponent', same⟩ | same
      · exact TakesAt.step same (fun t h => ⟨b, t, digit, h, rfl⟩)
          (takes_moreDecimals positive significand' exponent' rest)
      · exact TakesAt.step same (fun t h => ⟨b, t, digit, h, rfl⟩)
          (TakesAt.afterDigits (fun input _ => takes_afterDecimals positive significand exponent input) rest)

theorem Decimals.numberTail {t : Bytes} (h : Decimals t) : NumberTail (0x2E :: t) := by
  obtain ⟨d, u, digit, ⟨ds, exponent, digits, isExponent, rfl⟩, rfl⟩ := h
  exact ⟨0x2E :: d :: ds, exponent, .decimals d digit digits, isExponent, rfl⟩

/-! ## Whole digits -/

/-- Whether a byte goes on with a number after its whole digits. -/
def afterWholeMark (b : UInt8) : Bool := isDigitByte b || isMark [0x2E, 0x65, 0x45] b

theorem not_afterWholeMark (b : UInt8) (h : inNumber b = false) : afterWholeMark b = false := by
  rw [afterWholeMark, noDigit_of_not_inNumber b h, noMark_of_not_inNumber (by decide) b h]
  rfl

/-- A reader of what follows the whole digits goes on with decimals or an exponent, or is at the end. -/
theorem takes_numberTail {read : Bytes → Except ParseError (Number × Bytes)} {x : Except ParseError Number}
    (exponent : Int) (point : ∀ rest, read (0x2E :: rest) = decimals positive significand exponent false rest)
    (mark : ∀ b rest, b = 0x65 ∨ b = 0x45 → read (b :: rest) = exponentPart positive significand exponent rest)
    (ends : ∀ input, Clear afterWholeMark input → read input = x.map (·, input)) (input : Bytes)
    (clear : Clear isDigitByte input) : TakesAt NumberTail read input := by
  have atEnd (input : Bytes) (clear : Clear afterWholeMark input) : TakesAt NumberTail read input := by
    refine TakesAt.of_clear ends not_afterWholeMark clear ((takesAt_result x input).imp ?_)
    rintro t rfl
    exact ⟨[], [], .none, .none, rfl⟩
  cases input with
  | nil => exact atEnd [] (clear_nil _)
  | cons b rest =>
    cases marked : isMark [0x2E, 0x65, 0x45] b with
    | false =>
      refine atEnd _ (clear_cons.mpr ?_)
      rw [afterWholeMark, clear_cons.mp clear, marked]
      rfl
    | true =>
      have which : b = 0x2E ∨ b = 0x65 ∨ b = 0x45 := by simpa [isMark] using marked
      rcases which with rfl | letter
      · exact TakesAt.step point (fun t => Decimals.numberTail) (takes_decimals positive significand exponent rest)
      · refine TakesAt.step (fun rest => mark b rest letter) (fun t digits => ?_)
          (takes_exponentPart positive significand exponent rest)
        exact ⟨[], b :: t, .none, ExponentDigits.isExponent letter digits, rfl⟩

/-- The number of whole digits with nothing behind them. -/
def wholeNumber : Number :=
  if positive then .whole significand
  else if significand == 0 || significand > Nat.pow 2 63 then
    .float ((Binary64.ofRatio? true significand 1).getD .zero)
  else .whole (-(significand : Int))

theorem afterWhole_of_clear {input : Bytes} (clear : Clear afterWholeMark input) :
    afterWhole positive significand input = .ok (wholeNumber positive significand, input) := by
  have noMark (b : UInt8) (rest : Bytes) (front : input = b :: rest) : b ≠ 0x2E ∧ b ≠ 0x65 ∧ b ≠ 0x45 := by
    subst front
    simpa [isMark] using (Bool.or_eq_false_iff.mp (clear_cons.mp clear)).2
  unfold afterWhole
  split
  · exact absurd rfl (noMark _ _ rfl).1
  · exact absurd rfl (noMark _ _ rfl).2.1
  · exact absurd rfl (noMark _ _ rfl).2.2
  · rw [wholeNumber]
    split
    · rfl
    · split <;> rfl

theorem takes_afterWhole (input : Bytes) (clear : Clear isDigitByte input) :
    TakesAt NumberTail (afterWhole positive significand) input := by
  refine takes_numberTail positive significand (x := .ok (wholeNumber positive significand)) 0 (fun rest => rfl) ?_
    (fun input => afterWhole_of_clear positive significand) input clear
  rintro b rest (rfl | rfl) <;> rfl

theorem takes_longWhole (exponent : Nat) (input : Bytes) :
    TakesAt (DigitsThen NumberTail) (longWhole positive significand exponent) input := by
  refine TakesAt.digits (longWhole positive significand) ?_ ?_ exponent input
  · intro exponent input clear
    refine takes_numberTail positive significand (x := scaled positive significand exponent) exponent
      (fun rest => rfl) ?_ ?_ input clear
    · rintro b rest (rfl | rfl) <;> rfl
    · intro input clear
      cases input with
      | nil => rfl
      | cons b rest =>
        obtain ⟨noDigit, noMark⟩ := Bool.or_eq_false_iff.mp (clear_cons.mp clear)
        have noMark : b ≠ 0x2E ∧ b ≠ 0x65 ∧ b ≠ 0x45 := by simpa [isMark] using noMark
        simp [longWhole, noDigit, noMark]
  · intro exponent b digit
    refine .inl ⟨exponent + 1, fun rest => ?_⟩
    rw [longWhole, if_pos digit]

theorem wholeDigits_of_clear {input : Bytes} (clear : Clear isDigitByte input) :
    wholeDigits positive significand input = afterWhole positive significand input := by
  cases input with
  | nil => rfl
  | cons b rest => rw [wholeDigits, if_neg (by simp [clear_cons.mp clear])]

theorem takes_wholeDigits (input : Bytes) :
    TakesAt (DigitsThen NumberTail) (wholeDigits positive significand) input := by
  refine TakesAt.digits (wholeDigits positive) ?_ ?_ significand input
  · intro significand input clear
    exact TakesAt.of_clear (fun _ => wholeDigits_of_clear positive significand) noDigit_of_not_inNumber clear
      (takes_afterWhole positive significand input clear)
  · intro significand b digit
    by_cases long : overflows significand (digitValue b) = true
    · refine .inr ⟨_, takes_longWhole positive significand 1, fun rest => ?_⟩
      rw [wholeDigits, if_pos digit, if_pos long]
    · refine .inl ⟨significand * 10 + digitValue b, fun rest => ?_⟩
      rw [wholeDigits, if_pos digit, if_neg long]

theorem number_zero {input : Bytes} (clear : Clear isDigitByte input) :
    number positive (0x30 :: input) = afterWhole positive 0 input := by
  cases input with
  | nil => rfl
  | cons c rest =>
    have noDigit : ¬isDigitByte c = true := by simp [clear_cons.mp clear]
    exact if_neg noDigit

theorem number_digit {b : UInt8} (digit : isDigitByte b = true) (nonzero : b ≠ 0x30) (rest : Bytes) :
    number positive (b :: rest) = wholeDigits positive (digitValue b) rest := by
  have isZero : ¬(b == 0x30) = true := by simpa using nonzero
  change (if b == 0x30 then _ else if isDigitByte b then _ else _) = _
  rw [if_neg isZero, if_pos digit]

/-- **What is read as a number is a number**, and it is read in the same way whatever follows it. -/
theorem takes_number (input : Bytes) : TakesAt IsUnsigned (number positive) input := by
  cases input with
  | nil => exact nofun
  | cons b rest =>
    by_cases zero : b = 0x30
    · subst zero
      by_cases clear : Clear isDigitByte rest
      · have behind : TakesAt NumberTail (fun rest => number positive (0x30 :: rest)) rest :=
          TakesAt.of_clear (fun _ => number_zero positive) noDigit_of_not_inNumber clear
            (takes_afterWhole positive 0 rest clear)
        exact TakesAt.step (fun _ => rfl) (fun t isTail => ⟨[0x30], t, .zero, isTail, rfl⟩) behind
      · intro a left ok
        cases rest with
        | nil => exact absurd (clear_nil _) clear
        | cons c rest =>
          have digit : isDigitByte c = true := by simpa [clear_cons] using clear
          rw [show number positive (0x30 :: c :: rest) = .error .invalidNumber from if_pos digit] at ok
          cases ok
    · cases digit : isDigitByte b with
      | false =>
        intro a left ok
        have isZero : ¬(b == 0x30) = true := by simpa using zero
        change (if b == 0x30 then _ else if isDigitByte b then _ else _) = _ at ok
        rw [if_neg isZero, if_neg (by simp [digit])] at ok
        cases ok
      | true =>
        refine TakesAt.step (number_digit positive digit zero) ?_ (takes_wholeDigits positive (digitValue b) rest)
        rintro t ⟨ds, tail, digits, isTail, rfl⟩
        exact ⟨b :: ds, tail, .digits b digit zero digits, isTail, rfl⟩

end Numbers

end RecordGate.Json
