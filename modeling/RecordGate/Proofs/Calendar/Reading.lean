import RecordGate.Proofs.Text.Blank
import RecordGate.Proofs.Value

/-!
# Reading written dates and timestamps

Each reader takes the part that was written for it and leaves what follows, as long as no digit follows a
number: years of any sign (`Calendar.year?_append`), days (`Calendar.day?_append`), the clock and its
fraction. So a written date is read back, and a written timestamp with its fraction and its leap second
(`Date.parse?_toString`, `Timestamp.parse?_toString`).
-/

namespace RecordGate.Calendar

open Text (IsSolid isBlank)

variable {width n least most : Nat} {rest : List Char}

/-! ## Numbers -/

/-- Digits are read as a number where no digit follows, or no more are asked for. -/
theorem number?_padded (enough : least ≤ (Date.padded width n).length) (few : (Date.padded width n).length ≤ most)
    (stop : (Date.padded width n).length = most ∨ ∀ c ∈ rest.head?, c.isDigit = false) :
    number? least most (Date.padded width n ++ rest) = some (n, rest) := by
  have run : ((Date.padded width n ++ rest).take most).takeWhile Char.isDigit = Date.padded width n := by
    rw [List.take_append, List.take_of_length_le few,
      List.takeWhile_append_of_pos fun c => Date.isDigit_of_mem_padded]
    refine (List.append_right_eq_self).mpr ?_
    rcases stop with full | stop
    · rw [full, Nat.sub_self]
      rfl
    · cases rest with
      | nil => rw [List.take_nil]; rfl
      | cons c rest =>
        cases most - (Date.padded width n).length with
        | zero => rfl
        | succ more =>
          have noDigit : ¬c.isDigit = true := by simp [stop c rfl]
          rw [List.take_succ_cons, List.takeWhile_cons_of_neg noDigit]
  have value : (Date.padded width n).foldl (fun n c => n * 10 + (c.toNat - '0'.toNat)) 0 = n := by
    simp only [Nat.mul_comm _ 10]
    rw [← Nat.ofDigitChars_eq_foldl, Date.ofDigitChars_padded]
  simp only [number?, run, value, if_neg (Nat.not_lt.mpr enough), List.drop_left]

theorem dropWhile_padded : (Date.padded width n ++ rest).dropWhile isBlank = Date.padded width n ++ rest := by
  cases form : Date.padded width n with
  | nil => exact absurd form Date.padded_ne_nil
  | cons c digits =>
    have solid : isBlank c = false :=
      Text.isBlank_of_isDigit (@Date.isDigit_of_mem_padded width n c (form ▸ List.mem_cons_self))
    exact List.dropWhile_cons_of_neg (by rw [solid]; exact Bool.false_ne_true)

/-- A number of two digits is read whatever follows it. -/
theorem shortNumber?_padded (small : n < 100) : shortNumber? (Date.padded 2 n ++ rest) = some (n, rest) := by
  have length : (Date.padded 2 n).length = 2 := Date.length_padded (by decide) small
  rw [shortNumber?, dropWhile_padded]
  exact number?_padded (by omega) (by omega) (.inl length)

/-! ## Dates -/

/-- A year of four digits has no sign. -/
theorem year?_unsigned (small : n < 10 ^ 4) :
    year? (Date.padded 4 n ++ '-' :: rest) = some ((n : Int), '-' :: rest) := by
  have length : (Date.padded 4 n).length = 4 := Date.length_padded (by decide) small
  have read : number? 1 4 (Date.padded 4 n ++ '-' :: rest) = some (n, '-' :: rest) :=
    number?_padded (by omega) (by omega) (.inl length)
  have digit : ∀ c ∈ (Date.padded 4 n ++ '-' :: rest).head?, c.isDigit = true := by
    intro c hc
    rw [List.head?_append_of_ne_nil _ Date.padded_ne_nil] at hc
    exact Date.isDigit_of_mem_padded (List.mem_of_mem_head? hc)
  rw [year?, dropWhile_padded]
  split
  · next form => exact absurd (digit '-' (by rw [form]; rfl)) (by decide)
  · next form => exact absurd (digit '+' (by rw [form]; rfl)) (by decide)
  · rw [read, Option.map_some]

/-- Behind a sign a year has as many digits as it needs. -/
theorem number?_signed : number? 1 (Date.padded 4 n ++ '-' :: rest).length (Date.padded 4 n ++ '-' :: rest) =
    some (n, '-' :: rest) := by
  have filled : 0 < (Date.padded 4 n).length := List.length_pos_iff.mpr Date.padded_ne_nil
  apply number?_padded
  · omega
  · simp
  · exact .inr (by simp)

theorem year?_minus : year? ('-' :: (Date.padded 4 n ++ '-' :: rest)) = some (-(n : Int), '-' :: rest) := by
  change (number? 1 (Date.padded 4 n ++ '-' :: rest).length (Date.padded 4 n ++ '-' :: rest)).map _ = _
  rw [number?_signed, Option.map_some]

theorem year?_plus : year? ('+' :: (Date.padded 4 n ++ '-' :: rest)) = some ((n : Int), '-' :: rest) := by
  change (number? 1 (Date.padded 4 n ++ '-' :: rest).length (Date.padded 4 n ++ '-' :: rest)).map _ = _
  rw [number?_signed, Option.map_some]

/-- A year is read where a hyphen follows. -/
theorem year?_append (year : Int) (rest : List Char) :
    year? (Date.yearChars year ++ '-' :: rest) = some (year, '-' :: rest) := by
  unfold Date.yearChars
  split
  · rw [year?_unsigned (by omega)]
    congr 2
    omega
  · by_cases negative : year < 0
    · rw [if_pos negative, List.cons_append, year?_minus]
      congr 2
      omega
    · rw [if_neg negative, List.cons_append, year?_plus]
      congr 2
      omega

/-- A day is read whatever follows it. -/
theorem day?_append (d : Date) (rest : List Char) : day? (d.chars ++ rest) = some (d, rest) := by
  obtain ⟨-, -, -, month, -, day⟩ := d.real
  have length : Date.daysInMonth d.year d.month ≤ 31 := by
    unfold Date.daysInMonth
    split_ifs <;> omega
  simp only [day?, Date.chars, List.append_assoc, List.cons_append, year?_append, mark?, beq_self_eq_true, if_true,
    shortNumber?_padded (show d.month < 100 by omega), shortNumber?_padded (show d.day < 100 by omega),
    Option.bind_eq_bind, Option.bind_some, Date.ofParts?_parts]
  rfl

/-! ## Timestamps -/

theorem clock?_append {hour minute second : Nat} (hh : hour < 100) (mm : minute < 100) (ss : second < 100)
    (rest : List Char) :
    clock? shortNumber? (Date.padded 2 hour ++ ':' :: (Date.padded 2 minute ++ ':' :: (Date.padded 2 second ++ rest))) =
      some (⟨hour, minute, second⟩, rest) := by
  simp only [clock?, mark?, beq_self_eq_true, if_true, shortNumber?_padded hh, shortNumber?_padded mm,
    shortNumber?_padded ss, Option.bind_eq_bind, Option.bind_some]
  rfl

/-- A fraction of at most nine digits counts as nanoseconds, whatever its width. -/
theorem nanos?_padded (pos : 0 < width) (short : width ≤ 9) (small : n < 10 ^ width) :
    nanos? (Date.padded width n) = some (n * 10 ^ (9 - width), []) := by
  have length : (Date.padded width n).length = width := Date.length_padded pos small
  have read : number? 1 9 (Date.padded width n ++ []) = some (n, []) :=
    number?_padded (by omega) (by omega) (.inr nofun)
  rw [List.append_nil] at read
  simp only [nanos?, read, Option.bind_eq_bind, Option.bind_some, length, List.length_nil, Nat.sub_zero]
  rfl

theorem fraction?_fractionChars (nano : Nat) :
    fraction? (Timestamp.fractionChars nano) = some (nano % Timestamp.nanosPerSecond, []) := by
  rcases Timestamp.fractionChars_cases nano with ⟨zero, form⟩ | ⟨width, digits, pos, short, small, value, form⟩
  · rw [form, zero]
    rfl
  · rw [form, ← value]
    exact nanos?_padded pos short small

end RecordGate.Calendar

namespace RecordGate

namespace Timestamp

/-- The parts of a written timestamp make it up again: second 60 is the leap second it was. -/
theorem ofClock?_parts (t : Timestamp) :
    ofClock? t.date (t.second / 3600) (t.second / 60 % 60) (t.second % 60 + t.nano / nanosPerSecond)
      (t.nano % nanosPerSecond) = some t := by
  obtain ⟨date, second, nano, hs, hn, leap⟩ := t
  simp only [secondsPerDay, nanosPerSecond] at hs hn leap
  have range : second / 3600 < 24 ∧ second / 60 % 60 < 60 ∧ second % 60 + nano / 1000000000 ≤ 60 ∧
      nano % 1000000000 < 1000000000 := by omega
  simp only [ofClock?, nanosPerSecond, if_pos range, beq_iff_eq]
  split
  · next isLeap =>
    have whole : second / 3600 * 3600 + second / 60 % 60 * 60 + 59 = second := by omega
    have later : 1000000000 + nano % 1000000000 = nano := by omega
    rw [whole, later]
    exact dif_pos ⟨hs, hn, leap⟩
  · next regular =>
    have whole : second / 3600 * 3600 + second / 60 % 60 * 60 + (second % 60 + nano / 1000000000) = second := by omega
    have same : nano % 1000000000 = nano := by omega
    rw [whole, same]
    exact dif_pos ⟨hs, hn, leap⟩

end Timestamp

namespace Calendar

theorem dayAndClock?_chars (t : Timestamp) : dayAndClock? (mark? 'T') true t.chars = some t := by
  have leap : t.nano / Timestamp.nanosPerSecond ≤ 1 := by
    have := t.nano_lt
    simp only [Timestamp.nanosPerSecond] at this ⊢
    omega
  have day : t.second < 86400 := t.second_lt
  have clock := clock?_append (show t.second / 3600 < 100 by omega) (show t.second / 60 % 60 < 100 by omega)
    (show t.second % 60 + t.nano / Timestamp.nanosPerSecond < 100 by omega) (Timestamp.fractionChars t.nano)
  simp only [dayAndClock?, Timestamp.chars, Timestamp.wholeChars, List.append_assoc, List.cons_append, day?_append,
    mark?, beq_self_eq_true, if_true, clock, fraction?_fractionChars, all?, Option.bind_eq_bind, Option.bind_some,
    Timestamp.ofClock?_parts]

end Calendar

/-! ## Texts -/

theorem Date.isSolid_padded (width n : Nat) : Text.IsSolid (padded width n) :=
  Text.isSolid_of_digits fun _ => isDigit_of_mem_padded

theorem Date.isSolid_chars (d : Date) : Text.IsSolid d.chars := by
  have year : Text.IsSolid (yearChars d.year) := by
    unfold yearChars
    split
    · exact isSolid_padded _ _
    · refine .cons ?_ (isSolid_padded _ _)
      split <;> rfl
  exact ((year.append (.cons rfl (isSolid_padded _ _))).append (.cons rfl (isSolid_padded _ _)))

theorem Date.chars_ne_nil (d : Date) : d.chars ≠ [] := by
  simp [chars]

theorem Timestamp.chars_ne_nil (t : Timestamp) : t.chars ≠ [] := by
  simp [chars, wholeChars]

theorem Timestamp.isSolid_chars (t : Timestamp) : Text.IsSolid t.chars := by
  have fraction : Text.IsSolid (fractionChars t.nano) := by
    rcases fractionChars_cases t.nano with ⟨-, form⟩ | ⟨width, digits, -, -, -, -, form⟩
    · rw [form]
      exact Text.isSolid_nil
    · rw [form]
      exact .cons rfl (Date.isSolid_padded _ _)
  have clock (n : Nat) : Text.IsSolid (':' :: Date.padded 2 n) := .cons rfl (Date.isSolid_padded _ _)
  exact (((t.date.isSolid_chars.append (.cons rfl (Date.isSolid_padded _ _))).append (clock _)).append (clock _)).append
    fraction

/-- **A written date is read back.** -/
theorem Date.parse?_toString (d : Date) : parse? (toString d) = some d := by
  have read := Calendar.day?_append d []
  rw [List.append_nil] at read
  change ofChars? (Text.trimChars (String.ofList d.chars).toList) = _
  rw [Text.trimChars_ofList d.isSolid_chars, ofChars?, read]
  rfl

/-- **A written timestamp is read back**, with its fraction and its leap second. -/
theorem Timestamp.parse?_toString (t : Timestamp) : parse? (toString t) = some t := by
  have text : Text.trimChars (toString t).toList = t.chars := Text.trimChars_ofList t.isSolid_chars
  rw [parse?, text, Calendar.dayAndClock?_chars]
  rfl

end RecordGate
