import RecordGate.Proofs.Calendar.Reading

/-!
# What the readers of dates take off

A reader of a number takes off digits, so what the readers of days and clocks take off ends with a digit
(`Calendar.day?_takes`, `Calendar.clock?_takes`). A text that is a date, or a timestamp in whole seconds, therefore has
no blanks behind it, and those before it are passed over: where blanks may stand around it, it is read as the same
(`Date.parse?_of_ofChars?`, `Timestamp.parse?_of_ofChars?`). A date is also a timestamp, that of its midnight, since no
other form of a timestamp ends behind the day (`Timestamp.parse?_of_date`).
-/

namespace RecordGate.Calendar

open Text (isBlank)

variable {least most n : Nat} {cs rest : List Char}

/-- What is taken off a text ends with a digit. -/
def TakesToDigit (cs rest : List Char) : Prop := ∃ front d, d.isDigit = true ∧ cs = front ++ d :: rest

theorem TakesToDigit.behind (front : List Char) (h : TakesToDigit cs rest) : TakesToDigit (front ++ cs) rest := by
  obtain ⟨taken, d, digit, rfl⟩ := h
  exact ⟨front ++ taken, d, digit, (List.append_assoc ..).symm⟩

theorem TakesToDigit.behind_blanks (h : TakesToDigit (cs.dropWhile isBlank) rest) : TakesToDigit cs rest := by
  have behind := h.behind (cs.takeWhile isBlank)
  rwa [List.takeWhile_append_dropWhile] at behind

theorem TakesToDigit.trans {rest' : List Char} (h : TakesToDigit cs rest) (h' : TakesToDigit rest rest') :
    TakesToDigit cs rest' := by
  obtain ⟨taken, d, -, rfl⟩ := h
  exact (h'.behind [d]).behind taken

/-! ## Numbers -/

theorem number?_some (h : number? least most cs = some (n, rest)) :
    ∃ ds, cs = ds ++ rest ∧ (∀ c ∈ ds, c.isDigit = true) ∧ least ≤ ds.length := by
  simp only [number?] at h
  split at h
  · cases h
  next enough =>
  cases h
  have front := (List.takeWhile_prefix (l := cs.take most) Char.isDigit).trans (List.take_prefix most cs)
  exact ⟨_, (List.prefix_iff_eq_append.mp front).symm, fun c mem => List.all_eq_true.mp List.all_takeWhile c mem,
    Nat.not_lt.mp enough⟩

/-- What has enough digits for a number has enough where fewer are asked for. -/
theorem number?_of_least {least' : Nat} (h : number? least most cs = some (n, rest)) (fewer : least' ≤ least) :
    number? least' most cs = some (n, rest) := by
  simp only [number?] at h ⊢
  split at h
  · cases h
  next enough => rw [if_neg (by omega), h]

theorem number?_takes (h : number? least most cs = some (n, rest)) (asked : 0 < least) : TakesToDigit cs rest := by
  obtain ⟨ds, rfl, digits, enough⟩ := number?_some h
  obtain ⟨front, d, rfl⟩ := (List.eq_nil_or_concat ds).resolve_left (List.length_pos_iff.mp (by omega))
  exact ⟨front, d, digits d (by simp), by simp⟩

/-- A number starts with a digit, so there are no blanks to pass over. -/
theorem startsDigit_of_number? (h : number? least most cs = some (n, rest)) (asked : 0 < least) :
    ∃ d tail, cs = d :: tail ∧ d.isDigit = true ∧ cs.dropWhile isBlank = cs := by
  obtain ⟨ds, rfl, digits, enough⟩ := number?_some h
  obtain ⟨d, tail, rfl⟩ := List.exists_cons_of_length_pos (show 0 < ds.length by omega)
  have digit := digits d List.mem_cons_self
  exact ⟨d, tail ++ rest, rfl, digit,
    List.dropWhile_cons_of_neg (by rw [Text.isBlank_of_isDigit digit]; exact Bool.false_ne_true)⟩

theorem shortNumber?_takes (h : shortNumber? cs = some (n, rest)) : TakesToDigit cs rest :=
  (number?_takes h Nat.one_pos).behind_blanks

/-- A number of two digits is a short number. -/
theorem shortNumber?_of_number? (h : number? 2 2 cs = some (n, rest)) : shortNumber? cs = some (n, rest) := by
  obtain ⟨-, -, -, -, here⟩ := startsDigit_of_number? h Nat.two_pos
  rw [shortNumber?, here]
  exact number?_of_least h (by decide)

theorem mark?_some {c : Char} (h : mark? c cs = some rest) : cs = c :: rest := by
  cases cs with
  | nil => cases h
  | cons d tail =>
    rw [mark?] at h
    split at h
    · next same =>
      cases h
      rw [beq_iff_eq.mp same]
    · cases h

/-! ## Days -/

theorem year?_takes {year : Int} (h : year? cs = some (year, rest)) : TakesToDigit cs rest := by
  refine TakesToDigit.behind_blanks ?_
  unfold year? at h
  split at h
  · next tail front =>
    obtain ⟨⟨n, r⟩, read, same⟩ := Option.map_eq_some_iff.mp h
    cases same
    exact front ▸ (number?_takes read Nat.one_pos).behind ['-']
  · next tail front =>
    obtain ⟨⟨n, r⟩, read, same⟩ := Option.map_eq_some_iff.mp h
    cases same
    exact front ▸ (number?_takes read Nat.one_pos).behind ['+']
  · obtain ⟨⟨n, r⟩, read, same⟩ := Option.map_eq_some_iff.mp h
    cases same
    exact number?_takes read Nat.one_pos

/-- A number of four digits is a year. -/
theorem year?_of_number? (h : number? 4 4 cs = some (n, rest)) : year? cs = some ((n : Int), rest) := by
  obtain ⟨d, tail, rfl, digit, here⟩ := startsDigit_of_number? h (by decide)
  rw [year?, here]
  split
  · next same =>
    cases same
    cases digit
  · next same =>
    cases same
    cases digit
  · rw [number?_of_least h (by decide), Option.map_some]

theorem year?_dropWhile : year? (cs.dropWhile isBlank) = year? cs := by
  rw [year?, year?, List.dropWhile_idempotent]

theorem day?_dropWhile : day? (cs.dropWhile isBlank) = day? cs := by
  rw [day?, day?, year?_dropWhile]

/-- The parts of a day that is read. -/
theorem day?_some {date : Date} (h : day? cs = some (date, rest)) :
    ∃ (year : Int) (month day : Nat) (inMonth inDay : List Char), year? cs = some (year, '-' :: inMonth) ∧
      shortNumber? inMonth = some (month, '-' :: inDay) ∧ shortNumber? inDay = some (day, rest) ∧
      Date.ofParts? year month day = some date := by
  simp only [day?, Option.bind_eq_bind, Option.bind_eq_some_iff, Prod.exists] at h
  obtain ⟨year, _, readYear, inMonth, markMonth, month, _, readMonth, inDay, markDay, day, _, readDay, d, real, same⟩ :=
    h
  cases same
  rw [mark?_some markMonth] at readYear
  rw [mark?_some markDay] at readMonth
  exact ⟨year, month, day, inMonth, inDay, readYear, readMonth, readDay, real⟩

theorem day?_takes {date : Date} (h : day? cs = some (date, rest)) : TakesToDigit cs rest := by
  obtain ⟨year, month, day, inMonth, inDay, readYear, readMonth, readDay, -⟩ := day?_some h
  have toMonth := (shortNumber?_takes readDay).behind ['-']
  have toYear := ((shortNumber?_takes readMonth).trans toMonth).behind ['-']
  exact (year?_takes readYear).trans toYear

/-- A hyphen stands behind the year of a day. -/
theorem hyphen_of_day? {date : Date} (h : day? cs = some (date, rest)) : '-' ∈ cs.tail := by
  obtain ⟨year, month, day, inMonth, inDay, readYear, -, -, -⟩ := day?_some h
  obtain ⟨taken, d, -, rfl⟩ := year?_takes readYear
  cases taken with
  | nil => exact List.mem_cons_self
  | cons c taken => simp

/-! ## Timestamps -/

theorem clock?_takes {clock : Clock} (h : clock? shortNumber? cs = some (clock, rest)) : TakesToDigit cs rest := by
  simp only [clock?, Option.bind_eq_bind, Option.bind_eq_some_iff, Prod.exists] at h
  obtain ⟨hour, _, readHour, inMinute, markMinute, minute, _, readMinute, inSecond, markSecond, second, _, readSecond,
    same⟩ := h
  cases same
  rw [mark?_some markMinute] at readHour
  rw [mark?_some markSecond] at readMinute
  have toMinute := (shortNumber?_takes readSecond).behind [':']
  have toHour := ((shortNumber?_takes readMinute).trans toMinute).behind [':']
  exact (shortNumber?_takes readHour).trans toHour

/-- The form with a zone starts with a day, and more follows it. -/
theorem day?_of_zoned? {t : Timestamp} (h : zoned? cs = some t) : ∃ date c rest, day? cs = some (date, c :: rest) := by
  simp only [zoned?, Option.bind_eq_bind, Option.bind_eq_some_iff, Prod.exists] at h
  obtain ⟨year, _, readYear, inMonth, markMonth, month, _, readMonth, inDay, markDay, day, behind, readDay, date, real,
    h⟩ := h
  cases behind with
  | nil => cases h
  | cons c rest =>
    refine ⟨date, c, rest, ?_⟩
    simp only [day?, year?_of_number? readYear, markMonth, shortNumber?_of_number? readMonth, markDay,
      shortNumber?_of_number? readDay, real, Option.bind_eq_bind, Option.bind_some]
    rfl

/-- What is no day with a rest behind it does not have the form with a zone. -/
theorem zoned?_eq_none (h : ∀ date c rest, day? cs ≠ some (date, c :: rest)) : zoned? cs = none := by
  refine Option.eq_none_iff_forall_ne_some.mpr fun t read => ?_
  obtain ⟨date, c, rest, same⟩ := day?_of_zoned? read
  exact h date c rest same

theorem all?_eq_some_iff {α : Type} {reading : Option (α × List Char)} {a : α} :
    all? reading = some a ↔ reading = some (a, []) := by
  unfold all?
  split
  · simp
  · next other => exact ⟨nofun, fun same => absurd same (other a)⟩

theorem dayAndClock?_dropWhile (separator? : List Char → Option (List Char)) (fractions : Bool) :
    dayAndClock? separator? fractions (cs.dropWhile isBlank) = dayAndClock? separator? fractions cs := by
  rw [dayAndClock?, dayAndClock?, day?_dropWhile]

/-- A timestamp in whole seconds ends with a digit, and is read as well where a fraction may follow. -/
theorem dayAndClock?_whole {t : Timestamp} (h : dayAndClock? (mark? 'T') false cs = some t) :
    TakesToDigit cs [] ∧ dayAndClock? (mark? 'T') true cs = some t ∧
      ∃ date rest, day? cs = some (date, 'T' :: rest) := by
  simp only [dayAndClock?, Option.bind_eq_bind, Option.bind_eq_some_iff, Prod.exists, Bool.false_eq_true, if_false,
    if_true, all?_eq_some_iff] at h ⊢
  obtain ⟨date, behind, readDay, inClock, markClock, clock, left, readClock, nano, whole, made⟩ := h
  cases whole
  have marked := mark?_some markClock
  refine ⟨?_, ⟨date, behind, readDay, inClock, markClock, clock, [], readClock, 0, rfl, made⟩, date, inClock, ?_⟩
  · rw [marked] at readDay
    exact (day?_takes readDay).trans ((clock?_takes readClock).behind ['T'])
  · rw [readDay, marked]

/-- Where nothing follows the day there is no clock. -/
theorem dayAndClock?_of_date (separator? : List Char → Option (List Char)) (fractions : Bool)
    (nothing : ∀ cs, separator? [] = some cs → cs = []) {date : Date} (h : day? cs = some (date, [])) :
    dayAndClock? separator? fractions cs = none := by
  rw [dayAndClock?, h]
  cases separated : separator? [] with
  | none => simp [separated]
  | some cs =>
    obtain rfl := nothing cs separated
    simp only [Option.bind_eq_bind, Option.bind_some, separated]
    rfl

/-- The blanks around what ends with a digit stand before it. -/
theorem trimChars_of_takes (h : TakesToDigit cs []) : Text.trimChars cs = cs.dropWhile isBlank := by
  obtain ⟨front, d, digit, rfl⟩ := h
  have solid : ¬isBlank d = true := by simp [Text.isBlank_of_isDigit digit]
  rw [Text.trimChars_eq, List.dropWhile_append]
  split
  · rw [List.dropWhile_cons_of_neg solid]
    exact List.rdropWhile_concat_neg isBlank [] d solid
  · exact List.rdropWhile_concat_neg isBlank _ d solid

end RecordGate.Calendar

namespace RecordGate

open Calendar

/-! ## Texts -/

variable {text : String} {cs : List Char} {d : Date}

theorem Date.ofChars?_eq_some_iff : Date.ofChars? cs = some d ↔ day? cs = some (d, []) := all?_eq_some_iff

theorem Date.ofChars?_dropWhile : Date.ofChars? (cs.dropWhile Text.isBlank) = Date.ofChars? cs := by
  rw [Date.ofChars?, Date.ofChars?, day?_dropWhile]

/-- **A date is read as it stands** where blanks may stand around it. -/
theorem Date.parse?_of_ofChars? (h : Date.ofChars? text.toList = some d) : Date.parse? text = some d := by
  rw [Date.parse?, trimChars_of_takes (day?_takes (Date.ofChars?_eq_some_iff.mp h)), Date.ofChars?_dropWhile, h]

/-- **A date is the timestamp of its midnight.** -/
theorem Timestamp.parse?_of_date (h : Date.parse? text = some d) : Timestamp.parse? text = some (.midnight d) := by
  rw [Date.parse?] at h
  have day := Date.ofChars?_eq_some_iff.mp h
  have marked := dayAndClock?_of_date (mark? 'T') true nofun day
  have blanks := dayAndClock?_of_date (fun r => some (r.dropWhile Text.isBlank)) true
    (fun cs same => (Option.some.inj same).symm) day
  have zoned := zoned?_eq_none fun date c rest same => by cases day.symm.trans same
  simp only [Timestamp.parse?, marked, blanks, zoned, h]
  rfl

/-- **A timestamp in whole seconds is read as it stands** where blanks may stand around it, and is no date. -/
theorem Timestamp.parse?_of_ofChars? {t : Timestamp} (h : Timestamp.ofChars? text.toList = some t) :
    Timestamp.parse? text = some t ∧ Date.parse? text = none := by
  obtain ⟨takes, read, date, rest, day⟩ := dayAndClock?_whole h
  rw [Timestamp.parse?, Date.parse?, trimChars_of_takes takes, dayAndClock?_dropWhile, read, Date.ofChars?_dropWhile,
    Date.ofChars?, day]
  exact ⟨rfl, rfl⟩

/-- A text without a hyphen behind its first character is no date and no timestamp. -/
theorem parse?_eq_none_of_hyphen (h : '-' ∉ (Text.trimChars text.toList).tail) :
    Date.parse? text = none ∧ Timestamp.parse? text = none := by
  have day : day? (Text.trimChars text.toList) = none :=
    Option.eq_none_iff_forall_ne_some.mpr fun read same => h (hyphen_of_day? same)
  have zoned := zoned?_eq_none fun date c rest same => by cases day.symm.trans same
  have date : Date.ofChars? (Text.trimChars text.toList) = none := by rw [Date.ofChars?, day]; rfl
  refine ⟨date, ?_⟩
  simp only [Timestamp.parse?, dayAndClock?, day, zoned, date, Option.bind_eq_bind, Option.bind_none, Option.map_none,
    Option.or_none]

theorem isBlankText_of_parse? {t : Timestamp} (h : Timestamp.parse? text = some t) : Text.isBlankText text = false := by
  refine Bool.eq_false_iff.mpr fun blank => ?_
  have nothing : Text.trimChars text.toList = [] := by
    rw [Text.trimChars_eq, List.dropWhile_eq_nil_iff.mpr (List.all_eq_true.mp blank)]
    rfl
  have none := (@parse?_eq_none_of_hyphen text (by rw [nothing]; exact List.not_mem_nil)).2
  cases h.symm.trans none

end RecordGate
