import Mathlib.Algebra.Group.Nat.Defs
import Mathlib.Data.List.Basic
import Mathlib.Data.Nat.Basic
import RecordGate.Value

/-!
# Written values

Values of one kind that are written alike are the same value (`Value.eq_of_written`): a number with its
sign and its scale, a timestamp with its fraction and its leap second. The proofs split a written form
where a run of digits ends (`append_inj_of_runs`).
-/

namespace RecordGate

section Runs

variable {p : Char → Bool} {run rest : List Char}

/-- A run of characters of a class is taken up to where it ends. -/
theorem takeWhile_run (inside : ∀ c ∈ run, p c = true) (ends : ∀ c ∈ rest.head?, p c = false) :
    (run ++ rest).takeWhile p = run := by
  rw [List.takeWhile_append_of_pos inside]
  cases rest with
  | nil => simp
  | cons c rest => simp [ends c rfl]

theorem dropWhile_run (inside : ∀ c ∈ run, p c = true) (ends : ∀ c ∈ rest.head?, p c = false) :
    (run ++ rest).dropWhile p = rest := by
  rw [List.dropWhile_append_of_pos inside]
  cases rest with
  | nil => rfl
  | cons c rest => simp [ends c rfl]

end Runs

/-- Two texts that begin with a run of characters of a class split alike where the run ends. -/
theorem append_inj_of_runs {p : Char → Bool} {x y r s : List Char} (hx : ∀ c ∈ x, p c = true)
    (hy : ∀ c ∈ y, p c = true) (hr : ∀ c ∈ r.head?, p c = false) (hs : ∀ c ∈ s.head?, p c = false)
    (h : x ++ r = y ++ s) : x = y ∧ r = s := by
  have same : x = y := by
    rw [← takeWhile_run hx hr, h, takeWhile_run hy hs]
  subst same
  exact ⟨rfl, List.append_cancel_left h⟩

/-! ## Digits -/

theorem notMem_toDigits {c : Char} {n : Nat} (h : c.isDigit = false) : c ∉ Nat.toDigits 10 n := by
  intro mem
  rw [Nat.isDigit_of_mem_toDigits (by decide) (by decide) mem] at h
  cases h

/-- A number is told by its digits. -/
theorem toDigits_inj {m n : Nat} (h : Nat.toDigits 10 m = Nat.toDigits 10 n) : m = n := by
  rw [← Nat.ofDigitChars_ten_toDigits (n := m), h, Nat.ofDigitChars_ten_toDigits]

namespace Date

variable {width width' m n : Nat} {c : Char}

theorem isDigit_of_mem_padded (h : c ∈ padded width n) : c.isDigit = true := by
  simp only [padded, List.mem_append, List.mem_replicate] at h
  rcases h with ⟨-, rfl⟩ | h
  · rfl
  · exact Nat.isDigit_of_mem_toDigits (by decide) (by decide) h

theorem padded_ne_nil : padded width n ≠ [] := by
  simp [padded, Nat.toDigits_ne_nil]

/-- Zeros in front do not change the number that digits stand for. -/
theorem ofDigitChars_padded : Nat.ofDigitChars 10 (padded width n) 0 = n := by
  simp [padded, Nat.ofDigitChars_append, Nat.ofDigitChars_replicate_zero, Nat.ofDigitChars_ten_toDigits]

theorem padded_inj (h : padded width m = padded width' n) : m = n := by
  rw [← @ofDigitChars_padded width m, h, ofDigitChars_padded]

/-- A number that does not need more digits is written with exactly as many as asked for. -/
theorem length_padded (pos : 0 < width) (small : n < 10 ^ width) : (padded width n).length = width := by
  have fits : (Nat.toDigits 10 n).length ≤ width := (Nat.length_toDigits_le_iff (by decide) pos).mpr small
  simp only [padded, List.length_append, List.length_replicate]
  omega

/-! ## Dates -/

/-- Years that are written alike before a hyphen are the same. -/
theorem yearChars_inj {y z : Int} {r s : List Char} (h : yearChars y ++ '-' :: r = yearChars z ++ '-' :: s) :
    y = z ∧ r = s := by
  -- A digit at the front means that there is no sign.
  have unsigned {a b : Nat} {sign : Char} {t u : List Char} (hsign : sign.isDigit = false)
      (h : padded 4 a ++ t = (sign :: padded 4 b) ++ u) : False := by
    cases front : padded 4 a with
    | nil => exact padded_ne_nil front
    | cons c cs =>
      rw [front] at h
      have digit : c.isDigit = true := @isDigit_of_mem_padded 4 a c (front ▸ List.mem_cons_self)
      rw [(List.cons.inj h).1, hsign] at digit
      cases digit
  have digits {a b : Nat} (h : padded 4 a ++ '-' :: r = padded 4 b ++ '-' :: s) : a = b ∧ r = s := by
    obtain ⟨same, rest⟩ := append_inj_of_runs (p := Char.isDigit) (fun c => isDigit_of_mem_padded)
      (fun c => isDigit_of_mem_padded) (by simp) (by simp) h
    exact ⟨padded_inj same, (List.cons.inj rest).2⟩
  have sign (year : Int) : (if year < 0 then '-' else '+').isDigit = false := by
    split <;> rfl
  unfold yearChars at h
  by_cases plain : 0 ≤ y ∧ y ≤ 9999 <;> by_cases plain' : 0 ≤ z ∧ z ≤ 9999
  · rw [if_pos plain, if_pos plain'] at h
    obtain ⟨same, rest⟩ := digits h
    exact ⟨by omega, rest⟩
  · rw [if_pos plain, if_neg plain'] at h
    exact (unsigned (sign z) h).elim
  · rw [if_neg plain, if_pos plain'] at h
    exact (unsigned (sign y) h.symm).elim
  · rw [if_neg plain, if_neg plain'] at h
    obtain ⟨signs, rest⟩ := List.cons.inj h
    obtain ⟨same, rest⟩ := digits rest
    refine ⟨?_, rest⟩
    by_cases below : y < 0 <;> by_cases below' : z < 0 <;> simp [below, below'] at signs <;> omega

/-- Dates that are written alike before a text that does not begin with a digit are the same. -/
theorem chars_append_inj {d e : Date} {r s : List Char} (hr : ∀ c ∈ r.head?, c.isDigit = false)
    (hs : ∀ c ∈ s.head?, c.isDigit = false) (h : d.chars ++ r = e.chars ++ s) : d = e ∧ r = s := by
  unfold chars at h
  simp only [List.append_assoc, List.cons_append] at h
  obtain ⟨year, h⟩ := yearChars_inj h
  obtain ⟨month, h⟩ := append_inj_of_runs (p := Char.isDigit) (fun c => isDigit_of_mem_padded)
    (fun c => isDigit_of_mem_padded) (by simp) (by simp) h
  obtain ⟨day, h⟩ := append_inj_of_runs (p := Char.isDigit) (fun c => isDigit_of_mem_padded)
    (fun c => isDigit_of_mem_padded) hr hs (List.cons.inj h).2
  refine ⟨?_, h⟩
  cases d
  cases e
  cases year
  cases padded_inj month
  cases padded_inj day
  rfl

end Date

/-! ## Timestamps -/

namespace Timestamp

/-- A fraction is written with as many digits as it takes, and these stand for it. -/
theorem fractionChars_cases (nano : Nat) :
    (nano % nanosPerSecond = 0 ∧ fractionChars nano = []) ∨
      ∃ width digits, 0 < width ∧ width ≤ 9 ∧ digits < 10 ^ width ∧
        digits * 10 ^ (9 - width) = nano % nanosPerSecond ∧
        fractionChars nano = '.' :: Date.padded width digits := by
  have bound : nano % nanosPerSecond < 10 ^ 9 := Nat.mod_lt _ (by decide)
  unfold fractionChars
  generalize nano % nanosPerSecond = n at bound
  by_cases whole : n = 0
  · exact .inl ⟨whole, by simp [whole]⟩
  right
  by_cases millis : n % 1000000 = 0
  · exact ⟨3, n / 1000000, by decide, by decide, by omega, by omega, by simp [whole, millis]⟩
  by_cases micros : n % 1000 = 0
  · exact ⟨6, n / 1000, by decide, by decide, by omega, by omega, by simp [whole, millis, micros]⟩
  · exact ⟨9, n, by decide, by decide, bound, by omega, by simp [whole, millis, micros]⟩

theorem fractionChars_inj {m n : Nat} (h : fractionChars m = fractionChars n) :
    m % nanosPerSecond = n % nanosPerSecond := by
  rcases fractionChars_cases m with ⟨zero, none⟩ | ⟨width, digits, pos, -, small, value, form⟩ <;>
    rcases fractionChars_cases n with ⟨zero', none'⟩ | ⟨width', digits', pos', -, small', value', form'⟩
  · rw [zero, zero']
  · rw [none, form'] at h
    cases h
  · rw [form, none'] at h
    cases h
  · rw [form, form'] at h
    have same := (List.cons.inj h).2
    have widths := congrArg List.length same
    rw [Date.length_padded pos small, Date.length_padded pos' small'] at widths
    subst widths
    rw [← value, ← value', Date.padded_inj same]

theorem head?_fractionChars (nano : Nat) : ∀ c ∈ (fractionChars nano).head?, c.isDigit = false := by
  rcases fractionChars_cases nano with ⟨-, form⟩ | ⟨width, digits, -, -, -, -, form⟩ <;> rw [form] <;> simp

/-- **Timestamps that are written alike are the same.** -/
theorem chars_injective {s t : Timestamp} (h : s.chars = t.chars) : s = t := by
  unfold chars wholeChars at h
  simp only [List.append_assoc, List.cons_append] at h
  obtain ⟨date, h⟩ := Date.chars_append_inj (by simp) (by simp) h
  obtain ⟨hour, h⟩ := append_inj_of_runs (p := Char.isDigit) (fun c => Date.isDigit_of_mem_padded)
    (fun c => Date.isDigit_of_mem_padded) (by simp) (by simp) (List.cons.inj h).2
  obtain ⟨minute, h⟩ := append_inj_of_runs (p := Char.isDigit) (fun c => Date.isDigit_of_mem_padded)
    (fun c => Date.isDigit_of_mem_padded) (by simp) (by simp) (List.cons.inj h).2
  obtain ⟨second, h⟩ := append_inj_of_runs (p := Char.isDigit) (fun c => Date.isDigit_of_mem_padded)
    (fun c => Date.isDigit_of_mem_padded) (head?_fractionChars s.nano) (head?_fractionChars t.nano)
    (List.cons.inj h).2
  have hour := Date.padded_inj hour
  have minute := Date.padded_inj minute
  have second := Date.padded_inj second
  have fraction := fractionChars_inj h
  -- Second 60 is written only in a leap second, whose nanoseconds count on from second 59.
  have seconds : s.second = t.second ∧ s.nano = t.nano := by
    have leap := s.leap_last
    have leap' := t.leap_last
    have bound := s.nano_lt
    have bound' := t.nano_lt
    simp only [nanosPerSecond] at *
    omega
  cases s
  cases t
  cases date
  cases seconds.1
  cases seconds.2
  rfl

end Timestamp

/-! ## Decimals -/

namespace Decimal

/-- A decimal is written as its digits, cut where its decimals begin. -/
theorem chars_parts (d : Decimal) :
    ∃ whole decimals, whole ≠ [] ∧ decimals.length = d.scale ∧
      whole ++ decimals = Date.padded (d.scale + 1) d.mantissa ∧
      d.chars = (if d.negative then ['-'] else []) ++ (whole ++ if d.scale = 0 then [] else '.' :: decimals) := by
  have long : d.scale + 1 ≤ (paddedDigits d.mantissa (d.scale + 1)).length := by
    simp only [paddedDigits, List.length_append, List.length_replicate]
    omega
  refine ⟨_, _, ?_, ?_, List.take_append_drop ((paddedDigits d.mantissa (d.scale + 1)).length - d.scale) _, ?_⟩
  · rw [Ne, ← List.length_eq_zero_iff, List.length_take]
    change ¬min _ (paddedDigits d.mantissa (d.scale + 1)).length = 0
    omega
  · rw [List.length_drop]
    change (paddedDigits d.mantissa (d.scale + 1)).length - _ = _
    omega
  · simp only [chars, List.append_assoc, beq_iff_eq]
    rfl

/-- **Decimals that are written alike are the same**, with their signs and scales. -/
theorem chars_injective {d e : Decimal} (h : d.chars = e.chars) : d = e := by
  obtain ⟨whole, decimals, wholeD, scaleD, digitsD, formD⟩ := d.chars_parts
  obtain ⟨whole', decimals', wholeE, scaleE, digitsE, formE⟩ := e.chars_parts
  have digit {c : Char} (hc : c ∈ whole ++ decimals) : c.isDigit = true :=
    Date.isDigit_of_mem_padded (digitsD ▸ hc)
  have digit' {c : Char} (hc : c ∈ whole' ++ decimals') : c.isDigit = true :=
    Date.isDigit_of_mem_padded (digitsE ▸ hc)
  -- A digit at the front means that there is no sign.
  have unsigned {w t u : List Char} (hw : w ≠ []) (digits : ∀ c ∈ w, c.isDigit = true)
      (h : w ++ t = '-' :: u) : False := by
    cases w with
    | nil => exact hw rfl
    | cons c w =>
      have := digits c List.mem_cons_self
      rw [(List.cons.inj h).1] at this
      cases this
  have parts : d.negative = e.negative ∧
      (whole ++ if d.scale = 0 then [] else '.' :: decimals) =
        whole' ++ if e.scale = 0 then [] else '.' :: decimals' := by
    rw [formD, formE] at h
    cases hd : d.negative <;> cases he : e.negative <;> simp only [hd, he, if_true] at h
    · exact ⟨rfl, h⟩
    · exact (unsigned wholeD (fun c hc => digit (List.mem_append_left _ hc)) h).elim
    · exact (unsigned wholeE (fun c hc => digit' (List.mem_append_left _ hc)) h.symm).elim
    · exact ⟨rfl, (List.cons.inj h).2⟩
  obtain ⟨signs, h⟩ := parts
  have point (scale : Nat) (ds : List Char) :
      ∀ c ∈ (if scale = 0 then [] else '.' :: ds).head?, c.isDigit = false := by
    split <;> simp
  obtain ⟨wholes, h⟩ := append_inj_of_runs (fun c hc => digit (List.mem_append_left _ hc))
    (fun c hc => digit' (List.mem_append_left _ hc)) (point _ _) (point _ _) h
  have rest : decimals = decimals' := by
    by_cases hd : d.scale = 0 <;> by_cases he : e.scale = 0
    · rw [List.length_eq_zero_iff.mp (scaleD.trans hd), List.length_eq_zero_iff.mp (scaleE.trans he)]
    · rw [if_pos hd, if_neg he] at h
      cases h
    · rw [if_neg hd, if_pos he] at h
      cases h
    · rw [if_neg hd, if_neg he] at h
      exact (List.cons.inj h).2
  have scales : d.scale = e.scale := by rw [← scaleD, ← scaleE, rest]
  have mantissas : d.mantissa = e.mantissa := by
    apply @Date.padded_inj (d.scale + 1) (e.scale + 1)
    rw [← digitsD, ← digitsE, wholes, rest]
  cases d
  cases e
  cases signs
  cases scales
  cases mantissas
  rfl

end Decimal

/-! ## Values -/

namespace Value

/-- **Values of one kind that are written alike are the same value.** -/
theorem eq_of_written {v w : Value} (kinds : v.kind = w.kind) (h : v.written = w.written) : v = w := by
  cases v <;> cases w <;> cases kinds
  case null => rfl
  case bool a b =>
    cases a <;> cases b <;> first | rfl | exact absurd h (by decide)
  case number a b => exact congrArg _ (Decimal.chars_injective (String.ofList_injective h))
  case text a b => exact congrArg _ h
  case date a b =>
    have same := String.ofList_injective h
    exact congrArg _ (Date.chars_append_inj (r := []) (s := []) (by simp) (by simp) (by simp [same])).1
  case timestamp a b => exact congrArg _ (Timestamp.chars_injective (String.ofList_injective h))

end Value

end RecordGate
