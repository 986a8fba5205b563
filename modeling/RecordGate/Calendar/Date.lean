/-!
# Dates

Days of the proleptic Gregorian calendar from year -262143 to year 262142. A `Date` is always a real
day: the type holds the proof.
-/

namespace RecordGate

namespace Date

/-- Every fourth year, except the hundreds that are not multiples of 400. -/
def isLeap (year : Int) : Bool :=
  year % 4 == 0 && (year % 100 != 0 || year % 400 == 0)

/-- The number of days of a month; none outside January to December. -/
def daysInMonth (year : Int) (month : Nat) : Nat :=
  if month == 2 then (if isLeap year then 29 else 28)
  else if month == 4 || month == 6 || month == 9 || month == 11 then 30
  else if 1 ≤ month && month ≤ 12 then 31
  else 0

/-- The first year. -/
def minYear : Int := -262143

/-- The last year. -/
def maxYear : Int := 262142

/-- The day exists. -/
abbrev Exists (year : Int) (month day : Nat) : Prop :=
  minYear ≤ year ∧ year ≤ maxYear ∧ 1 ≤ month ∧ month ≤ 12 ∧ 1 ≤ day ∧ day ≤ daysInMonth year month

end Date

/-- A day of the calendar. -/
structure Date where
  year : Int
  month : Nat
  day : Nat
  real : Date.Exists year month day
deriving DecidableEq

namespace Date

/-- The day of the given parts, if there is one. -/
def ofParts? (year : Int) (month day : Nat) : Option Date :=
  if h : Exists year month day then some ⟨year, month, day, h⟩ else none

/-- The first of January 1970. -/
def epoch : Date := ⟨1970, 1, 1, by decide⟩

instance : Inhabited Date := ⟨epoch⟩

/-- The order of the calendar. -/
def cmp (a b : Date) : Ordering :=
  (compare a.year b.year).then ((compare a.month b.month).then (compare a.day b.day))

def lt (a b : Date) : Bool := a.cmp b == .lt

/-- The day after; none after the last. -/
def next? (d : Date) : Option Date :=
  match ofParts? d.year d.month (d.day + 1) with
  | some e => some e
  | none =>
    match ofParts? d.year (d.month + 1) 1 with
    | some e => some e
    | none => ofParts? (d.year + 1) 1 1

/-- The day before; none before the first. -/
def prev? (d : Date) : Option Date :=
  if d.day > 1 then ofParts? d.year d.month (d.day - 1)
  else if d.month > 1 then ofParts? d.year (d.month - 1) (daysInMonth d.year (d.month - 1))
  else ofParts? (d.year - 1) 12 31

/-- The day that comes a number of days after. -/
def later? (d : Date) : (days : Nat) → Option Date
  | 0 => some d
  | days + 1 => do later? (← d.next?) days

/-- The digits of a number, with zeros in front up to the given width. -/
def padded (width n : Nat) : List Char :=
  let digits := Nat.toDigits 10 n
  List.replicate (width - digits.length) '0' ++ digits

/-- Years 0 to 9999 have four digits; any other year has a sign and at least four. -/
def yearChars (year : Int) : List Char :=
  if 0 ≤ year ∧ year ≤ 9999 then padded 4 year.natAbs
  else (if year < 0 then '-' else '+') :: padded 4 year.natAbs

/-- Year, month and day, with hyphens between. -/
def chars (d : Date) : List Char :=
  yearChars d.year ++ '-' :: padded 2 d.month ++ '-' :: padded 2 d.day

instance : ToString Date := ⟨fun d => String.ofList d.chars⟩

theorem ofParts?_parts (d : Date) : ofParts? d.year d.month d.day = some d := by
  exact dif_pos d.real

end Date

end RecordGate
