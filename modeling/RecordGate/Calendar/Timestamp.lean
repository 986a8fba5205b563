import RecordGate.Calendar.Date

/-!
# Timestamps

A date and a time of day down to the nanosecond, without a zone. A leap second is written as second
60: its nanoseconds count on from the second before it, so they reach a billion or more.
-/

namespace RecordGate

/-- A billion. -/
def Timestamp.nanosPerSecond : Nat := 1000000000

/-- Seconds of a day without a leap second. -/
def Timestamp.secondsPerDay : Nat := 86400

/-- A date and a time of day. -/
structure Timestamp where
  date : Date
  /-- Seconds since midnight. -/
  second : Nat
  /-- Nanoseconds since that second; a billion or more only in a leap second. -/
  nano : Nat
  second_lt : second < Timestamp.secondsPerDay
  nano_lt : nano < 2 * Timestamp.nanosPerSecond
  leap_last : Timestamp.nanosPerSecond ≤ nano → second % 60 = 59
deriving DecidableEq

namespace Timestamp

/-- The timestamp of the given parts, if they are in range. -/
def ofParts? (date : Date) (second nano : Nat) : Option Timestamp :=
  if h : second < secondsPerDay ∧ nano < 2 * nanosPerSecond ∧ (nanosPerSecond ≤ nano → second % 60 = 59) then
    some ⟨date, second, nano, h.1, h.2.1, h.2.2⟩
  else none

/-- The start of a day. -/
def midnight (date : Date) : Timestamp := ⟨date, 0, 0, by decide, by decide, by decide⟩

/-- The moment a number of seconds after the start of 1970 in universal time. -/
def ofUnixSeconds? (seconds : Nat) : Option Timestamp := do
  ofParts? (← Date.epoch.later? (seconds / secondsPerDay)) (seconds % secondsPerDay) 0

/-- The order of time. -/
def cmp (a b : Timestamp) : Ordering :=
  (a.date.cmp b.date).then ((compare a.second b.second).then (compare a.nano b.nano))

/--
The time on the clock, from hours, minutes and seconds. Second 60 is the leap second after second 59.
-/
def ofClock? (date : Date) (hour minute second nano : Nat) : Option Timestamp :=
  if hour < 24 ∧ minute < 60 ∧ second ≤ 60 ∧ nano < nanosPerSecond then
    if second == 60 then ofParts? date (hour * 3600 + minute * 60 + 59) (nanosPerSecond + nano)
    else ofParts? date (hour * 3600 + minute * 60 + second) nano
  else none

/--
The same moment on a clock that runs `minutes` behind. The shift is less than a day.
-/
def behind? (t : Timestamp) (minutes : Int) : Option Timestamp :=
  let second : Int := (t.second : Int) - minutes * 60
  if second < 0 then do
    let date ← t.date.prev?
    ofParts? date (second + secondsPerDay).toNat t.nano
  else if second ≥ secondsPerDay then do
    let date ← t.date.next?
    ofParts? date (second - secondsPerDay).toNat t.nano
  else ofParts? t.date second.toNat t.nano

/-- The shortest of no, three, six or nine digits that is exact. -/
def fractionChars (nano : Nat) : List Char :=
  let n := nano % nanosPerSecond
  if n == 0 then []
  else if n % 1000000 == 0 then '.' :: Date.padded 3 (n / 1000000)
  else if n % 1000 == 0 then '.' :: Date.padded 6 (n / 1000)
  else '.' :: Date.padded 9 n

/-- The date, `T`, and the time of day to the second. -/
def wholeChars (t : Timestamp) : List Char :=
  let leap := t.nano / nanosPerSecond
  t.date.chars ++ 'T' :: Date.padded 2 (t.second / 3600) ++
    ':' :: Date.padded 2 (t.second / 60 % 60) ++
    ':' :: Date.padded 2 (t.second % 60 + leap)

/-- The date, `T`, and the time of day. -/
def chars (t : Timestamp) : List Char := t.wholeChars ++ fractionChars t.nano

/-- The form of a moment in universal time, to the second. -/
def universalText (t : Timestamp) : String := String.ofList (t.wholeChars ++ ['Z'])

instance : ToString Timestamp := ⟨fun t => String.ofList t.chars⟩

end Timestamp

end RecordGate
