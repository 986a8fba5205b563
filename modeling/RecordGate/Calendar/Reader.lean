import RecordGate.Calendar.Timestamp
import RecordGate.Text.Blank

/-!
# Reading dates and timestamps

Each reader takes a list of characters and gives what it read together with the rest. Numbers may
have blanks before them in the lenient forms; the strict form with a zone has fixed widths.

Main definitions: `Date.ofChars?` and `Timestamp.ofChars?` for literals as they stand, `Date.parse?`
and `Timestamp.parse?` for cells, with blanks around them.
-/

namespace RecordGate.Calendar

open Text (isBlank)

/-- Reads between `least` and `most` ASCII digits, as many as there are. -/
def number? (least most : Nat) (cs : List Char) : Option (Nat × List Char) :=
  let digits := (cs.take most).takeWhile Char.isDigit
  if digits.length < least then none
  else some (digits.foldl (fun n c => n * 10 + (c.toNat - '0'.toNat)) 0, cs.drop digits.length)

/-- Reads one given character. -/
def mark? (c : Char) : List Char → Option (List Char)
  | d :: rest => if d == c then some rest else none
  | [] => none

/-- Reads a number of one or two digits, with blanks before it. -/
def shortNumber? (cs : List Char) : Option (Nat × List Char) :=
  number? 1 2 (cs.dropWhile isBlank)

/-- Reads a year: four digits at most, or a sign and any number of digits. -/
def year? (cs : List Char) : Option (Int × List Char) :=
  match cs.dropWhile isBlank with
  | '-' :: rest => (number? 1 rest.length rest).map fun (n, r) => (-(n : Int), r)
  | '+' :: rest => (number? 1 rest.length rest).map fun (n, r) => ((n : Int), r)
  | rest => (number? 1 4 rest).map fun (n, r) => ((n : Int), r)

/-- Reads year, month and day, with hyphens between. -/
def day? (cs : List Char) : Option (Date × List Char) := do
  let (year, cs) ← year? cs
  let cs ← mark? '-' cs
  let (month, cs) ← shortNumber? cs
  let cs ← mark? '-' cs
  let (day, cs) ← shortNumber? cs
  let date ← Date.ofParts? year month day
  return (date, cs)

/-- Reads the digits of a fraction of a second. Digits after the ninth have no effect. -/
def nanos? (cs : List Char) : Option (Nat × List Char) := do
  let (n, rest) ← number? 1 9 cs
  return (n * Nat.pow 10 (9 - (cs.length - rest.length)), rest.dropWhile Char.isDigit)

/-- Reads a fraction of a second, if a point begins one. -/
def fraction? : List Char → Option (Nat × List Char)
  | '.' :: rest => nanos? rest
  | cs => some (0, cs)

/-- Hours, minutes and seconds of a clock. -/
structure Clock where
  hour : Nat
  minute : Nat
  second : Nat

/-- Reads hours, minutes and seconds with colons between, each by the given reader. -/
def clock? (field? : List Char → Option (Nat × List Char)) (cs : List Char) : Option (Clock × List Char) := do
  let (hour, cs) ← field? cs
  let cs ← mark? ':' cs
  let (minute, cs) ← field? cs
  let cs ← mark? ':' cs
  let (second, cs) ← field? cs
  return (⟨hour, minute, second⟩, cs)

/-- Reads the minutes by which a zone runs ahead of universal time: `Z`, or a sign and `hh:mm`. -/
def zone? : List Char → Option (Int × List Char)
  | 'Z' :: rest => some (0, rest)
  | 'z' :: rest => some (0, rest)
  | sign :: rest => do
    let factor : Int ← if sign == '+' then some 1 else if sign == '-' || sign == '−' then some (-1) else none
    let (hours, rest) ← number? 2 2 rest
    let rest ← mark? ':' rest
    let (minutes, rest) ← number? 2 2 rest
    if hours < 24 ∧ minutes < 60 then some (factor * (hours * 60 + minutes), rest) else none
  | [] => none

/-- A reading that leaves nothing over. -/
def all? {α : Type} (reading : Option (α × List Char)) : Option α :=
  match reading with
  | some (a, []) => some a
  | _ => none

/-- A date and a time of day; `separator?` reads what stands between. -/
def dayAndClock? (separator? : List Char → Option (List Char)) (fractions : Bool) (cs : List Char) :
    Option Timestamp := do
  let (date, cs) ← day? cs
  let cs ← separator? cs
  let (clock, cs) ← clock? shortNumber? cs
  let nano ← all? (if fractions then fraction? cs else some (0, cs))
  Timestamp.ofClock? date clock.hour clock.minute clock.second nano

/-- A date and a time of day with fixed widths and a zone, moved to universal time. -/
def zoned? (cs : List Char) : Option Timestamp := do
  let (year, cs) ← number? 4 4 cs
  let cs ← mark? '-' cs
  let (month, cs) ← number? 2 2 cs
  let cs ← mark? '-' cs
  let (day, cs) ← number? 2 2 cs
  let date ← Date.ofParts? year month day
  match cs with
  | [] => none
  | c :: cs =>
    if !(c == 'T' || c == 't' || c == ' ') then none
    else do
      let (clock, cs) ← clock? (number? 2 2) cs
      let (nano, cs) ← fraction? cs
      let minutes ← all? (zone? cs)
      let clocked ← Timestamp.ofClock? date clock.hour clock.minute clock.second nano
      clocked.behind? minutes

end RecordGate.Calendar

namespace RecordGate

/-- Reads a date that fills the whole text but for blanks before its numbers. -/
def Date.ofChars? (cs : List Char) : Option Date := Calendar.all? (Calendar.day? cs)

/-- Reads a date, `T` and a time of day in whole seconds. -/
def Timestamp.ofChars? (cs : List Char) : Option Timestamp :=
  Calendar.dayAndClock? (Calendar.mark? 'T') false cs

/-- Reads a date with blanks around it. -/
def Date.parse? (text : String) : Option Date := Date.ofChars? (Text.trimChars text.toList)

/--
Reads a timestamp with blanks around it. It is a date and a time of day with `T` or any run of
blanks between, or the form with a zone, or a date alone, which stands for its midnight.
-/
def Timestamp.parse? (text : String) : Option Timestamp :=
  let cs := Text.trimChars text.toList
  (Calendar.dayAndClock? (Calendar.mark? 'T') true cs).or <|
    (Calendar.dayAndClock? (fun r => some (r.dropWhile Text.isBlank)) true cs).or <|
      (Calendar.zoned? cs).or ((Date.ofChars? cs).map Timestamp.midnight)

end RecordGate
