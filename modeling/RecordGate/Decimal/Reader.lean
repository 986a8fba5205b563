import RecordGate.Decimal.Basic
import RecordGate.Text.Blank

/-!
# Reading decimals

The plain form is an optional sign and ASCII digits with at most one point; an underline may stand
anywhere after the first digit. Decimals beyond the 28th, or beyond what the mantissa holds, are
rounded off on the first of them, a half away from zero. The scientific form is a plain form, `e` or
`E`, and a whole exponent.

Main definitions: `Decimal.ofPlain?` for the plain form, `Decimal.parse?` for either, with blanks
around it.
-/

namespace RecordGate.Decimal

/-- The value of an ASCII digit. -/
def digit? (c : Char) : Option Nat :=
  if c.isDigit then some (c.toNat - '0'.toNat) else none

/--
Ends a reading at the first decimal that does not fit. What follows may only be further digits. A
mantissa that rounding makes too large gives up one more decimal.
-/
def roundOff (negative : Bool) (mantissa scale dropped : Nat) (rest : List Char) : Option Decimal :=
  if !rest.all (fun c => c.isDigit || c == '_') then none
  else if dropped < 5 then ofParts? (negative && mantissa != 0) mantissa scale
  else if mantissa + 1 ≤ maxMantissa then ofParts? negative (mantissa + 1) scale
  else if scale == 0 then none
  else ofParts? negative ((mantissa + 5) / 10) (scale - 1)

/--
Reads the digits after the sign. `point` tells whether the point has been read, `any` whether a digit
has.
-/
def readDigits (negative : Bool) : (mantissa scale : Nat) → (point any : Bool) → List Char → Option Decimal
  | mantissa, scale, _, any, [] =>
    if any then ofParts? (negative && mantissa != 0) mantissa scale else none
  | mantissa, scale, point, any, c :: rest =>
    match digit? c with
    | some d =>
      if point && scale == maxScale then roundOff negative mantissa scale d rest
      else if mantissa * 10 + d ≤ maxMantissa then
        readDigits negative (mantissa * 10 + d) (if point then scale + 1 else scale) point true rest
      else if point then roundOff negative mantissa scale d rest
      else none
    | none =>
      if c == '.' && !point then readDigits negative mantissa scale true any rest
      else if c == '_' && any then
        if point && scale == maxScale then roundOff negative mantissa scale 0 rest
        else readDigits negative mantissa scale point any rest
      else none

/-- Reads the plain form. A zero is never negative. -/
def ofPlain? : List Char → Option Decimal
  | '-' :: rest => readDigits true 0 0 false false rest
  | '+' :: rest => readDigits false 0 0 false false rest
  | cs => readDigits false 0 0 false false cs

/-- A whole number of at least one digit, with an optional plus sign. -/
def exponent? (cs : List Char) : Option Nat :=
  let digits := match cs with
    | '+' :: rest => rest
    | _ => cs
  if digits.isEmpty then none
  else digits.foldlM (fun n c => (digit? c).map (n * 10 + ·)) 0

/-- The same mantissa at another scale. -/
def withScale? (d : Decimal) (scale : Nat) : Option Decimal := ofParts? d.negative d.mantissa scale

/--
Moves the point to the right. A scale that is large enough shrinks; otherwise the number becomes
whole.
-/
def shiftRight? (d : Decimal) (n : Nat) : Option Decimal :=
  if n ≤ d.scale then d.withScale? (d.scale - n)
  else if n ≤ maxScale then
    (ofRatio? d.negative (d.mantissa * Nat.pow 10 n) (Nat.pow 10 d.scale) d.scale).map stripZeros
  else none

/--
Moves the point to the left. Decimals beyond the 28th are rounded off on the first of them, a half away
from zero.
-/
def shiftLeft? (d : Decimal) (n : Nat) : Option Decimal :=
  if n > maxScale then none
  else if d.scale + n ≤ maxScale then d.withScale? (d.scale + n)
  else
    let surplus := d.scale + n - maxScale
    ofParts? d.negative ((d.mantissa / Nat.pow 10 (surplus - 1) + 5) / 10) maxScale

/-- Reads the scientific form. -/
def ofScientific? (cs : List Char) : Option Decimal := do
  let isMark (c : Char) : Bool := c == 'e' || c == 'E'
  let base ← ofPlain? (cs.takeWhile (!isMark ·))
  match cs.dropWhile (!isMark ·) with
  | _ :: '-' :: digits =>
    let n ← exponent? digits
    base.shiftLeft? n
  | _ :: digits =>
    let n ← exponent? digits
    base.shiftRight? n
  | [] => none

/-- Reads a decimal in either form, with blanks around it. -/
def parse? (text : String) : Option Decimal :=
  let cs := Text.trimChars text.toList
  match ofPlain? cs with
  | some d => some d
  | none => ofScientific? cs

end RecordGate.Decimal
