/-!
# Decimals

A decimal is a sign, a mantissa below `2 ^ 96` and a scale of at most 28: it stands for the mantissa
divided by `10 ^ scale`. The scale is part of the value, so `1.5` and `1.50` are two decimals that
compare equal and print differently.

Arithmetic is exact when the result fits. Otherwise the result keeps the most decimals, at most 28,
whose mantissa still fits, and a half goes to the even neighbour (`Decimal.ofRatio?`). A result too
large for scale 0 is none.
-/

namespace RecordGate

/-- The largest mantissa. -/
def Decimal.maxMantissa : Nat := Nat.pow 2 96 - 1

/-- The largest scale. -/
def Decimal.maxScale : Nat := 28

/-- A signed mantissa divided by a power of ten. -/
structure Decimal where
  negative : Bool
  mantissa : Nat
  scale : Nat
  mantissa_le : mantissa ≤ Decimal.maxMantissa
  scale_le : scale ≤ Decimal.maxScale
deriving DecidableEq

namespace Decimal

/-- The decimal of the given parts, if they are in range. -/
def ofParts? (negative : Bool) (mantissa scale : Nat) : Option Decimal :=
  if h : mantissa ≤ maxMantissa ∧ scale ≤ maxScale then
    some ⟨negative, mantissa, scale, h.1, h.2⟩
  else none

/-- Zero, without decimals. -/
def zero : Decimal := ⟨false, 0, 0, by decide, by decide⟩

/-- One, without decimals. -/
def one : Decimal := ⟨false, 1, 0, by decide, by decide⟩

instance : Inhabited Decimal := ⟨zero⟩

def isZero (d : Decimal) : Bool := d.mantissa == 0

/-- The mantissa with its sign. -/
def signed (d : Decimal) : Int :=
  if d.negative then -(d.mantissa : Int) else d.mantissa

/-- The other sign, also for zero. -/
def neg (d : Decimal) : Decimal := { d with negative := !d.negative }

def abs (d : Decimal) : Decimal := { d with negative := false }

/-- Compares the numbers that two decimals stand for. -/
def cmp (a b : Decimal) : Ordering :=
  compare (a.signed * (Nat.pow 10 b.scale : Nat)) (b.signed * (Nat.pow 10 a.scale : Nat))

/-- Whether two decimals stand for the same number. -/
def sameNumber (a b : Decimal) : Bool := a.cmp b == .eq

def lt (a b : Decimal) : Bool := a.cmp b == .lt

def le (a b : Decimal) : Bool := a.cmp b != .gt

/-- Whether nothing stands after the point but zeros. -/
def isIntegral (d : Decimal) : Bool := d.mantissa % Nat.pow 10 d.scale == 0

/-- Cuts off everything after the point. -/
def trunc (d : Decimal) : Decimal :=
  let whole := d.mantissa / Nat.pow 10 d.scale
  ⟨d.negative && whole != 0, whole, 0, Nat.le_trans (Nat.div_le_self _ _) d.mantissa_le, by decide⟩

/-- Divides and rounds to the nearest number; a half goes to the even neighbour. -/
def divHalfEven (num den : Nat) : Nat :=
  let q := num / den
  let r := num % den
  if 2 * r < den then q
  else if 2 * r > den then q + 1
  else if q % 2 == 0 then q else q + 1

/--
The decimal nearest to `num / den` with as many decimals as fit, at most `scale`; none when even
the whole number is too large.
-/
def ofRatio? (negative : Bool) (num den : Nat) : (scale : Nat) → Option Decimal
  | 0 => ofParts? negative (divHalfEven num den) 0
  | scale + 1 =>
    match ofParts? negative (divHalfEven (num * Nat.pow 10 (scale + 1)) den) (scale + 1) with
    | some d => some d
    | none => ofRatio? negative num den scale

/-- The decimal nearest to `num / 10 ^ scale`. -/
def ofInt? (num : Int) (scale : Nat) : Option Decimal :=
  ofRatio? (num < 0) num.natAbs (Nat.pow 10 scale) (min scale maxScale)

/-- A whole number; the largest mantissa stands for anything beyond it. -/
def ofNat (n : Nat) : Decimal := ⟨false, min n maxMantissa, 0, Nat.min_le_right _ _, by decide⟩

def add? (a b : Decimal) : Option Decimal :=
  let scale := max a.scale b.scale
  ofInt? (a.signed * (Nat.pow 10 (scale - a.scale) : Nat) + b.signed * (Nat.pow 10 (scale - b.scale) : Nat)) scale

def sub? (a b : Decimal) : Option Decimal := a.add? b.neg

def mul? (a b : Decimal) : Option Decimal := ofInt? (a.signed * b.signed) (a.scale + b.scale)

/-- Division by a decimal other than zero. -/
def div? (a b : Decimal) : Option Decimal :=
  ofRatio? (a.negative != b.negative) (a.mantissa * Nat.pow 10 b.scale) (b.mantissa * Nat.pow 10 a.scale) maxScale

/-- Drops the zeros at the end of the decimals. -/
def stripZeros (d : Decimal) : Decimal :=
  let rec strip : (scale mantissa : Nat) → Nat × Nat
    | 0, m => (m, 0)
    | s + 1, m => if m % 10 == 0 then strip s (m / 10) else (m, s + 1)
  let (m, s) := strip d.scale d.mantissa
  (ofParts? (d.negative && m != 0) m s).getD d

/-- The digits of the mantissa, at least `width` of them. -/
def paddedDigits (mantissa width : Nat) : List Char :=
  let digits := Nat.toDigits 10 mantissa
  List.replicate (width - digits.length) '0' ++ digits

/-- The text of a decimal: a sign, the whole part, and a point before exactly `scale` decimals. -/
def chars (d : Decimal) : List Char :=
  let digits := paddedDigits d.mantissa (d.scale + 1)
  let whole := digits.take (digits.length - d.scale)
  let decimals := digits.drop (digits.length - d.scale)
  (if d.negative then ['-'] else []) ++ whole ++ (if d.scale == 0 then [] else '.' :: decimals)

instance : ToString Decimal := ⟨fun d => String.ofList d.chars⟩

theorem ofParts?_parts (d : Decimal) : ofParts? d.negative d.mantissa d.scale = some d := by
  simp [ofParts?, d.mantissa_le, d.scale_le]

end Decimal

end RecordGate
