/-!
# Binary floating-point numbers

Finite numbers of the 64-bit binary format, as a mantissa below `2 ^ 53` times a power of two, with
exact arithmetic behind every rounding.

Main definitions: `Binary64.ofRatio?` rounds a ratio to the nearest such number, `Binary64.shortest`
gives the fewest decimal digits that read back, and `Binary64.chars` writes them.
-/

namespace RecordGate

/--
The number `mantissa * 2 ^ exponent` with its sign. A mantissa below `2 ^ 52` has the least exponent,
-1074.
-/
structure Binary64 where
  negative : Bool
  mantissa : Nat
  exponent : Int
deriving DecidableEq

namespace Binary64

/-- The least exponent. -/
def minExponent : Int := -1074

/-- The largest exponent. -/
def maxExponent : Int := 971

def zero : Binary64 := ⟨false, 0, minExponent⟩

instance : Inhabited Binary64 := ⟨zero⟩

/-- `2 ^ n`, split into a numerator and a denominator. -/
def powerOfTwo (n : Int) : Nat × Nat :=
  if n < 0 then (1, Nat.pow 2 n.natAbs) else (Nat.pow 2 n.natAbs, 1)

/-- Divides and rounds to the nearest number; a half goes to the even neighbour. -/
def divNearest (num den : Nat) : Nat :=
  let q := num / den
  let r := num % den
  if 2 * r > den || (2 * r == den && q % 2 == 1) then q + 1 else q

/-- The number of bits of a natural number. -/
def bitLength (n : Nat) : Nat := if n == 0 then 0 else n.log2 + 1

/-- The number nearest to `num / den`; none when it is too large. A half goes to the even mantissa. -/
def ofRatio? (negative : Bool) (num den : Nat) : Option Binary64 :=
  if num == 0 then some ⟨negative, 0, minExponent⟩
  else
    -- The quotient has `bits` or `bits + 1` bits before the point.
    let bits : Int := (bitLength num : Int) - bitLength den
    let round (e : Int) : Nat :=
      let (up, down) := powerOfTwo (-e)
      divNearest (num * up) (den * down)
    let e := max minExponent (bits - 53)
    let m := round e
    let (m, e) := if m ≥ Nat.pow 2 53 then (round (e + 1), e + 1) else (m, e)
    -- Rounding up may reach the next power of two.
    let (m, e) := if m ≥ Nat.pow 2 53 then (m / 2, e + 1) else (m, e)
    if e > maxExponent then none else some ⟨negative, m, e⟩

/-- The absolute value as a ratio. -/
def ratio (x : Binary64) : Nat × Nat :=
  let (up, down) := powerOfTwo x.exponent
  (x.mantissa * up, down)

def neg (x : Binary64) : Binary64 := { x with negative := !x.negative }

/-- The product, rounded; none when it is too large. -/
def mul? (x y : Binary64) : Option Binary64 :=
  let (a, b) := x.ratio
  let (c, d) := y.ratio
  ofRatio? (x.negative != y.negative) (a * c) (b * d)

/-- The quotient by a number other than zero, rounded; none when it is too large. -/
def div? (x y : Binary64) : Option Binary64 :=
  let (a, b) := x.ratio
  let (c, d) := y.ratio
  ofRatio? (x.negative != y.negative) (a * d) (b * c)

/--
The ends of the interval of numbers that round to `x`, and whether they belong to it, over a common
denominator: lower end, `x` itself, upper end, denominator.
-/
def interval (x : Binary64) : Nat × Nat × Nat × Nat :=
  let (up, down) := powerOfTwo x.exponent
  -- Below a power of two the neighbours stand half as far apart.
  let gap := if x.mantissa == Nat.pow 2 52 && x.exponent > minExponent then 1 else 2
  ((4 * x.mantissa - gap) * up, 4 * x.mantissa * up, (4 * x.mantissa + 2) * up, 4 * down)

/-- The decimal exponent of the first digit of `num / den`, found from an estimate. -/
def leadingExponent (num den : Nat) : Int :=
  let below (e : Int) : Bool :=
    if e < 0 then num * Nat.pow 10 e.natAbs < den else num < den * Nat.pow 10 e.natAbs
  let estimate : Int := ((bitLength num : Int) - bitLength den) * 30103 / 100000
  if below estimate then (if below (estimate - 1) then estimate - 2 else estimate - 1)
  else if below (estimate + 1) then estimate
  else if below (estimate + 2) then estimate + 1
  else estimate + 2

/--
The fewest decimal digits that read back as a positive `x`, as a natural number and a power of ten. Of
the two neighbours of `x` on the grid of a given number of digits, the nearer wins.
-/
def shortest (x : Binary64) : Nat × Int :=
  let (low, mid, high, den) := x.interval
  let closed := x.mantissa % 2 == 0
  let first := leadingExponent mid den
  let rec search : (tries digits : Nat) → Nat × Int
    | 0, _ => (0, 0)
    | tries + 1, digits =>
      let e := first - (digits - 1 : Nat)
      -- `scale` turns `mid / den` into units of `10 ^ e`.
      let (up, down) := if e < 0 then (Nat.pow 10 e.natAbs, 1) else (1, Nat.pow 10 e.natAbs)
      let unit := den * down
      let q := mid * up / unit
      let inside (n : Nat) : Bool :=
        let n := n * unit
        if closed then low * up ≤ n && n ≤ high * up else low * up < n && n < high * up
      let lowGap := mid * up - q * unit
      let highGap := (q + 1) * unit - mid * up
      match inside q, inside (q + 1) with
      | true, true => (if lowGap < highGap || (lowGap == highGap && q % 2 == 0) then q else q + 1, e)
      | true, false => (q, e)
      | false, true => (q + 1, e)
      | false, false => search tries (digits + 1)
  search 18 1

/-- Drops zeros at the end, counting them into the exponent. -/
def dropZeros : (fuel n : Nat) → Int → Nat × Int
  | 0, n, e => (n, e)
  | fuel + 1, n, e => if n != 0 && n % 10 == 0 then dropZeros fuel (n / 10) (e + 1) else (n, e)

/--
The text of a number. Decimal exponents from -5 to 15 are written out, with at least one decimal; any
other has a point after the first digit and a signed exponent.
-/
def chars (x : Binary64) : List Char :=
  let sign := if x.negative then ['-'] else []
  if x.mantissa == 0 then sign ++ ['0', '.', '0']
  else
    let (n, e) := x.shortest
    let (n, e) := dropZeros 20 n e
    let digits := Nat.toDigits 10 n
    let point : Int := e + digits.length
    let body :=
      if -5 < point && point ≤ 16 then
        if point ≤ 0 then '0' :: '.' :: List.replicate point.natAbs '0' ++ digits
        else if digits.length ≤ point.natAbs then
          digits ++ List.replicate (point.natAbs - digits.length) '0' ++ ['.', '0']
        else digits.take point.natAbs ++ '.' :: digits.drop point.natAbs
      else
        let exponent := point - 1
        let mark := 'e' :: (if exponent < 0 then '-' else '+') :: Nat.toDigits 10 exponent.natAbs
        match digits with
        | [d] => d :: mark
        | d :: rest => d :: '.' :: rest ++ mark
        | [] => mark
    sign ++ body

instance : ToString Binary64 := ⟨fun x => String.ofList x.chars⟩

/-- The number written out in its fewest digits, without an exponent and without a needless point. -/
def positionalChars (x : Binary64) : List Char :=
  let sign := if x.negative then ['-'] else []
  if x.mantissa == 0 then sign ++ ['0']
  else
    let (n, e) := x.shortest
    let (n, e) := dropZeros 20 n e
    if e ≥ 0 then sign ++ Nat.toDigits 10 (n * Nat.pow 10 e.natAbs)
    else
      let places := e.natAbs
      let digits := Nat.toDigits 10 n
      let digits := List.replicate (places + 1 - digits.length) '0' ++ digits
      sign ++ digits.take (digits.length - places) ++ '.' :: digits.drop (digits.length - places)

/-- The absolute value with a fixed number of decimals; a half goes to the even neighbour. -/
def fixedChars (x : Binary64) (places : Nat) : List Char :=
  let (num, den) := x.ratio
  let digits := Nat.toDigits 10 (divNearest (num * Nat.pow 10 places) den)
  let digits := List.replicate (places + 1 - digits.length) '0' ++ digits
  digits.take (digits.length - places) ++ '.' :: digits.drop (digits.length - places)

end Binary64

end RecordGate
