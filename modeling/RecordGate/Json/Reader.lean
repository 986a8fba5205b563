import RecordGate.Json.Basic
import RecordGate.Text.Utf8

/-!
# Reading JSON

A reader of one JSON value from bytes. Containers may nest 127 deep. A whole number that fits 64 bits
stays exact; any other number becomes the nearest binary number to its first digits, scaled by one
power of ten.

Main definitions: `Json.parse` for a text that is one value, `Json.ParseError.message` for the wording
of each refusal.
-/

namespace RecordGate.Json

/-- Why a text is not JSON. -/
inductive ParseError where
  | eofValue
  | eofString
  | eofList
  | eofObject
  | expectedValue
  | expectedIdent
  | expectedColon
  | expectedListEnd
  | expectedObjectEnd
  | keyNotString
  | trailingComma
  | trailingCharacters
  | invalidNumber
  | numberOutOfRange
  | invalidEscape
  | controlCharacter
  | unpairedEscape
  | loneSurrogate
  | invalidUnicode
  | tooDeep
deriving DecidableEq

/-- The text of a refusal. -/
def ParseError.message : ParseError → String
  | .eofValue => "EOF while parsing a value"
  | .eofString => "EOF while parsing a string"
  | .eofList => "EOF while parsing a list"
  | .eofObject => "EOF while parsing an object"
  | .expectedValue => "expected value"
  | .expectedIdent => "expected ident"
  | .expectedColon => "expected `:`"
  | .expectedListEnd => "expected `,` or `]`"
  | .expectedObjectEnd => "expected `,` or `\x7d`"
  | .keyNotString => "key must be a string"
  | .trailingComma => "trailing comma"
  | .trailingCharacters => "trailing characters"
  | .invalidNumber => "invalid number"
  | .numberOutOfRange => "number out of range"
  | .invalidEscape => "invalid escape"
  | .controlCharacter => "control character (\\u0000-\\u001F) found while parsing a string"
  | .unpairedEscape => "unexpected end of hex escape"
  | .loneSurrogate => "lone leading surrogate in hex escape"
  | .invalidUnicode => "invalid unicode code point"
  | .tooDeep => "recursion limit exceeded"

/-- Space, tab, line feed and carriage return. -/
def isGapByte (b : UInt8) : Bool := b == 0x20 || b == 0x09 || b == 0x0A || b == 0x0D

def skipGaps (input : Bytes) : Bytes := input.dropWhile isGapByte

def isDigitByte (b : UInt8) : Bool := 0x30 ≤ b && b ≤ 0x39

/-- The value of a hexadecimal digit. -/
def hexDigit? (b : UInt8) : Option Nat :=
  if isDigitByte b then some (b.toNat - 0x30)
  else if 0x61 ≤ b && b ≤ 0x66 then some (b.toNat - 0x57)
  else if 0x41 ≤ b && b ≤ 0x46 then some (b.toNat - 0x37)
  else none

/-- Four hexadecimal digits. -/
def hexEscape : Bytes → Except ParseError (Nat × Bytes)
  | a :: b :: c :: d :: rest =>
    match hexDigit? a, hexDigit? b, hexDigit? c, hexDigit? d with
    | some a, some b, some c, some d => .ok (a * 0x1000 + b * 0x100 + c * 0x10 + d, rest)
    | _, _, _, _ => .error .invalidEscape
  | _ => .error .eofString

/-- The UTF-8 bytes of a code point. -/
def codePointBytes (n : Nat) : Bytes := Text.encode (String.singleton (Char.ofNat n))

/-- What follows a backslash and `u`. A leading surrogate needs a trailing one right after it. -/
def unicodeEscape (input : Bytes) : Except ParseError (Bytes × Bytes) := do
  let (n, rest) ← hexEscape input
  if 0xDC00 ≤ n && n ≤ 0xDFFF then .error .loneSurrogate
  else if n < 0xD800 || n > 0xDBFF then .ok (codePointBytes n, rest)
  else
    match rest with
    | [] => .error .eofString
    | 0x5C :: [] => .error .eofString
    | 0x5C :: 0x75 :: rest =>
      let (m, rest) ← hexEscape rest
      if m < 0xDC00 || m > 0xDFFF then .error .loneSurrogate
      else .ok (codePointBytes ((n - 0xD800) * 0x400 + (m - 0xDC00) + 0x10000), rest)
    | _ => .error .unpairedEscape

/-- What follows a backslash. -/
def escape : Bytes → Except ParseError (Bytes × Bytes)
  | [] => .error .eofString
  | b :: rest =>
    if b == 0x22 || b == 0x5C || b == 0x2F then .ok ([b], rest)
    else if b == 0x62 then .ok ([0x08], rest)
    else if b == 0x66 then .ok ([0x0C], rest)
    else if b == 0x6E then .ok ([0x0A], rest)
    else if b == 0x72 then .ok ([0x0D], rest)
    else if b == 0x74 then .ok ([0x09], rest)
    else if b == 0x75 then unicodeEscape rest
    else .error .invalidEscape

/-- The bytes of a string after its opening quote; those read so far come in reverse. -/
def stringBytes : (fuel : Nat) → (done : Bytes) → Bytes → Except ParseError (Bytes × Bytes)
  | 0, _, _ => .error .eofString
  | _, _, [] => .error .eofString
  | fuel + 1, done, b :: rest =>
    if b == 0x22 then .ok (done.reverse, rest)
    else if b == 0x5C then
      match escape rest with
      | .ok (bytes, rest) => stringBytes fuel (bytes.reverse ++ done) rest
      | .error e => .error e
    else if b < 0x20 then .error .controlCharacter
    else stringBytes fuel (b :: done) rest

/-- A string after its opening quote. -/
def string (fuel : Nat) (input : Bytes) : Except ParseError (String × Bytes) := do
  let (bytes, rest) ← stringBytes fuel [] input
  match Text.decode bytes with
  | .ok s => .ok (s, rest)
  | .error _ => .error .invalidUnicode

/-! ## Numbers -/

/-- The largest significand: further digits only count into the exponent. -/
def maxSignificand : Nat := Nat.pow 2 64 - 1

/-- The nearest binary number to a power of ten up to 308. -/
def powerOfTen (n : Nat) : Binary64 := (Binary64.ofRatio? false (Nat.pow 10 n) 1).getD .zero

/--
Scales a significand by a power of ten with one rounding. Exponents below -308 take a first step of
308, so the smallest numbers are rounded twice.
-/
def scaled (positive : Bool) (significand : Nat) (exponent : Int) : Except ParseError Number :=
  let signed (x : Binary64) : Except ParseError Number := .ok (.float (if positive then x else x.neg))
  let x := (Binary64.ofRatio? false significand 1).getD .zero
  let divide (x : Binary64) (n : Nat) : Binary64 := (x.div? (powerOfTen n)).getD .zero
  if exponent > 308 then (if significand == 0 then signed .zero else .error .numberOutOfRange)
  else if exponent ≥ 0 then
    match x.mul? (powerOfTen exponent.natAbs) with
    | some x => signed x
    | none => .error .numberOutOfRange
  else if exponent ≥ -308 then signed (divide x exponent.natAbs)
  else
    let x := divide x 308
    if exponent ≥ -616 then signed (divide x (exponent.natAbs - 308))
    else
      -- After two steps nothing is left of 64 bits.
      signed .zero

/-- The value of a digit byte. -/
def digitValue (b : UInt8) : Nat := b.toNat - 0x30

/-- Whether one more digit overflows the significand. -/
def overflows (significand digit : Nat) : Bool := significand * 10 + digit > maxSignificand

/-- The digits of an exponent after its sign; too large an exponent is read to its end. -/
def exponentDigits (positive positiveExponent : Bool) (significand : Nat) (start : Int) :
    (exponent : Nat) → Bytes → Except ParseError (Number × Bytes)
  | exponent, [] => do
    let n ← scaled positive significand (if positiveExponent then start + exponent else start - exponent)
    .ok (n, [])
  | exponent, b :: rest =>
    if isDigitByte b then
      if exponent * 10 + digitValue b > 2147483647 then
        if significand != 0 && positiveExponent then .error .numberOutOfRange
        else .ok (.float (if positive then .zero else Binary64.zero.neg), rest.dropWhile isDigitByte)
      else exponentDigits positive positiveExponent significand start (exponent * 10 + digitValue b) rest
    else do
      let n ← scaled positive significand (if positiveExponent then start + exponent else start - exponent)
      .ok (n, b :: rest)

/-- An exponent after its mark. -/
def exponentPart (positive : Bool) (significand : Nat) (start : Int) (input : Bytes) :
    Except ParseError (Number × Bytes) :=
  let (positiveExponent, digits) := match input with
    | 0x2B :: rest => (true, rest)
    | 0x2D :: rest => (false, rest)
    | _ => (true, input)
  match digits with
  | [] => .error .eofValue
  | b :: rest =>
    if isDigitByte b then exponentDigits positive positiveExponent significand start (digitValue b) rest
    else .error .invalidNumber

/-- The end of a number with decimals: an exponent, or nothing. -/
def afterDecimals (positive : Bool) (significand : Nat) (exponent : Int) (input : Bytes) :
    Except ParseError (Number × Bytes) :=
  match input with
  | b :: rest =>
    if b == 0x65 || b == 0x45 then exponentPart positive significand exponent rest
    else (scaled positive significand exponent).map (·, b :: rest)
  | [] => (scaled positive significand exponent).map (·, [])

/-- The decimals after a point. `any` tells whether one has been read. -/
def decimals (positive : Bool) :
    (significand : Nat) → (exponent : Int) → (any : Bool) → Bytes → Except ParseError (Number × Bytes)
  | significand, exponent, any, [] =>
    if any then afterDecimals positive significand exponent [] else .error .eofValue
  | significand, exponent, any, b :: rest =>
    if isDigitByte b then
      if overflows significand (digitValue b) then
        afterDecimals positive significand exponent (rest.dropWhile isDigitByte)
      else decimals positive (significand * 10 + digitValue b) (exponent - 1) true rest
    else if any then afterDecimals positive significand exponent (b :: rest)
    else .error .invalidNumber

/-- A number whose whole digits have been read into the significand. -/
def afterWhole (positive : Bool) (significand : Nat) (input : Bytes) : Except ParseError (Number × Bytes) :=
  match input with
  | 0x2E :: rest => decimals positive significand 0 false rest
  | 0x65 :: rest => exponentPart positive significand 0 rest
  | 0x45 :: rest => exponentPart positive significand 0 rest
  | _ =>
    if positive then .ok (.whole significand, input)
    else if significand == 0 || significand > Nat.pow 2 63 then
      .ok (.float ((Binary64.ofRatio? true significand 1).getD .zero), input)
    else .ok (.whole (-(significand : Int)), input)

/-- The whole digits that no longer fit the significand. -/
def longWhole (positive : Bool) (significand : Nat) :
    (exponent : Nat) → Bytes → Except ParseError (Number × Bytes)
  | exponent, [] => (scaled positive significand exponent).map (·, [])
  | exponent, b :: rest =>
    if isDigitByte b then longWhole positive significand (exponent + 1) rest
    else if b == 0x2E then decimals positive significand exponent false rest
    else if b == 0x65 || b == 0x45 then exponentPart positive significand exponent rest
    else (scaled positive significand exponent).map (·, b :: rest)

/-- The whole digits after the first. -/
def wholeDigits (positive : Bool) : (significand : Nat) → Bytes → Except ParseError (Number × Bytes)
  | significand, [] => afterWhole positive significand []
  | significand, b :: rest =>
    if isDigitByte b then
      if overflows significand (digitValue b) then longWhole positive significand 1 rest
      else wholeDigits positive (significand * 10 + digitValue b) rest
    else afterWhole positive significand (b :: rest)

/-- A number after its sign. A zero at the front stands alone. -/
def number (positive : Bool) : Bytes → Except ParseError (Number × Bytes)
  | [] => .error .eofValue
  | b :: rest =>
    if b == 0x30 then
      match rest with
      | c :: _ => if isDigitByte c then .error .invalidNumber else afterWhole positive 0 rest
      | [] => afterWhole positive 0 []
    else if isDigitByte b then wholeDigits positive (digitValue b) rest
    else .error .invalidNumber

/-! ## Values -/

/-- The letters of a constant after its first. -/
def ident : (letters : Bytes) → (value : Json) → Bytes → Except ParseError (Json × Bytes)
  | [], value, input => .ok (value, input)
  | _ :: _, _, [] => .error .eofValue
  | letter :: letters, value, b :: rest =>
    if b == letter then ident letters value rest else .error .expectedIdent

/-- How a container goes on: it is closed, or something follows; and what is left of the input. -/
inductive Next (α : Type) where
  | closed (rest : Bytes)
  | found (a : α) (rest : Bytes)

/-- Goes to the next item of an array, over the comma before it. -/
def nextItem (first : Bool) (input : Bytes) : Except ParseError (Next Unit) :=
  match skipGaps input with
  | [] => .error .eofList
  | b :: rest =>
    if b == 0x5D then .ok (.closed rest)
    else if first then .ok (.found () (b :: rest))
    else if b == 0x2C then
      match skipGaps rest with
      | [] => .error .eofValue
      | c :: rest => if c == 0x5D then .error .trailingComma else .ok (.found () (c :: rest))
    else .error .expectedListEnd

/-- The items of an array after its opening bracket, each read by `item`; those so far in reverse. -/
def items (item : Nat → Bytes → Except ParseError (Json × Bytes)) :
    (fuel : Nat) → (done : List Json) → Bytes → Except ParseError (Json × Bytes)
  | 0, _, _ => .error .eofList
  | fuel + 1, done, input =>
    match nextItem done.isEmpty input with
    | .error e => .error e
    | .ok (.closed rest) => .ok (.arr done.reverse, rest)
    | .ok (.found _ input) =>
      match item fuel input with
      | .error e => .error e
      | .ok (value, rest) => items item fuel (value :: done) rest

/-- Reads the next name of an object, after the comma before it. -/
def nextName (first : Bool) (fuel : Nat) (input : Bytes) : Except ParseError (Next String) :=
  match skipGaps input with
  | [] => .error .eofObject
  | b :: rest =>
    if b == 0x7D then .ok (.closed rest)
    else
      let name (rest : Bytes) : Except ParseError (Next String) :=
        (string fuel rest).map fun (s, rest) => .found s rest
      if first then (if b == 0x22 then name rest else .error .keyNotString)
      else if b == 0x2C then
        match skipGaps rest with
        | [] => .error .eofValue
        | c :: rest =>
          if c == 0x22 then name rest
          else if c == 0x7D then .error .trailingComma
          else .error .keyNotString
      else .error .expectedObjectEnd

/-- The colon after a name. -/
def colon (input : Bytes) : Except ParseError Bytes :=
  match skipGaps input with
  | [] => .error .eofObject
  | b :: rest => if b == 0x3A then .ok rest else .error .expectedColon

/-- The members of an object after its opening brace; those so far in reverse. -/
def members (item : Nat → Bytes → Except ParseError (Json × Bytes)) :
    (fuel : Nat) → (done : List (String × Json)) → Bytes → Except ParseError (Json × Bytes)
  | 0, _, _ => .error .eofObject
  | fuel + 1, done, input =>
    match nextName done.isEmpty fuel input with
    | .error e => .error e
    | .ok (.closed rest) => .ok (ofMembers done.reverse, rest)
    | .ok (.found name rest) =>
      match colon rest with
      | .error e => .error e
      | .ok rest =>
        match item fuel rest with
        | .error e => .error e
        | .ok (value, rest) => members item fuel ((name, value) :: done) rest

/-- The letters `ull`, `rue` and `alse`. -/
def nullTail : Bytes := [0x75, 0x6C, 0x6C]

def trueTail : Bytes := [0x72, 0x75, 0x65]

def falseTail : Bytes := [0x61, 0x6C, 0x73, 0x65]

/-- A value with gaps before it, in which containers nest at most `depth` deep. -/
def value : (depth fuel : Nat) → Bytes → Except ParseError (Json × Bytes)
  | depth, fuel, input =>
    match skipGaps input with
    | [] => .error .eofValue
    | b :: rest =>
      if b == 0x6E then ident nullTail .null rest
      else if b == 0x74 then ident trueTail (.bool true) rest
      else if b == 0x66 then ident falseTail (.bool false) rest
      else if b == 0x22 then (string fuel rest).map fun (s, rest) => (.str s, rest)
      else if b == 0x2D then (number false rest).map fun (n, rest) => (.num n, rest)
      else if isDigitByte b then (number true (b :: rest)).map fun (n, rest) => (.num n, rest)
      else
        match depth with
        | 0 => if b == 0x5B || b == 0x7B then .error .tooDeep else .error .expectedValue
        | depth + 1 =>
          if b == 0x5B then items (value depth) fuel [] rest
          else if b == 0x7B then members (value depth) fuel [] rest
          else .error .expectedValue

/-- The deepest nesting of containers. -/
def maxDepth : Nat := 127

/-- Reads a text that is one value, with gaps around it. -/
def parse (input : Bytes) : Except ParseError Json := do
  let (value, rest) ← value maxDepth (input.length + 1) input
  if (skipGaps rest).isEmpty then .ok value else .error .trailingCharacters

/-- Reads a text that is one value. -/
def ofString (text : String) : Except ParseError Json := parse (Text.encode text)

end RecordGate.Json
