import RecordGate.Json.Reader

/-!
# Skipping a value

A value that nobody asks for is gone over without being built: containers may nest without bound, a
number may be out of range, and an escape may name no code point. The containers that are still open
are kept in a list, the innermost first.

Main definitions: `Json.skipValue`.
-/

namespace RecordGate.Json

/-- A kind of container. -/
inductive Container where
  | array
  | object
deriving DecidableEq

namespace Container

/-- The container that a bracket or a brace opens. -/
def ofOpening? (b : UInt8) : Option Container :=
  if b == 0x5B then some .array else if b == 0x7B then some .object else none

def closing : Container → UInt8
  | .array => 0x5D
  | .object => 0x7D

/-- The text ends before the container does. -/
def eof : Container → ParseError
  | .array => .eofList
  | .object => .eofObject

/-- An item is followed by neither a comma nor the end of the container. -/
def expectedEnd : Container → ParseError
  | .array => .expectedListEnd
  | .object => .expectedObjectEnd

end Container

/-- A string after its opening quote. -/
def skipString : (fuel : Nat) → Bytes → Except ParseError Bytes
  | 0, _ => .error .eofString
  | _, [] => .error .eofString
  | fuel + 1, b :: rest =>
    if b == 0x22 then .ok rest
    else if b == 0x5C then
      match rest with
      | 0x75 :: rest =>
        match hexEscape rest with
        | .ok (_, rest) => skipString fuel rest
        | .error e => .error e
      | _ =>
        match escape rest with
        | .ok (_, rest) => skipString fuel rest
        | .error e => .error e
    else if b < 0x20 then .error .controlCharacter
    else skipString fuel rest

/-- At least one digit. -/
def skipDigits : Bytes → Except ParseError Bytes
  | [] => .error .invalidNumber
  | b :: rest => if isDigitByte b then .ok (rest.dropWhile isDigitByte) else .error .invalidNumber

/-- The exponent of a number, if it has one. -/
def skipExponent : Bytes → Except ParseError Bytes
  | [] => .ok []
  | b :: rest =>
    if b == 0x65 || b == 0x45 then
      match rest with
      | 0x2B :: digits => skipDigits digits
      | 0x2D :: digits => skipDigits digits
      | _ => skipDigits rest
    else .ok (b :: rest)

/-- A number after its sign. A zero at the front stands alone. -/
def skipNumber (input : Bytes) : Except ParseError Bytes := do
  let rest ← match input with
    | 0x30 :: rest => if (rest.head?.map isDigitByte).getD false then .error .invalidNumber else .ok rest
    | _ => skipDigits input
  match rest with
  | 0x2E :: rest => do skipExponent (← skipDigits rest)
  | _ => skipExponent rest

/-- A value other than a container. -/
def skipScalar (fuel : Nat) : Bytes → Except ParseError Bytes
  | [] => .error .eofValue
  | b :: rest =>
    if b == 0x6E then (ident nullTail .null rest).map (·.2)
    else if b == 0x74 then (ident trueTail .null rest).map (·.2)
    else if b == 0x66 then (ident falseTail .null rest).map (·.2)
    else if b == 0x22 then skipString fuel rest
    else if b == 0x2D then skipNumber rest
    else if isDigitByte b then skipNumber (b :: rest)
    else .error .expectedValue

/-- The name of an item and the colon after it, where items have names. -/
def skipName (fuel : Nat) (input : Bytes) : Container → Except ParseError Bytes
  | .array => .ok input
  | .object =>
    match skipGaps input with
    | [] => .error .eofObject
    | b :: rest => if b == 0x22 then skipString fuel rest >>= colon else .error .keyNotString

/--
Closes the containers that end here and goes over the comma to the next item. `first` tells that the
innermost container has just been opened. With no container left, the value is complete.
-/
def skipClosing : (first : Bool) → List Container → Bytes → Except ParseError (List Container × Bytes)
  | _, [], input => .ok ([], input)
  | first, container :: outer, input =>
    match skipGaps input with
    | [] => .error container.eof
    | b :: rest =>
      if b == container.closing then skipClosing false outer rest
      else if first then .ok (container :: outer, b :: rest)
      else if b == 0x2C then .ok (container :: outer, rest)
      else .error container.expectedEnd

/-- A value within the open containers, and what follows it until all of them are closed. -/
def skipWithin : (fuel : Nat) → List Container → Bytes → Except ParseError Bytes
  | 0, _, _ => .error .eofValue
  | fuel + 1, outer, input => do
    let input := skipGaps input
    let (outer, rest) ← match input.head? >>= Container.ofOpening? with
      | some container => skipClosing true (container :: outer) (input.drop 1)
      | none => skipScalar fuel input >>= skipClosing false outer
    match outer with
    | [] => .ok rest
    | container :: _ => skipName fuel rest container >>= skipWithin fuel outer

/-- What follows a value with gaps before it. -/
def skipValue (fuel : Nat) (input : Bytes) : Except ParseError Bytes := skipWithin fuel [] input

end RecordGate.Json
