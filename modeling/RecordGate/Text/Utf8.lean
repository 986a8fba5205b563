/-!
# UTF-8

Texts as bytes. Files arrive as byte strings, and where one is not UTF-8 the reader names the length of
its longest valid beginning; so decoding returns that length when it fails.

Main definitions: `Bytes`, `encode`, `decode`.
-/

namespace RecordGate

/-- The content of a file. -/
abbrev Bytes := List UInt8

namespace Text

/-- The bytes of a text. -/
def encode (s : String) : Bytes := s.toUTF8.data.toList

/-- The six bits that a continuation byte carries, if it lies in the given range. -/
def tailWithin? (low high b : UInt8) : Option Nat :=
  if low ≤ b && b ≤ high then some (b.toNat - 0x80) else none

/-- The six bits that a continuation byte carries, if it is one. -/
def tail? (b : UInt8) : Option Nat := tailWithin? 0x80 0xBF b

/--
The first character and the number of its bytes. Overlong forms, surrogates and code points beyond
the last are refused, so every character has one form.
-/
def decodeChar? : Bytes → Option (Char × Nat)
  | [] => none
  | b0 :: rest =>
    let n := b0.toNat
    if n < 0x80 then some (Char.ofNat n, 1)
    else if n < 0xC2 then none
    else if n < 0xE0 then
      match rest with
      | b1 :: _ => do
        let x ← tail? b1
        some (Char.ofNat ((n - 0xC0) * 0x40 + x), 2)
      | _ => none
    else if n < 0xF0 then
      match rest with
      | b1 :: b2 :: _ => do
        let x ← tailWithin? (if n == 0xE0 then 0xA0 else 0x80) (if n == 0xED then 0x9F else 0xBF) b1
        let y ← tail? b2
        some (Char.ofNat ((n - 0xE0) * 0x1000 + x * 0x40 + y), 3)
      | _ => none
    else if n < 0xF5 then
      match rest with
      | b1 :: b2 :: b3 :: _ => do
        let x ← tailWithin? (if n == 0xF0 then 0x90 else 0x80) (if n == 0xF4 then 0x8F else 0xBF) b1
        let y ← tail? b2
        let z ← tail? b3
        some (Char.ofNat ((n - 0xF0) * 0x40000 + x * 0x1000 + y * 0x40 + z), 4)
      | _ => none
    else none

/--
Decodes from a position on. `skip` bytes belong to a character already taken; `valid` bytes have been
decoded so far. The characters come in reverse.
-/
def decodeFrom : (skip valid : Nat) → List Char → Bytes → Except Nat (List Char)
  | _, _, done, [] => .ok done
  | skip + 1, valid, done, _ :: rest => decodeFrom skip valid done rest
  | 0, valid, done, b :: rest =>
    match decodeChar? (b :: rest) with
    | some (c, size) => decodeFrom (size - 1) (valid + size) (c :: done) rest
    | none => .error valid

/-- Decodes a byte string, or tells how many of its first bytes are valid. -/
def decode (bytes : Bytes) : Except Nat String :=
  (decodeFrom 0 0 [] bytes).map fun cs => String.ofList cs.reverse

end Text

end RecordGate
