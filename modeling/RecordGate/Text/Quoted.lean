import RecordGate.Pattern.CharClass

/-!
# Quoted text in messages

A text inside a message stands in double quotes, on one line, with escapes for quotes, backslashes and
every character that does not print on its own.
-/

namespace RecordGate.Text

/-- Whether a character would not show, or would combine with the one before it. -/
def isHidden (c : Char) : Bool :=
  let n := c.toNat
  if n < 0x7F then n < 0x20
  else
    n == 0x7F ||
      !([Pattern.CharClass.assigned].all (·.has n)) ||
      ([.control, .format, .privateUse, .spaceSeparator, .lineSeparator, .paragraphSeparator,
        .nonspacingMark, .enclosingMark] : List Pattern.Category).any (Pattern.hasCategory · n)

/-- The characters that stand for one character between quotes. -/
def quotedChar (c : Char) : List Char :=
  if c == '"' then ['\\', '"']
  else if c == '\\' then ['\\', '\\']
  else if c == '\n' then ['\\', 'n']
  else if c == '\r' then ['\\', 'r']
  else if c == '\t' then ['\\', 't']
  else if c.toNat == 0 then ['\\', '0']
  else if isHidden c then '\\' :: 'u' :: '{' :: Nat.toDigits 16 c.toNat ++ ['}']
  else [c]

/-- A text in double quotes. -/
def quoted (s : String) : String := String.ofList ('"' :: s.toList.flatMap quotedChar ++ ['"'])

end RecordGate.Text
