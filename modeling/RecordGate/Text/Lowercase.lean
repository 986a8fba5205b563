import RecordGate.Text.CaseData

/-!
# Lower-casing

Unicode lower-casing of a text. Each character is mapped on its own, with two exceptions that the
standard names: capital I with a dot becomes a small i and a combining dot, and a capital sigma
becomes the final form where it ends a word.

Main definitions: `lowercase` for whole texts, `lowercaseAscii` and `uppercaseAscii` for texts whose
case matters only in the ASCII letters.
-/

namespace RecordGate.Text

/-- The lower-case form of one character, out of context. -/
def lowerChar (c : Char) : List Char :=
  if c.toNat < 0x80 then [c.toLower]
  else if c.toNat == 0x130 then ['i', Char.ofNat 0x307]
  else [Char.ofNat (applyRuns lowerRuns c.toNat)]

/-- Whether the first character that does not ignore case is a cased one. -/
def meetsCased (cs : List Char) : Bool :=
  match cs.dropWhile fun c => inRanges caseIgnorableRanges c.toNat with
  | c :: _ => inRanges casedRanges c.toNat
  | [] => false

/-- Lower-cases the second list; the first holds the characters before it, nearest first. -/
def lowercaseFrom : List Char → List Char → List Char
  | _, [] => []
  | before, c :: rest =>
    let mapped :=
      if c == 'Σ' then [if meetsCased before && !meetsCased rest then 'ς' else 'σ'] else lowerChar c
    mapped ++ lowercaseFrom (c :: before) rest

/-- Unicode lower-casing. -/
def lowercase (s : String) : String :=
  String.ofList (lowercaseFrom [] s.toList)

/-- Lower-cases the ASCII letters and keeps every other character. -/
def lowercaseAscii (s : String) : String :=
  String.ofList (s.toList.map Char.toLower)

/-- Upper-cases the ASCII letters and keeps every other character. -/
def uppercaseAscii (s : String) : String :=
  String.ofList (s.toList.map Char.toUpper)

end RecordGate.Text
