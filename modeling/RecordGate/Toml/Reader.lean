import RecordGate.Calendar.Reader
import RecordGate.Toml.Basic

/-!
# Reading TOML

A reader of TOML documents. Each part takes a list of characters and gives what it read together with
the rest.

Main definitions: `Toml.parse?`.
-/

namespace RecordGate.Toml

/-- Space and tab. -/
def isGap (c : Char) : Bool := c == ' ' || c == '\t'

/-- A character that may stand in a comment or in a string: no control character but the tab. -/
def isPlain (c : Char) : Bool := c == '\t' || (c.toNat ≥ 0x20 && c.toNat != 0x7F)

def skipGaps (cs : List Char) : List Char := cs.dropWhile isGap

/-- Skips gaps, line ends and comments. The flag tells that a comment has begun. -/
def skipLines? : (inComment : Bool) → List Char → Option (List Char)
  | _, [] => some []
  | _, '\n' :: rest => skipLines? false rest
  | _, '\r' :: '\n' :: rest => skipLines? false rest
  | true, c :: rest => if isPlain c then skipLines? true rest else none
  | false, '#' :: rest => skipLines? true rest
  | false, c :: rest => if isGap c then skipLines? false rest else some (c :: rest)

/-- The end of a line, with the empty lines after it. -/
def endOfLine? (cs : List Char) : Option (List Char) :=
  match skipGaps cs with
  | [] => some []
  | '\n' :: rest => skipLines? false rest
  | '\r' :: '\n' :: rest => skipLines? false rest
  | '#' :: rest => skipLines? true rest
  | _ => none

/-! ## Strings -/

/-- The character of a code point in hexadecimal digits. -/
def codePoint? (digits : List Char) : Option Char := do
  let n ← digits.foldlM (fun (n : Nat) c =>
    if c.isDigit then some (n * 16 + (c.toNat - '0'.toNat))
    else if 'a' ≤ c && c ≤ 'f' then some (n * 16 + (c.toNat - 'a'.toNat + 10))
    else if 'A' ≤ c && c ≤ 'F' then some (n * 16 + (c.toNat - 'A'.toNat + 10))
    else none) 0
  if h : n.isValidChar then some (Char.ofNatAux n h) else none

/-- The character that a letter after a backslash stands for. -/
def escaped? (c : Char) : Option Char :=
  if c == 'b' then some '\x08'
  else if c == 't' then some '\t'
  else if c == 'n' then some '\n'
  else if c == 'f' then some '\x0c'
  else if c == 'r' then some '\r'
  else if c == '"' || c == '\\' then some c
  else none

/-- A string in double quotes, after the first; the characters so far in reverse. -/
def basicString? : (done : List Char) → List Char → Option (String × List Char)
  | done, '"' :: rest => some (String.ofList done.reverse, rest)
  | done, '\\' :: 'u' :: a :: b :: c :: d :: rest => do basicString? ((← codePoint? [a, b, c, d]) :: done) rest
  | done, '\\' :: 'U' :: a :: b :: c :: d :: e :: f :: g :: h :: rest => do
    basicString? ((← codePoint? [a, b, c, d, e, f, g, h]) :: done) rest
  | done, '\\' :: c :: rest => do basicString? ((← escaped? c) :: done) rest
  | done, c :: rest => if isPlain c then basicString? (c :: done) rest else none
  | _, [] => none

/-- A string in single quotes, after the first. -/
def literalString? : (done : List Char) → List Char → Option (String × List Char)
  | done, '\'' :: rest => some (String.ofList done.reverse, rest)
  | done, c :: rest => if isPlain c then literalString? (c :: done) rest else none
  | _, [] => none

/--
The end of a string of several lines, where three quotes or more stand. Up to two quotes before the
last three belong to the string.
-/
def closing? (quote : Char) (done cs : List Char) : Option (String × List Char) :=
  let run := (cs.take 5).takeWhile (· == quote)
  if run.length < 3 then none
  else some (String.ofList (done.reverse ++ run.drop 3), cs.drop run.length)

/-- Where the reader of a string of several lines stands. -/
inductive Within where
  | text
  /-- After a backslash at the end of a line, before the line end. -/
  | lineEnd
  /-- After that line end: blanks are skipped. -/
  | margin
deriving DecidableEq

/-- A string of several lines in double quotes. -/
def basicLines? : Within → (done : List Char) → List Char → Option (String × List Char)
  | _, _, [] => none
  | .lineEnd, done, '\n' :: rest => basicLines? .margin done rest
  | .lineEnd, done, '\r' :: '\n' :: rest => basicLines? .margin done rest
  | .lineEnd, done, c :: rest => if isGap c then basicLines? .lineEnd done rest else none
  | .margin, done, '\r' :: '\n' :: rest => basicLines? .margin done rest
  | mode, done, c :: rest =>
    if mode == .margin && (isGap c || c == '\n') then basicLines? .margin done rest
    else
      match c, rest with
      | '"', rest =>
        match closing? '"' done ('"' :: rest) with
        | some result => some result
        | none => basicLines? .text ('"' :: done) rest
      | '\n', rest => basicLines? .text ('\n' :: done) rest
      | '\r', '\n' :: rest => basicLines? .text ('\n' :: done) rest
      | '\\', 'u' :: a :: b :: c :: d :: rest => do
        basicLines? .text ((← codePoint? [a, b, c, d]) :: done) rest
      | '\\', 'U' :: a :: b :: c :: d :: e :: f :: g :: h :: rest => do
        basicLines? .text ((← codePoint? [a, b, c, d, e, f, g, h]) :: done) rest
      | '\\', c :: rest =>
        match escaped? c with
        | some e => basicLines? .text (e :: done) rest
        | none => if isGap c || c == '\n' || c == '\r' then basicLines? .lineEnd done (c :: rest) else none
      | c, rest => if isPlain c then basicLines? .text (c :: done) rest else none

/-- A string of several lines in single quotes. -/
def literalLines? : (done : List Char) → List Char → Option (String × List Char)
  | _, [] => none
  | done, '\n' :: rest => literalLines? ('\n' :: done) rest
  | done, '\r' :: '\n' :: rest => literalLines? ('\n' :: done) rest
  | done, c :: rest =>
    if c == '\'' then
      match closing? '\'' done (c :: rest) with
      | some result => some result
      | none => literalLines? (c :: done) rest
    else if isPlain c then literalLines? (c :: done) rest
    else none

/-- Drops a line end right after the opening quotes. -/
def dropFirstLineEnd : List Char → List Char
  | '\n' :: rest => rest
  | '\r' :: '\n' :: rest => rest
  | cs => cs

/-- A string, if one begins. -/
def string? : List Char → Option (String × List Char)
  | '"' :: '"' :: '"' :: rest => basicLines? .text [] (dropFirstLineEnd rest)
  | '\'' :: '\'' :: '\'' :: rest => literalLines? [] (dropFirstLineEnd rest)
  | '"' :: rest => basicString? [] rest
  | '\'' :: rest => literalString? [] rest
  | _ => none

/-! ## Keys -/

def isBareKeyChar (c : Char) : Bool := c.isAlphanum || c == '_' || c == '-'

/-- One part of a key. -/
def keyPart? (cs : List Char) : Option (String × List Char) :=
  match cs with
  | '"' :: rest => basicString? [] rest
  | '\'' :: rest => literalString? [] rest
  | _ =>
    let bare := cs.takeWhile isBareKeyChar
    if bare.isEmpty then none else some (String.ofList bare, cs.drop bare.length)

/-- The parts of a key after the first, each after a point. -/
def keyTail? : (fuel : Nat) → (done : List String) → List Char → Option (List String × List Char)
  | 0, _, _ => none
  | fuel + 1, done, cs =>
    match skipGaps cs with
    | '.' :: rest => do
      let (part, rest) ← keyPart? (skipGaps rest)
      keyTail? fuel (part :: done) rest
    | rest => some (done.reverse, rest)

/-- The largest number of parts of a key, and of tables and arrays in one another. -/
def maxDepth : Nat := 79

/-- A key: the path to it, and its last part. -/
def key? (cs : List Char) : Option (List String × String × List Char) := do
  let (first, rest) ← keyPart? (skipGaps cs)
  let (parts, rest) ← keyTail? maxDepth [first] rest
  return (parts.dropLast, ← parts.getLast?, rest)

/-! ## Numbers and times -/

/-- Whether a run of digits has an underscore only between two digits. -/
def isDigitRun (isDigit : Char → Bool) : List Char → Bool
  | [c] => isDigit c
  | c :: '_' :: rest => isDigit c && isDigitRun isDigit rest
  | c :: rest => isDigit c && isDigitRun isDigit rest
  | [] => false

/-- The value of a run of digits in a base. -/
def digitsValue (base : Nat) (cs : List Char) : Nat :=
  (cs.filter (· != '_')).foldl (fun n c =>
    let c := c.toLower
    n * base + (if c.isDigit then c.toNat - '0'.toNat else c.toNat - 'a'.toNat + 10)) 0

/-- A whole number with a base mark; it has no sign. -/
def basedInteger? (base : Nat) (isDigit : Char → Bool) (cs : List Char) : Option Value :=
  let n := digitsValue base cs
  if isDigitRun isDigit cs && n < Nat.pow 2 63 then some (.integer n) else none

/-- The sign of a number, and what follows it. -/
def signed (cs : List Char) : Bool × List Char :=
  match cs with
  | '-' :: rest => (true, rest)
  | '+' :: rest => (false, rest)
  | _ => (false, cs)

/-- Whether a run of decimal digits has no idle zero at the front. -/
def isWholeRun (cs : List Char) : Bool :=
  isDigitRun Char.isDigit cs && (cs.length == 1 || cs.head? != some '0')

/-- A whole number in decimal digits, within 64 bits with a sign. -/
def integer? (cs : List Char) : Option Value :=
  let (negative, digits) := signed cs
  let n := digitsValue 10 digits
  if !isWholeRun digits then none
  else if negative then (if n ≤ Nat.pow 2 63 then some (.integer (-(n : Int))) else none)
  else if n < Nat.pow 2 63 then some (.integer n) else none

/-- Whether the text is an exponent after its mark, or nothing. -/
def isExponent : List Char → Bool
  | [] => true
  | c :: rest => (c == 'e' || c == 'E') && isDigitRun Char.isDigit (signed rest).2

/-- Whether the text is a floating-point number. -/
def isFloat (cs : List Char) : Bool :=
  let body := (signed cs).2
  let inNumber (c : Char) : Bool := c.isDigit || c == '_'
  let whole := body.takeWhile inNumber
  body == ['i', 'n', 'f'] || body == ['n', 'a', 'n'] ||
    (isWholeRun whole &&
      match body.drop whole.length with
      | '.' :: rest =>
        let decimals := rest.takeWhile inNumber
        isDigitRun Char.isDigit decimals && isExponent (rest.drop decimals.length)
      | c :: rest => isExponent (c :: rest)
      | [] => false)

/-- Two digits, at most the given number. -/
def twoDigits? (most : Nat) (cs : List Char) : Option (Nat × List Char) := do
  let (n, rest) ← Calendar.number? 2 2 cs
  if n ≤ most then some (n, rest) else none

/-- The time of a day: hours, minutes, seconds and a fraction. -/
def timeOfDay? (cs : List Char) : Option (List Char) := do
  let (_, cs) ← twoDigits? 23 cs
  let cs ← Calendar.mark? ':' cs
  let (_, cs) ← twoDigits? 59 cs
  let cs ← Calendar.mark? ':' cs
  let (_, cs) ← twoDigits? 60 cs
  match cs with
  | '.' :: rest => if (rest.takeWhile Char.isDigit).isEmpty then none else some (rest.dropWhile Char.isDigit)
  | cs => some cs

/-- Whether the text is a distance from universal time, or nothing. -/
def isZone : List Char → Bool
  | [] => true
  | ['Z'] => true
  | ['z'] => true
  | c :: rest =>
    (c == '+' || c == '-') &&
      ((do
        let (_, cs) ← twoDigits? 23 rest
        let cs ← Calendar.mark? ':' cs
        let (_, cs) ← twoDigits? 59 cs
        return cs.isEmpty : Option Bool) == some true)

/-- A date of four, two and two digits. -/
def day? (cs : List Char) : Option (List Char) := do
  let (year, cs) ← Calendar.number? 4 4 cs
  let cs ← Calendar.mark? '-' cs
  let (month, cs) ← Calendar.number? 2 2 cs
  let cs ← Calendar.mark? '-' cs
  let (day, cs) ← Calendar.number? 2 2 cs
  let _ ← Date.ofParts? year month day
  return cs

/-- Whether the text is a date, a time of a day, or both. -/
def isTime (cs : List Char) : Bool :=
  match day? cs with
  | some [] => true
  | some (c :: rest) => (c == 'T' || c == 't' || c == ' ') && (timeOfDay? rest).any isZone
  | none => timeOfDay? cs == some []

def isTokenChar (c : Char) : Bool := c.isAlphanum || c == '+' || c == '-' || c == '_' || c == '.' || c == ':'

/-- The characters of a number, a time or a word. A date may be parted from its time by one space. -/
def token (cs : List Char) : List Char × List Char :=
  let first := cs.takeWhile isTokenChar
  let rest := cs.drop first.length
  match rest with
  | ' ' :: c :: more =>
    if day? first == some [] && c.isDigit then
      let second := (c :: more).takeWhile isTokenChar
      (first ++ ' ' :: second, (c :: more).drop second.length)
    else (first, rest)
  | _ => (first, rest)

/-- A value of one word. -/
def scalar? (cs : List Char) : Option Value :=
  match cs with
  | ['t', 'r', 'u', 'e'] => some (.boolean true)
  | ['f', 'a', 'l', 's', 'e'] => some (.boolean false)
  | '0' :: 'x' :: digits =>
    basedInteger? 16 (fun c => c.isDigit || ('a' ≤ c.toLower && c.toLower ≤ 'f')) digits
  | '0' :: 'o' :: digits => basedInteger? 8 (fun c => '0' ≤ c && c ≤ '7') digits
  | '0' :: 'b' :: digits => basedInteger? 2 (fun c => c == '0' || c == '1') digits
  | _ =>
    if isTime cs then some (.time (String.ofList cs))
    else if isFloat cs then some (.float (String.ofList cs))
    else integer? cs

/-! ## Values and documents -/

/-- The items of an array after its opening bracket. -/
def items? (item? : List Char → Option (Value × List Char)) :
    (fuel : Nat) → (done : List Value) → List Char → Option (Value × List Char)
  | 0, _, _ => none
  | fuel + 1, done, cs => do
    match ← skipLines? false cs with
    | ']' :: rest => some (.array done.reverse, rest)
    | cs =>
      let (v, rest) ← item? cs
      match ← skipLines? false rest with
      | ',' :: rest => items? item? fuel (v :: done) rest
      | ']' :: rest => some (.array (v :: done).reverse, rest)
      | _ => none

/-- A key and its value. -/
def pair? (value? : List Char → Option (Value × List Char)) (cs : List Char) :
    Option (Statement × List Char) := do
  let (path, key, rest) ← key? cs
  match skipGaps rest with
  | '=' :: rest =>
    let (v, rest) ← value? (skipGaps rest)
    some (.assign path key v, rest)
  | _ => none

/-- The pairs of a table written as a value, each pair first; those so far in reverse. -/
def pairs? (value? : List Char → Option (Value × List Char)) :
    (fuel : Nat) → (done : List Statement) → List Char → Option (List Statement × List Char)
  | 0, _, _ => none
  | fuel + 1, done, cs => do
    let (p, rest) ← pair? value? cs
    match skipGaps rest with
    | ',' :: rest => pairs? value? fuel (p :: done) rest
    | '\x7d' :: rest => some ((p :: done).reverse, rest)
    | _ => none

/-- A table written as a value, after its opening brace. -/
def inlineTable? (value? : List Char → Option (Value × List Char)) (cs : List Char) :
    Option (Value × List Char) := do
  match skipGaps cs with
  | '\x7d' :: rest => some (.table .value [], rest)
  | cs =>
    let (pairs, rest) ← pairs? value? cs.length [] cs
    let entries ← build? [] pairs []
    some (.table .value entries, rest)

/-- A value in which arrays and tables nest at most `depth` deep. -/
def value? : (depth : Nat) → List Char → Option (Value × List Char)
  | depth, cs =>
    match depth, cs with
    | _, '"' :: rest => (string? ('"' :: rest)).map fun (s, rest) => (.string s, rest)
    | _, '\'' :: rest => (string? ('\'' :: rest)).map fun (s, rest) => (.string s, rest)
    | depth + 1, '[' :: rest => items? (value? depth) (rest.length + 1) [] rest
    | depth + 1, '\x7b' :: rest => inlineTable? (value? depth) rest
    | _, cs =>
      let (word, rest) := token cs
      (scalar? word).map (·, rest)

/-- A line of a document. -/
def statement? (cs : List Char) : Option (Statement × List Char) := do
  match cs with
  | '[' :: '[' :: rest =>
    let (path, key, rest) ← key? rest
    match skipGaps rest with
    | ']' :: ']' :: rest => some (.element path key, rest)
    | _ => none
  | '[' :: rest =>
    let (path, key, rest) ← key? rest
    match skipGaps rest with
    | ']' :: rest => some (.table path key, rest)
    | _ => none
  | cs => pair? (value? maxDepth) cs

/-- The lines of a document; those so far in reverse. -/
def statements? : (fuel : Nat) → (done : List Statement) → List Char → Option (List Statement)
  | _, done, [] => some done.reverse
  | 0, _, _ => none
  | fuel + 1, done, cs => do
    let (s, rest) ← statement? cs
    statements? fuel (s :: done) (← endOfLine? rest)

/-- Reads a document. A byte order mark may stand in front. -/
def parse? (text : String) : Option Value := do
  let cs := match text.toList with
    | '\uFEFF' :: rest => rest
    | cs => cs
  let cs ← skipLines? false cs
  let lines ← statements? (cs.length + 1) [] cs
  let entries ← build? [] lines []
  return .table .heading entries

end RecordGate.Toml
