import RecordGate.Pattern.Basic
import RecordGate.Pattern.Engine

/-!
# Reading patterns

The written form of patterns: alternatives, repetitions, groups, classes and escapes, with flags that
hold to the end of their group. Look-around and back-references are refused, as are an operator without
an operand and an unclosed group or class.

Main definitions: `Pattern.parse?`, `Pattern.Engine.common`.
-/

namespace RecordGate.Pattern

/-- The flags in force. -/
structure Flags where
  ignoreCase : Bool
  multiLine : Bool
  dotAll : Bool
  crlf : Bool
  unicode : Bool
  verbose : Bool

/-- The flags at the start of a pattern. -/
def Flags.start : Flags := ⟨false, false, false, false, true, false⟩

/-- Drops blanks and comments where the verbose flag allows them. -/
def skipVerbose (flags : Flags) (cs : List Char) : List Char :=
  if flags.verbose then skip cs.length cs else cs
where
  skip : Nat → List Char → List Char
    | 0, cs => cs
    | _, [] => []
    | fuel + 1, c :: rest =>
      if Text.isBlank c then skip fuel rest
      else if c == '#' then skip fuel (rest.dropWhile (· != '\n'))
      else c :: rest

/-! ## Characters and classes by name -/

def isMeta (c : Char) : Bool :=
  "\\.+*?()|[]\x7b\x7d^$#&-~".toList.contains c

/-- ASCII characters that stand for themselves after a backslash. -/
def isEscapable (c : Char) : Bool :=
  isMeta c || (c.toNat < 0x80 && !c.isAlphanum && c != '<' && c != '>')

def hexValue? (c : Char) : Option Nat :=
  if c.isDigit then some (c.toNat - '0'.toNat)
  else if 'a' ≤ c ∧ c ≤ 'f' then some (c.toNat - 'a'.toNat + 10)
  else if 'A' ≤ c ∧ c ≤ 'F' then some (c.toNat - 'A'.toNat + 10)
  else none

/-- The character of a code point written in hexadecimal. -/
def ofHex? (digits : List Char) : Option Char := do
  if digits.isEmpty then none
  let n ← digits.foldlM (fun n c => if n > 0x10FFFF then none else (hexValue? c).map (n * 16 + ·)) 0
  if h : n.isValidChar then some (Char.ofNatAux n h) else none

/-- A hexadecimal escape after its letter: `width` digits, or any number in braces. -/
def hexEscape? (flags : Flags) (width : Nat) (cs : List Char) : Option (Char × List Char) := do
  match skipVerbose flags cs with
  | '{' :: rest =>
    let digits := rest.takeWhile (· != '}')
    match rest.dropWhile (· != '}') with
    | _ :: rest =>
      let c ← ofHex? (digits.filter fun c => !(flags.verbose && Text.isBlank c))
      some (c, rest)
    | [] => none
  | rest =>
    if rest.length < width then none
    else
      let c ← ofHex? (rest.take width)
      -- Two digits name a byte; alone, only an ASCII byte is text.
      if width == 2 && !flags.unicode && c.toNat > 0x7F then none else some (c, rest.drop width)

/-- A shorthand class by its small letter. -/
def shorthand (unicode : Bool) (letter : Char) : CharClass :=
  if letter == 'd' then (if unicode then .category .decimalNumber else .range 0x30 0x39)
  else if letter == 's' then
    if unicode then .blank else .union (.range 0x09 0x0D) (.single ' ')
  else if unicode then .word
  else .union (.range 0x30 0x39) (.union (.range 0x41 0x5A) (.union (.single '_') (.range 0x61 0x7A)))

def unionOf (cs : List CharClass) : CharClass := cs.foldr .union .none

/-- A group of categories by its letter or name. -/
def categoryGroup? (name : String) : Option (List Category) :=
  if name == "l" || name == "letter" then some letterCategories
  else if name == "lc" || name == "casedletter" then some [.uppercaseLetter, .lowercaseLetter, .titlecaseLetter]
  else if name == "m" || name == "mark" then some markCategories
  else if name == "n" || name == "number" then some [.decimalNumber, .letterNumber, .otherNumber]
  else if name == "p" || name == "punctuation" || name == "punct" then
    some [.connectorPunctuation, .dashPunctuation, .openPunctuation, .closePunctuation, .initialPunctuation,
      .finalPunctuation, .otherPunctuation]
  else if name == "s" || name == "symbol" then some [.mathSymbol, .currencySymbol, .modifierSymbol, .otherSymbol]
  else if name == "z" || name == "separator" then some [.spaceSeparator, .lineSeparator, .paragraphSeparator]
  else none

/-- The class of a general category. -/
def categoryClass? (name : String) : Option CharClass :=
  if name == "c" || name == "other" then
    some (.union (.not .assigned) (unionOf [.category .control, .category .format, .category .privateUse]))
  else if name == "cn" || name == "unassigned" then some (.diff (.not .assigned) (.range 0xD800 0xDFFF))
  else
    match categoryGroup? name with
    | some cs => some (unionOf (cs.map .category))
    | none => (Category.all.find? fun c => c.code == name || c.fullName == name).map .category

def scriptClass? (name : String) : Option CharClass :=
  (Script.all.find? (·.fullName == name)).map .script

/-- A property as its name is compared: without blanks, hyphens and underlines, and in small letters. -/
def looseName (name : List Char) : String :=
  String.ofList ((name.filter fun c => !(c == ' ' || c == '-' || c == '_')).map Char.toLower)

/-- The class of a property. -/
def propertyClass? (name : List Char) : Option CharClass :=
  let isSplit (c : Char) : Bool := c == '=' || c == ':'
  match name.dropWhile (!isSplit ·) with
  | _ :: value =>
    let key := name.takeWhile (!isSplit ·)
    let (key, negated) := match key.reverse with
      | '!' :: rest => (rest.reverse, true)
      | _ => (key, false)
    let cls :=
      if ["gc", "generalcategory"].contains (looseName key) then categoryClass? (looseName value)
      else if ["sc", "script", "scx", "scriptextensions"].contains (looseName key) then scriptClass? (looseName value)
      else none
    cls.map fun c => if negated then .not c else c
  | [] =>
    let name := looseName name
    if name == "any" then some .any
    else if name == "ascii" then some (.range 0 0x7F)
    else if name == "assigned" then some .assigned
    else if name == "alphabetic" || name == "alpha" then some .alphabetic
    else if name == "lowercase" || name == "lower" then some .lowercase
    else if name == "uppercase" || name == "upper" then some .uppercase
    else if name == "whitespace" || name == "wspace" || name == "space" then some .blank
    else (categoryClass? name).or (scriptClass? name)

/-- A bracketed ASCII class by name. -/
def asciiClass? (name : String) : Option CharClass :=
  let digit := CharClass.range 0x30 0x39
  let upper := CharClass.range 0x41 0x5A
  let lower := CharClass.range 0x61 0x7A
  if name == "alnum" then some (unionOf [digit, upper, lower])
  else if name == "alpha" then some (.union upper lower)
  else if name == "ascii" then some (.range 0 0x7F)
  else if name == "blank" then some (.union (.single ' ') (.single '\t'))
  else if name == "cntrl" then some (.union (.range 0 0x1F) (.single '\x7f'))
  else if name == "digit" then some digit
  else if name == "graph" then some (.range 0x21 0x7E)
  else if name == "lower" then some lower
  else if name == "print" then some (.range 0x20 0x7E)
  else if name == "punct" then
    some (unionOf [.range 0x21 0x2F, .range 0x3A 0x40, .range 0x5B 0x60, .range 0x7B 0x7E])
  else if name == "space" then some (.union (.range 0x09 0x0D) (.single ' '))
  else if name == "upper" then some upper
  else if name == "word" then some (unionOf [digit, upper, .single '_', lower])
  else if name == "xdigit" then some (unionOf [digit, .range 0x41 0x46, .range 0x61 0x66])
  else none

/-! ## Escapes -/

/-- What an escape stands for. -/
inductive Primitive where
  | literal (c : Char)
  | cls (a : CharClass)
  | anchor (a : Anchor)

/-- Closes a class under case where the flag asks for it. -/
def foldClass (flags : Flags) (a : CharClass) : CharClass :=
  if flags.ignoreCase then .folded a else a

def negateIf (negated : Bool) (a : CharClass) : CharClass := if negated then .not a else a

/-- The kind of word boundary that stands in braces after `\b`, if a name stands there. -/
def boundaryName? (flags : Flags) (cs : List Char) : Option (Option Anchor × List Char) :=
  let isNameChar (c : Char) : Bool := c.isAlpha || c == '-'
  match cs with
  | '{' :: rest =>
    let rest := skipVerbose flags rest
    let name := String.ofList (rest.takeWhile isNameChar)
    if name.isEmpty then none
    else
      let anchor : Option Anchor :=
        if name == "start" then some (.wordStart !flags.unicode)
        else if name == "end" then some (.wordEnd !flags.unicode)
        else if name == "start-half" then some (.wordStartHalf !flags.unicode)
        else if name == "end-half" then some (.wordEndHalf !flags.unicode)
        else none
      match skipVerbose flags (rest.dropWhile isNameChar) with
      | '}' :: rest => some (anchor, rest)
      | _ => some (none, [])
  | _ => none

/-- An escape after its backslash. -/
def escape? (flags : Flags) : List Char → Option (Primitive × List Char)
  | [] => none
  | c :: rest =>
    if c.isDigit then none
    else if c == 'x' || c == 'u' || c == 'U' then
      (hexEscape? flags (if c == 'x' then 2 else if c == 'u' then 4 else 8) rest).map fun (c, rest) => (.literal c, rest)
    else if c == 'p' || c == 'P' then do
      let (name, rest) ← match skipVerbose flags rest with
        | '{' :: rest =>
          match rest.dropWhile (· != '}') with
          | _ :: after => some (rest.takeWhile (· != '}'), after)
          | [] => none
        | letter :: rest => some ([letter], rest)
        | [] => none
      let (name, inverted) := match name with
        | '^' :: name => (name, true)
        | _ => (name, false)
      if !flags.unicode then none
      else
        let cls ← propertyClass? name
        some (.cls (negateIf ((c == 'P') != inverted) (foldClass flags cls)), rest)
    else if "dswDSW".toList.contains c then
      if c.isUpper && !flags.unicode then none
      else some (.cls (negateIf c.isUpper (shorthand flags.unicode c.toLower)), rest)
    else if isEscapable c then some (.literal c, rest)
    else if c == 'a' then some (.literal '\x07', rest)
    else if c == 'f' then some (.literal '\x0c', rest)
    else if c == 't' then some (.literal '\t', rest)
    else if c == 'n' then some (.literal '\n', rest)
    else if c == 'r' then some (.literal '\r', rest)
    else if c == 'v' then some (.literal '\x0b', rest)
    else if c == 'A' then some (.anchor .textStart, rest)
    else if c == 'z' then some (.anchor .textEnd, rest)
    else if c == 'b' then
      match boundaryName? flags rest with
      | some (some a, rest) => some (.anchor a, rest)
      | some (none, _) => none
      | none => some (.anchor (.boundary !flags.unicode), rest)
    else if c == 'B' then (if flags.unicode then some (.anchor (.notBoundary false), rest) else none)
    else if c == '<' then some (.anchor (.wordStart !flags.unicode), rest)
    else if c == '>' then some (.anchor (.wordEnd !flags.unicode), rest)
    else none

/-! ## Bracketed classes -/

/-- An operator between two parts of a class. -/
inductive SetOp where
  | inter
  | diff
  | symDiff

/-- Joins what stands before an operator with what stands after it. -/
def combine (before : Option (CharClass × SetOp)) (part : CharClass) : CharClass :=
  match before with
  | none => part
  | some (a, .inter) => .inter a part
  | some (a, .diff) => .diff a part
  | some (a, .symDiff) => .union (.diff a part) (.diff part a)

/-- One item of a class: a character, or the class of an escape. Without the flag `u` it is ASCII. -/
def setItem? (flags : Flags) : List Char → Option (Primitive × List Char)
  | [] => none
  | '\\' :: rest =>
    match escape? flags rest with
    | some (.anchor _, _) => none
    | r => r
  | c :: rest => if flags.unicode || c.toNat ≤ 0x7F then some (.literal c, rest) else none

/-- The class of an item. -/
def itemClass (flags : Flags) : Primitive → CharClass
  | .literal c => foldClass flags (.single c)
  | .cls a => a
  | .anchor _ => .none

/-- An item or a range of characters. -/
def setRange? (flags : Flags) (cs : List Char) : Option (CharClass × List Char) := do
  let (first, rest) ← setItem? flags cs
  let rest := skipVerbose flags rest
  match rest with
  | [] => none
  | '-' :: after =>
    match skipVerbose flags after with
    | [] => none
    | c :: _ =>
      if c == ']' || c == '-' then some (itemClass flags first, rest)
      else
        let (last, rest) ← setItem? flags (skipVerbose flags after)
        match first, last with
        | .literal a, .literal b => if a ≤ b then some (foldClass flags (.range a.toNat b.toNat), rest) else none
        | _, _ => none
  | _ => some (itemClass flags first, rest)

/-- A named ASCII class inside brackets, from its second character on: `:name:]` or `:^name:]`. -/
def namedClass? (flags : Flags) : List Char → Option (CharClass × List Char)
  | ':' :: rest =>
    let (negated, rest) := match rest with
      | '^' :: rest => (true, rest)
      | _ => (false, rest)
    match rest.dropWhile (· != ':') with
    | ':' :: ']' :: after =>
      (asciiClass? (String.ofList (rest.takeWhile (· != ':')))).map fun c =>
        (negateIf negated (foldClass flags c), after)
    | _ => none
  | _ => none

/-- A class whose members have been read so far, and the same for the classes around it. -/
structure OpenClass where
  negated : Bool
  before : Option (CharClass × SetOp)
  members : CharClass

/-- What stands right after an opening bracket: a negation, hyphens, and a closing bracket as a member. -/
def openClass (flags : Flags) (cs : List Char) : OpenClass × List Char :=
  let cs := skipVerbose flags cs
  let (negated, cs) := match cs with
    | '^' :: rest => (true, skipVerbose flags rest)
    | _ => (false, cs)
  let rec hyphens : Nat → Bool → List Char → Bool × List Char
    | fuel + 1, _, '-' :: rest => hyphens fuel true (skipVerbose flags rest)
    | _, any, cs => (any, cs)
  let (any, cs) := hyphens cs.length false cs
  let members : CharClass := if any then .single '-' else .none
  match cs with
  | ']' :: rest =>
    if any then (⟨negated, none, members⟩, cs)
    else (⟨negated, none, .single ']'⟩, skipVerbose flags rest)
  | _ => (⟨negated, none, members⟩, cs)

/-- The finished class. -/
def OpenClass.close (o : OpenClass) : CharClass := negateIf o.negated (combine o.before o.members)

def OpenClass.add (o : OpenClass) (a : CharClass) : OpenClass := { o with members := .union o.members a }

def OpenClass.operate (o : OpenClass) (op : SetOp) : OpenClass :=
  { o with before := some (combine o.before o.members, op), members := .none }

/-- Reads a class after its opening bracket. `outer` holds the classes around the innermost one. -/
def bracket? (flags : Flags) : (fuel : Nat) → (outer : List OpenClass) → (current : OpenClass) → List Char →
    Option (CharClass × List Char)
  | 0, _, _, _ => none
  | fuel + 1, outer, current, cs =>
    match skipVerbose flags cs with
    | [] => none
    | '[' :: rest =>
      match namedClass? flags rest with
      | some (a, rest) => bracket? flags fuel outer (current.add a) rest
      | none =>
        let (inner, rest) := openClass flags rest
        bracket? flags fuel (current :: outer) inner rest
    | ']' :: rest =>
      if current.negated && !flags.unicode then none
      else
        match outer with
        | [] => some (current.close, rest)
        | o :: outer => bracket? flags fuel outer (o.add current.close) rest
    | '&' :: '&' :: rest => bracket? flags fuel outer (current.operate .inter) rest
    | '-' :: '-' :: rest => bracket? flags fuel outer (current.operate .diff) rest
    | '~' :: '~' :: rest => bracket? flags fuel outer (current.operate .symDiff) rest
    | cs => do
      let (a, rest) ← setRange? flags cs
      bracket? flags fuel outer (current.add a) rest

/-! ## Repetition and groups -/

/-- A decimal number with blanks around it, within 32 bits. -/
def count? (cs : List Char) : Option (Nat × List Char) :=
  let cs := cs.dropWhile Text.isBlank
  let digits := cs.takeWhile Char.isDigit
  if digits.isEmpty then none
  else
    let n := digits.foldl (fun n c => n * 10 + (c.toNat - '0'.toNat)) 0
    if n < Nat.pow 2 32 then some (n, (cs.dropWhile Char.isDigit).dropWhile Text.isBlank) else none

/-- The bounds of a counted repetition after its opening brace. -/
def bounds? (flags : Flags) (cs : List Char) : Option (Nat × Option Nat × List Char) := do
  let (least, rest) ← count? (skipVerbose flags cs)
  match rest with
  | '}' :: rest => some (least, some least, rest)
  | ',' :: rest =>
    match skipVerbose flags rest with
    | '}' :: rest => some (least, none, rest)
    | rest =>
      let (most, rest) ← count? rest
      match rest with
      | '}' :: rest => if least ≤ most then some (least, some most, rest) else none
      | _ => none
  | _ => none

/-- Sets a flag by its letter. -/
def Flags.set? (flags : Flags) (letter : Char) (on : Bool) : Option Flags :=
  if letter == 'i' then some { flags with ignoreCase := on }
  else if letter == 'm' then some { flags with multiLine := on }
  else if letter == 's' then some { flags with dotAll := on }
  else if letter == 'R' then some { flags with crlf := on }
  else if letter == 'u' then some { flags with unicode := on }
  else if letter == 'x' then some { flags with verbose := on }
  else if letter == 'U' then some flags
  else none

/-- Flag letters up to a colon or a closing parenthesis. A letter may stand once, and so may the minus. -/
def flags? (flags : Flags) : (seen : List Char) → (on dangling : Bool) → List Char →
    Option (Flags × Char × List Char)
  | _, _, _, [] => none
  | seen, on, dangling, c :: rest =>
    if c == ':' || c == ')' then (if dangling then none else some (flags, c, rest))
    else if seen.contains c then none
    else if c == '-' then flags? flags (c :: seen) false true rest
    else
      match flags.set? c on with
      | some flags => flags? flags (c :: seen) on false rest
      | none => none

/-- The name of a group up to its closing angle bracket. -/
def groupName? (cs : List Char) : Option (String × List Char) :=
  let name := cs.takeWhile (· != '>')
  let isFirst (c : Char) : Bool := c == '_' || isLetterlike c.toNat
  let isLater (c : Char) : Bool :=
    isFirst c || c == '.' || c == '[' || c == ']' || hasCategory .decimalNumber c.toNat ||
      hasCategory .otherNumber c.toNat
  match name, cs.dropWhile (· != '>') with
  | first :: later, _ :: rest =>
    if isFirst first && later.all isLater then some (String.ofList name, rest) else none
  | _, _ => none

/-- A group that has been opened: what stands before it, and the flags to go back to. -/
structure OpenGroup where
  flags : Flags
  /-- Finished alternatives, joined. -/
  alternatives : Option Pattern
  /-- The parts of the current alternative in reverse; none for a part that sets flags. -/
  parts : List (Option Pattern)

def OpenGroup.start (flags : Flags) : OpenGroup := ⟨flags, none, []⟩

/-- The parts of the current alternative, joined. -/
def OpenGroup.joined (g : OpenGroup) : Pattern :=
  g.parts.foldl (fun after p => match p with
    | some p => match after with
      | .empty => p
      | _ => .seq p after
    | none => after) .empty

/-- The finished group. -/
def OpenGroup.close (g : OpenGroup) : Pattern :=
  match g.alternatives with
  | some a => .alt a g.joined
  | none => g.joined

def OpenGroup.add (g : OpenGroup) (p : Pattern) : OpenGroup := { g with parts := some p :: g.parts }

/-- Ends an alternative. -/
def OpenGroup.next (g : OpenGroup) : OpenGroup := { g with alternatives := some g.close, parts := [] }

/-- Repeats the last part; none when there is no part to repeat. -/
def OpenGroup.repeatLast? (g : OpenGroup) (least : Nat) (most : Option Nat) : Option OpenGroup :=
  match g.parts with
  | some p :: rest => some { g with parts := some (.copies p least most) :: rest }
  | _ => none

/-- The class of the point. -/
def dotClass (flags : Flags) : CharClass :=
  if flags.dotAll then .any
  else if flags.crlf then .not (.union (.single '\n') (.single '\r'))
  else .not (.single '\n')

def startAnchor (flags : Flags) : Anchor :=
  if flags.multiLine then (if flags.crlf then .crlfStart else .lineStart) else .textStart

def endAnchor (flags : Flags) : Anchor :=
  if flags.multiLine then (if flags.crlf then .crlfEnd else .lineEnd) else .textEnd

/-- Skips the mark that makes a repetition prefer few copies. -/
def dropLazy : List Char → List Char
  | '?' :: rest => rest
  | cs => cs

/-- What an opening parenthesis begins. -/
inductive Opening where
  | group (flags : Flags) (names : List String)
  | setFlags (flags : Flags)

/-- Reads what follows an opening parenthesis. Look-around is refused, and so is a name used twice. -/
def opening? (flags : Flags) (names : List String) (cs : List Char) : Option (Opening × List Char) :=
  let named (rest : List Char) : Option (Opening × List Char) :=
    match groupName? rest with
    | some (name, rest) => if names.contains name then none else some (.group flags (name :: names), rest)
    | none => none
  match skipVerbose flags cs with
  | '?' :: '=' :: _ => none
  | '?' :: '!' :: _ => none
  | '?' :: '<' :: '=' :: _ => none
  | '?' :: '<' :: '!' :: _ => none
  | '?' :: 'P' :: '<' :: rest => named rest
  | '?' :: '<' :: rest => named rest
  | '?' :: ')' :: _ => none
  | '?' :: rest =>
    match flags? flags [] true false rest with
    | some (flags, ':', rest) => some (.group flags names, rest)
    | some (flags, _, rest) => some (.setFlags flags, rest)
    | none => none
  | rest => some (.group flags names, rest)

/--
Reads a pattern to its end. `outer` holds the groups around the innermost one, which is `current`, and
`flags` are those in force.
-/
def pattern? : (fuel : Nat) → (flags : Flags) → (names : List String) → (outer : List OpenGroup) →
    (current : OpenGroup) → List Char → Option Pattern
  | 0, _, _, _, _, _ => none
  | fuel + 1, flags, names, outer, current, cs =>
    match skipVerbose flags cs with
    | [] => if outer.isEmpty then some current.close else none
    | '(' :: rest =>
      match opening? flags names rest with
      | some (.group inner names, rest) => pattern? fuel inner names (current :: outer) (.start flags) rest
      | some (.setFlags flags, rest) =>
        pattern? fuel flags names outer { current with parts := none :: current.parts } rest
      | none => none
    | ')' :: rest =>
      match outer with
      | o :: outer => pattern? fuel current.flags names outer (o.add current.close) rest
      | [] => none
    | '|' :: rest => pattern? fuel flags names outer current.next rest
    | '[' :: rest => do
      let (o, rest) := openClass flags rest
      let (a, rest) ← bracket? flags (rest.length + 1) [] o rest
      pattern? fuel flags names outer (current.add (.chars a)) rest
    | '?' :: rest => do
      let g ← current.repeatLast? 0 (some 1)
      pattern? fuel flags names outer g (dropLazy rest)
    | '*' :: rest => do
      let g ← current.repeatLast? 0 none
      pattern? fuel flags names outer g (dropLazy rest)
    | '+' :: rest => do
      let g ← current.repeatLast? 1 none
      pattern? fuel flags names outer g (dropLazy rest)
    | '{' :: rest => do
      let (least, most, rest) ← bounds? flags rest
      let g ← current.repeatLast? least most
      pattern? fuel flags names outer g (dropLazy (skipVerbose flags rest))
    | '.' :: rest =>
      if flags.unicode then pattern? fuel flags names outer (current.add (.chars (dotClass flags))) rest else none
    | '^' :: rest => pattern? fuel flags names outer (current.add (.anchor (startAnchor flags))) rest
    | '$' :: rest => pattern? fuel flags names outer (current.add (.anchor (endAnchor flags))) rest
    | '\\' :: rest => do
      let (p, rest) ← escape? flags rest
      let part : Pattern := match p with
        | .anchor a => .anchor a
        | p => .chars (itemClass flags p)
      pattern? fuel flags names outer (current.add part) rest
    | c :: rest => pattern? fuel flags names outer (current.add (.chars (itemClass flags (.literal c)))) rest

/-- Reads a pattern; none when it is not one. -/
def parse? (text : String) : Option Pattern :=
  let cs := text.toList
  pattern? (cs.length + 1) .start [] [] (.start .start) cs

/--
An engine for common patterns. Of the properties it knows the categories and the scripts that are listed, and it sets
no bound to the size of a pattern.
-/
def Engine.common : Engine where
  read regex :=
    match parse? regex with
    | some p => .ok p.matchesText
    | none => .error "regex parse error"

end RecordGate.Pattern
