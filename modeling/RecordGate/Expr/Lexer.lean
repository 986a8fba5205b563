import RecordGate.Expr.Error
import RecordGate.Text.Lowercase

/-!
# Tokens

An expression is a row of tokens with gaps between. A token is read from the characters where it
starts, as long as it can be; `Token.read` returns the characters it took and the rest, so the slices
and the gaps together are the expression.

Main definitions: `Token`, `Token.read`, `tokenize`.
-/

namespace RecordGate

/-- A token of an expression. -/
inductive Token where
  | ident (name : String)
  | number (raw : String)
  | text (s : String)
  | truth (b : Bool)
  | null
  | not
  | op (o : BinaryOp)
  | lparen
  | rparen
  | comma
  | eof
deriving DecidableEq

namespace Token

/-- The token as messages quote it. -/
def describe : Token → String
  | .ident name => name
  | .number raw => raw
  | .text s => s!"'{s}'"
  | .truth b => if b then "TRUE" else "FALSE"
  | .null => "NULL"
  | .not => "NOT"
  | .op o => o.symbol
  | .lparen => "("
  | .rparen => ")"
  | .comma => ","
  | .eof => "end of input"

def isDigit (c : Char) : Bool := c.isDigit

/-- A character of a number: a digit or a point. -/
def isNumberChar (c : Char) : Bool := c.isDigit || c == '.'

/-- A character at the start of a name. -/
def isNameStart (c : Char) : Bool := c.isAlpha || c == '_'

/-- A character of a name. -/
def isNameChar (c : Char) : Bool := c.isAlphanum || c == '_'

/-- The token of a word: a keyword in any case, or a name in small letters. -/
def ofWord (word : List Char) : Token :=
  let upper := word.map Char.toUpper
  if upper = ['A', 'N', 'D'] then .op .and
  else if upper = ['O', 'R'] then .op .or
  else if upper = ['N', 'O', 'T'] then .not
  else if upper = ['T', 'R', 'U', 'E'] then .truth true
  else if upper = ['F', 'A', 'L', 'S', 'E'] then .truth false
  else if upper = ['N', 'U', 'L', 'L'] then .null
  else .ident (String.ofList (word.map Char.toLower))

/-- What was read: a token, the characters it took, and those after it. -/
structure Read where
  token : Token
  slice : List Char
  rest : List Char

/--
Reads the body of a quoted text up to its closing quote. A backslash takes the next character as it is.
The text and the slice come in reverse.
-/
def readQuoted (quote : Char) : (body slice : List Char) → List Char → Option Read
  | _, _, [] => none
  | body, slice, '\\' :: c :: rest => readQuoted quote (c :: body) (c :: '\\' :: slice) rest
  | body, slice, c :: rest =>
    if c == '\\' then none
    else if c == quote then some ⟨.text (String.ofList body.reverse), (c :: slice).reverse, rest⟩
    else readQuoted quote (c :: body) (c :: slice) rest

/-- Reads the token that starts a list of characters, at a given position. -/
def read (pos : Nat) : List Char → Except CompileError Read
  | [] => .ok ⟨.eof, [], []⟩
  | '(' :: rest => .ok ⟨.lparen, ['('], rest⟩
  | ')' :: rest => .ok ⟨.rparen, [')'], rest⟩
  | ',' :: rest => .ok ⟨.comma, [','], rest⟩
  | '+' :: rest => .ok ⟨.op .add, ['+'], rest⟩
  | '-' :: rest => .ok ⟨.op .sub, ['-'], rest⟩
  | '*' :: rest => .ok ⟨.op .mul, ['*'], rest⟩
  | '/' :: rest => .ok ⟨.op .div, ['/'], rest⟩
  | '=' :: '=' :: rest => .ok ⟨.op .eq, ['=', '='], rest⟩
  | '=' :: _ => .error (.unexpected .equality "=" pos)
  | '!' :: '=' :: rest => .ok ⟨.op .ne, ['!', '='], rest⟩
  | '!' :: _ => .error (.unexpected .inequality "!" pos)
  | '<' :: '=' :: rest => .ok ⟨.op .le, ['<', '='], rest⟩
  | '<' :: rest => .ok ⟨.op .lt, ['<'], rest⟩
  | '>' :: '=' :: rest => .ok ⟨.op .ge, ['>', '='], rest⟩
  | '>' :: rest => .ok ⟨.op .gt, ['>'], rest⟩
  | c :: rest =>
    if c == '\'' || c == '"' then
      match readQuoted c [] [c] rest with
      | some r => .ok r
      | none => .error (.unterminated pos)
    else if isNumberChar c then
      let raw := (c :: rest).takeWhile isNumberChar
      if raw.count '.' > 1 || raw == ['.'] then .error (.invalidNumber (String.ofList raw) pos)
      else .ok ⟨.number (String.ofList raw), raw, (c :: rest).dropWhile isNumberChar⟩
    else if isNameStart c then
      let word := (c :: rest).takeWhile isNameChar
      .ok ⟨ofWord word, word, (c :: rest).dropWhile isNameChar⟩
    else .error (.unexpected .token (String.singleton c) pos)

end Token

/-- A token and the byte offset where it starts. -/
structure Lexeme where
  token : Token
  pos : Nat
deriving DecidableEq

/-- The largest expression in bytes. -/
def maxExpressionBytes : Nat := 16384

/-- The number of bytes of a list of characters. -/
def byteLength (cs : List Char) : Nat := cs.foldr (fun c size => c.utf8Size + size) 0

/--
Reads tokens to the end of the characters. `fuel` is at least their number; the lexemes found so far
come in reverse.
-/
def tokenizeFrom : (fuel pos : Nat) → List Lexeme → List Char → Except CompileError (List Lexeme)
  | _, pos, done, [] =>
    if done.isEmpty then .error .emptyExpression else .ok (⟨.eof, pos⟩ :: done).reverse
  | 0, _, _, _ :: _ => .error .emptyExpression
  | fuel + 1, pos, done, c :: rest =>
    if Text.isGap c then tokenizeFrom fuel (pos + 1) done rest
    else
      match Token.read pos (c :: rest) with
      | .error e => .error e
      | .ok r => tokenizeFrom fuel (pos + byteLength r.slice) (⟨r.token, pos⟩ :: done) r.rest

/-- The tokens of an expression. The last is the only `Token.eof`. -/
def tokenize (expression : String) : Except CompileError (List Lexeme) :=
  if expression.utf8ByteSize > maxExpressionBytes then
    .error (.tooLarge maxExpressionBytes expression.utf8ByteSize)
  else tokenizeFrom expression.length 0 [] expression.toList

end RecordGate
