/-!
# Engines for patterns

A pattern is a text in the language of an engine for regular expressions. The engine reads the text once, or says why
it is no pattern; after that it tells of any text whether the pattern matches somewhere in it. Schemas are checked
with whatever engine there is.

Main definition: `Pattern.Engine`.
-/

namespace RecordGate.Pattern

/-- An engine for patterns. -/
structure Engine where
  /-- Reads a pattern, as the test whether it matches somewhere in a text; the error says why it is none. -/
  read : String → Except String (String → Bool)

namespace Engine

/-- Whether a text is a pattern. -/
def reads (e : Engine) (regex : String) : Bool := (e.read regex).isOk

/-- Whether a pattern matches somewhere in a text. What is no pattern matches nothing. -/
def isMatch (e : Engine) (regex text : String) : Bool := (e.read regex).toOption.any (· text)

end Engine

end RecordGate.Pattern
