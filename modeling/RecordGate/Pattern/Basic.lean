import RecordGate.Pattern.CharClass

/-!
# Patterns

A pattern is a regular expression with anchors. It is matched anywhere in a text, and only whether it
matches is asked, so greed and groups leave no trace in the term.

`Pattern.ends` gives, for a set of starting positions, all positions where a match can end. A text
matches when this set is not empty for the set of all positions (`Pattern.matchesText`).
-/

namespace RecordGate

namespace Pattern

/-- A condition on a position of a text. -/
inductive Anchor where
  | textStart
  | textEnd
  | lineStart
  | lineEnd
  /-- Line ends in which a carriage return counts, alone or before a line feed. -/
  | crlfStart
  | crlfEnd
  | boundary (ascii : Bool)
  | notBoundary (ascii : Bool)
  | wordStart (ascii : Bool)
  | wordEnd (ascii : Bool)
  | wordStartHalf (ascii : Bool)
  | wordEndHalf (ascii : Bool)

end Pattern

/-- A regular expression. -/
inductive Pattern where
  | empty
  | chars (cls : Pattern.CharClass)
  | anchor (a : Pattern.Anchor)
  | seq (a b : Pattern)
  | alt (a b : Pattern)
  /-- At least `least` copies; at most `most`, if given. -/
  | copies (a : Pattern) (least : Nat) (most : Option Nat)

namespace Pattern

/-- A word character, by the full or the ASCII class. -/
def isWordChar (ascii : Bool) (c : Char) : Bool :=
  if ascii then c.isAlphanum || c == '_' else isWordPoint c.toNat

/-- Whether a position satisfies a condition. -/
def Anchor.holds (text : Array Char) (i : Nat) (a : Anchor) : Bool :=
  let before : Option Char := if i == 0 then none else text[i - 1]?
  let after : Option Char := text[i]?
  let wordBefore (ascii : Bool) := before.any (isWordChar ascii)
  let wordAfter (ascii : Bool) := after.any (isWordChar ascii)
  match a with
  | .textStart => i == 0
  | .textEnd => i == text.size
  | .lineStart => i == 0 || before == some '\n'
  | .lineEnd => i == text.size || after == some '\n'
  | .crlfStart => i == 0 || before == some '\n' || (before == some '\r' && after != some '\n')
  | .crlfEnd => i == text.size || after == some '\r' || (after == some '\n' && before != some '\r')
  | .boundary ascii => wordBefore ascii != wordAfter ascii
  | .notBoundary ascii => wordBefore ascii == wordAfter ascii
  | .wordStart ascii => !wordBefore ascii && wordAfter ascii
  | .wordEnd ascii => wordBefore ascii && !wordAfter ascii
  | .wordStartHalf ascii => !wordBefore ascii
  | .wordEndHalf ascii => !wordAfter ascii

/-- The union of two ascending lists of positions. -/
def mergePositions (a b : List Nat) : List Nat :=
  (a.merge b (· ≤ ·)).eraseReps

/-- The positions of the first list that are not in the second. -/
def newPositions (a old : List Nat) : List Nat :=
  let known := old.foldl (fun (m : Array Bool) i => m.setIfInBounds i true) (Array.replicate (old.getLastD 0 + 1) false)
  a.filter fun i => known[i]? != some true

/-- Runs a step a given number of times. -/
def iterate (step : List Nat → List Nat) : Nat → List Nat → List Nat
  | 0, s => s
  | n + 1, s => if s.isEmpty then [] else iterate step n (step s)

/--
All positions reached by at most `rounds` steps. `frontier` holds those reached last, `reached` all of
them.
-/
def closure (step : List Nat → List Nat) : (rounds : Nat) → (frontier reached : List Nat) → List Nat
  | 0, _, reached => reached
  | rounds + 1, frontier, reached =>
    if frontier.isEmpty then reached
    else
      let next := newPositions (step frontier) reached
      closure step rounds next (mergePositions reached next)

/--
The positions where a match that starts at one of `starts` can end. More steps than the text has
positions add nothing to an open repetition.
-/
def ends (text : Array Char) : Pattern → List Nat → List Nat
  | .empty, starts => starts
  | .chars cls, starts =>
    starts.filterMap fun i =>
      match text[i]? with
      | some c => if cls.has c.toNat then some (i + 1) else none
      | none => none
  | .anchor a, starts => starts.filter fun i => a.holds text i
  | .seq a b, starts => ends text b (ends text a starts)
  | .alt a b, starts => mergePositions (ends text a starts) (ends text b starts)
  | .copies a least most, starts =>
    let base := iterate (ends text a) least starts
    let rounds := match most with
      | some m => m - least
      | none => text.size + 1
    closure (ends text a) rounds base base

/-- Whether the pattern matches somewhere in the text. -/
def matchesText (p : Pattern) (text : String) : Bool :=
  let chars := text.toList.toArray
  !(ends chars p (List.range (chars.size + 1))).isEmpty

end Pattern

end RecordGate
