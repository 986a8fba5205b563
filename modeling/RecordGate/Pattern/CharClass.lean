import RecordGate.Pattern.Category
import RecordGate.Text.Blank
import RecordGate.Text.CaseData

/-!
# Character classes

The sets of characters that a pattern names: ranges, the shorthand classes, properties, and their
combinations. A class is a term, and `CharClass.has` decides membership.
-/

namespace RecordGate.Pattern

/-- A set of characters. -/
inductive CharClass where
  | none
  | range (first last : Nat)
  | blank
  | word
  | category (c : Category)
  | script (s : Script)
  | assigned
  | alphabetic
  | lowercase
  | uppercase
  /-- All characters that differ from a member at most in case. -/
  | folded (a : CharClass)
  | not (a : CharClass)
  | union (a b : CharClass)
  | inter (a b : CharClass)

/-- One character. -/
def CharClass.single (c : Char) : CharClass := .range c.toNat c.toNat

/-- Every character. -/
def CharClass.any : CharClass := .range 0 0x10FFFF

/-- The members of the first that are not in the second. -/
def CharClass.diff (a b : CharClass) : CharClass := .inter a (.not b)

def hasCategory (c : Category) (n : Nat) : Bool := Text.inRanges c.ranges n

/-- Letters in circles and squares, which count as letters though they are symbols. -/
def isEnclosedLetter (n : Nat) : Bool :=
  (0x24B6 ≤ n && n ≤ 0x24E9) || (0x1F130 ≤ n && n ≤ 0x1F149) || (0x1F150 ≤ n && n ≤ 0x1F169) ||
    (0x1F170 ≤ n && n ≤ 0x1F189)

def letterCategories : List Category :=
  [.uppercaseLetter, .lowercaseLetter, .titlecaseLetter, .modifierLetter, .otherLetter]

def markCategories : List Category := [.nonspacingMark, .spacingMark, .enclosingMark]

/-- Letters and letter numbers. -/
def isLetterlike (n : Nat) : Bool :=
  letterCategories.any (hasCategory · n) || hasCategory .letterNumber n || isEnclosedLetter n

/-- Letters, marks, decimal digits, connecting punctuation and the two joiners. -/
def isWordPoint (n : Nat) : Bool :=
  if n < 0x80 then
    (0x30 ≤ n && n ≤ 0x39) || (0x41 ≤ n && n ≤ 0x5A) || n == 0x5F || (0x61 ≤ n && n ≤ 0x7A)
  else
    isLetterlike n || markCategories.any (hasCategory · n) || hasCategory .decimalNumber n ||
      hasCategory .connectorPunctuation n || n == 0x200C || n == 0x200D

/-- The code points that a run moves onto the given one. -/
def sources (n : Nat) (r : Text.CaseRun) : List Nat :=
  let m := ((n : Int) - r.shift).toNat
  if r.covers m && ((m : Int) + r.shift).toNat == n then [m] else []

/-- The code points that differ from the given one at most in case. -/
def caseVariants (n : Nat) : List Nat :=
  let f := Text.applyRuns Text.foldRuns n
  n :: f :: Text.foldRuns.toList.flatMap (sources f)

/-- Membership in a class. -/
def CharClass.has : CharClass → Nat → Bool
  | .none, _ => false
  | .range first last, n => first ≤ n && n ≤ last
  | .blank, n => Text.isBlank (Char.ofNat n)
  | .word, n => isWordPoint n
  | .category c, n => hasCategory c n
  | .script s, n => Text.inRanges s.ranges n
  | .assigned, n => Category.all.any (hasCategory · n)
  | .alphabetic, n => isLetterlike n
  | .lowercase, n =>
    hasCategory .lowercaseLetter n || (Text.inRanges Text.casedRanges n && Text.applyRuns Text.lowerRuns n == n &&
      !hasCategory .uppercaseLetter n && !hasCategory .titlecaseLetter n)
  | .uppercase, n =>
    hasCategory .uppercaseLetter n || (Text.applyRuns Text.lowerRuns n != n && !hasCategory .titlecaseLetter n)
  | .folded a, n => (caseVariants n).any (a.has ·)
  | .not a, n => !a.has n
  | .union a b, n => a.has n || b.has n
  | .inter a b, n => a.has n && b.has n

end RecordGate.Pattern
