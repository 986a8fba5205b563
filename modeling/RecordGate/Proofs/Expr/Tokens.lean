import Mathlib.Tactic.SplitIfs
import RecordGate.Expr.Lexer

/-!
# What the tokens of an expression are

Two facts about every row of lexemes that `tokenize` gives: the end of the input is the last of them and
no other, and every name is in small letters. The first is what makes the end of the input the end of a
phrase; the second lets a name be looked up as it stands.

Main statement: `tokenize_ok`.
-/

namespace RecordGate

namespace Text

/-- An ASCII character that is no capital. -/
def IsSmall (c : Char) : Prop := c.toNat < 0x80 ∧ c.toLower = c

instance (c : Char) : Decidable (IsSmall c) := inferInstanceAs (Decidable (_ ∧ _))

theorem IsSmall.ne_sigma {c : Char} (h : IsSmall c) : c ≠ 'Σ' := by
  rintro rfl
  exact absurd h.1 (by decide)

/-- The check goes over the ASCII characters one by one. -/
theorem isSmall_toLower {c : Char} (h : c.toNat < 0x80) : IsSmall c.toLower := by
  have all : ∀ n : Fin 0x80, IsSmall (Char.ofNat n).toLower := by decide
  have this := all ⟨c.toNat, h⟩
  rwa [Char.ofNat_toNat] at this

theorem lowercaseFrom_of_small {before cs : List Char} (h : ∀ c ∈ cs, IsSmall c) :
    lowercaseFrom before cs = cs := by
  induction cs generalizing before with
  | nil => rfl
  | cons c cs ih =>
    obtain ⟨hc, hcs⟩ := List.forall_mem_cons.mp h
    have other : (c == 'Σ') = false := beq_false_of_ne hc.ne_sigma
    rw [lowercaseFrom, ih hcs, other, lowerChar, if_pos hc.1, hc.2]
    rfl

theorem lowercase_of_small {cs : List Char} (h : ∀ c ∈ cs, IsSmall c) :
    lowercase (String.ofList cs) = String.ofList cs := by
  rw [lowercase, String.toList_ofList, lowercaseFrom_of_small h]

end Text

namespace Token

/-- A token that stands for something in the text; a name is in small letters. -/
def Proper (t : Token) : Prop := t ≠ .eof ∧ ∀ name, t = .ident name → Text.lowercase name = name

theorem toNat_lt_of_isNameChar {c : Char} (h : isNameChar c) : c.toNat < 0x80 := by
  change (((decide (65 ≤ c.val ∧ c.val ≤ 90) || (decide (97 ≤ c.val) && decide (c.val ≤ 122))) ||
    (decide (48 ≤ c.val) && decide (c.val ≤ 57))) || c == '_') = true at h
  simp only [Bool.or_eq_true, Bool.and_eq_true, decide_eq_true_eq, beq_iff_eq, UInt32.le_iff_toNat_le] at h
  change c.val.toNat < 0x80
  rcases h with (((upper | lower) | digit) | rfl)
  · exact Nat.lt_of_le_of_lt upper.2 (by decide)
  · exact Nat.lt_of_le_of_lt lower.2 (by decide)
  · exact Nat.lt_of_le_of_lt digit.2 (by decide)
  · decide

theorem proper_ofWord {word : List Char} (h : ∀ c ∈ word, isNameChar c) : (ofWord word).Proper := by
  have small : ∀ c ∈ word.map Char.toLower, Text.IsSmall c := by
    intro c hc
    obtain ⟨d, hd, rfl⟩ := List.mem_map.mp hc
    exact Text.isSmall_toLower (toNat_lt_of_isNameChar (h d hd))
  refine ⟨?_, fun name same => ?_⟩
  · unfold ofWord
    extract_lets
    split_ifs <;> nofun
  · unfold ofWord at same
    extract_lets at same
    split_ifs at same
    rw [← ident.inj same]
    exact Text.lowercase_of_small small

theorem readQuoted_token {quote : Char} {body slice cs : List Char} {r : Read}
    (h : readQuoted quote body slice cs = some r) : ∃ s, r.token = .text s := by
  fun_induction readQuoted quote body slice cs with
  | case1 => cases h
  | case2 _ _ _ _ ih => exact ih h
  | case3 => cases h
  | case4 => cases h; exact ⟨_, rfl⟩
  | case5 _ _ _ _ _ _ _ ih => exact ih h

theorem proper_read {pos : Nat} {c : Char} {rest : List Char} {r : Read}
    (h : read pos (c :: rest) = .ok r) : r.token.Proper := by
  generalize cons : c :: rest = cs at h
  revert h
  fun_cases read pos cs with
  | case1 => cases cons
  | case10 | case12 | case18 | case19 | case22 => nofun
  | case17 =>
    obtain ⟨s, text⟩ := readQuoted_token ‹_›
    intro h
    cases h
    exact text ▸ ⟨nofun, nofun⟩
  | case21 =>
    intro h
    cases h
    exact proper_ofWord (List.all_eq_true.mp List.all_takeWhile)
  | _ =>
    intro h
    cases h
    exact ⟨nofun, nofun⟩

end Token

theorem tokenizeFrom_ok {fuel pos : Nat} {done lexemes : List Lexeme} {cs : List Char}
    (h : tokenizeFrom fuel pos done cs = .ok lexemes) (hd : ∀ t ∈ done, t.token.Proper) :
    ∃ ts last, lexemes = ts ++ [⟨.eof, last⟩] ∧ ∀ t ∈ ts, t.token.Proper := by
  fun_induction tokenizeFrom fuel pos done cs with
  | case1 => cases h
  | case2 fuel pos done =>
    cases h
    exact ⟨done.reverse, pos, List.reverse_cons, fun t ht => hd t (List.mem_reverse.mp ht)⟩
  | case3 => cases h
  | case4 _ _ _ _ _ _ ih => exact ih h hd
  | case5 => cases h
  | case6 _ _ _ _ _ _ r read ih =>
    exact ih h (List.forall_mem_cons.mpr ⟨Token.proper_read read, hd⟩)

/-- **The end of the input is the last lexeme and no other, and names are in small letters.** -/
theorem tokenize_ok {expression : String} {lexemes : List Lexeme} (h : tokenize expression = .ok lexemes) :
    ∃ ts last, lexemes = ts ++ [⟨.eof, last⟩] ∧ ∀ t ∈ ts, t.token.Proper := by
  unfold tokenize at h
  split at h
  · cases h
  · exact tokenizeFrom_ok h nofun

end RecordGate
