import RecordGate.Proofs.Expr.Tokens
import RecordGate.Proofs.Value

/-!
# Words

The characters of a token are read as this token wherever they stand, as long as a gap or the end of the input is behind
them (`Token.IsWord`). What is read as a token is a word, and no character of it is dropped (`Token.isWord_of_read`). A
text between quotes, with a backslash before each backslash and each such quote, is a word of this text
(`Token.isWord_escaped`).
-/

namespace RecordGate

theorem Text.isGap_cases {c : Char} (h : isGap c = true) : c = ' ' ∨ c = '\t' ∨ c = '\n' ∨ c = '\r' := by
  simp only [isGap, Bool.or_eq_true, beq_iff_eq] at h
  tauto

namespace Token

/-- The characters begin with a gap, if there are any. -/
def Stops (rest : List Char) : Prop := ∀ c ∈ rest.head?, Text.isGap c = true

/-- The characters are read as the token, wherever they stand before a gap or the end. -/
structure IsWord (word : List Char) (token : Token) : Prop where
  starts : ∃ c cs, word = c :: cs ∧ Text.isGap c = false
  proper : token ≠ .eof
  reads : ∀ pos rest, Stops rest → read pos (word ++ rest) = .ok ⟨token, word, rest⟩

variable {c quote : Char} {cs rest : List Char} {pos : Nat} {r : Read}

theorem isNumberChar_of_isGap (h : Text.isGap c = true) : isNumberChar c = false := by
  rcases Text.isGap_cases h with rfl | rfl | rfl | rfl <;> rfl

theorem isNameChar_of_isGap (h : Text.isGap c = true) : isNameChar c = false := by
  rcases Text.isGap_cases h with rfl | rfl | rfl | rfl <;> rfl

theorem isNameChar_of_isNameStart (h : isNameStart c = true) : isNameChar c = true := by
  simp only [isNameStart, isNameChar, Char.isAlphanum, Bool.or_eq_true] at h ⊢
  tauto

/-! ## Runs of characters -/

/-- The characters that signs are made of. -/
def signs : List Char := ['(', ')', ',', '+', '-', '*', '/', '=', '!', '<', '>']

/-- What does not begin with a sign is a quoted text, a number or a word. -/
theorem read_other (h : c ∉ signs) : read pos (c :: cs) =
    if c == '\'' || c == '"' then
      match readQuoted c [] [c] cs with
      | some r => .ok r
      | none => .error (.unterminated pos)
    else if isNumberChar c then
      let raw := (c :: cs).takeWhile isNumberChar
      if raw.count '.' > 1 || raw == ['.'] then .error (.invalidNumber (String.ofList raw) pos)
      else .ok ⟨.number (String.ofList raw), raw, (c :: cs).dropWhile isNumberChar⟩
    else if isNameStart c then
      let word := (c :: cs).takeWhile isNameChar
      .ok ⟨ofWord word, word, (c :: cs).dropWhile isNameChar⟩
    else .error (.unexpected .token (String.singleton c) pos) := by
  unfold read
  split
  all_goals
    rename_i same
    cases same
  -- Every case but the last begins with a sign.
  all_goals first
    | exact absurd (by decide) h
    | rfl

/-- A character of a class is none of the given ones. -/
theorem notMem_of_all {p : Char → Bool} {ds : List Char} (none : ds.all (!p ·) = true) (h : p c = true) : c ∉ ds := by
  intro mem
  have := List.all_eq_true.mp none c mem
  simp [h] at this

theorem read_number (h : isNumberChar c = true) : read pos (c :: cs) =
    let raw := (c :: cs).takeWhile isNumberChar
    if raw.count '.' > 1 || raw == ['.'] then .error (.invalidNumber (String.ofList raw) pos)
    else .ok ⟨.number (String.ofList raw), raw, (c :: cs).dropWhile isNumberChar⟩ := by
  have noQuote : c ∉ ['\'', '"'] := notMem_of_all (by decide) h
  rw [read_other (notMem_of_all (by decide) h), if_neg (by simpa using noQuote), if_pos h]

theorem read_name (noNumber : isNumberChar c = false) (h : isNameStart c = true) : read pos (c :: cs) =
    let word := (c :: cs).takeWhile isNameChar
    .ok ⟨ofWord word, word, (c :: cs).dropWhile isNameChar⟩ := by
  have noQuote : c ∉ ['\'', '"'] := notMem_of_all (by decide) h
  rw [read_other (notMem_of_all (by decide) h), if_neg (by simpa using noQuote), noNumber, if_neg Bool.false_ne_true,
    if_pos h]

theorem read_quote (h : c = '\'' ∨ c = '"') (body : readQuoted c [] [c] cs = some r) : read pos (c :: cs) = .ok r := by
  have other : c ∉ signs := by rcases h with rfl | rfl <;> decide
  rw [read_other other, if_pos (by simpa using h), body]

/-! ## Quoted texts -/

section Quoted

variable {body slice : List Char}

theorem readQuoted_escape : readQuoted quote body slice ('\\' :: c :: cs) =
    readQuoted quote (c :: body) (c :: '\\' :: slice) cs := by
  rw [readQuoted]

theorem readQuoted_close (h : quote ≠ '\\') : readQuoted quote body slice (quote :: cs) =
    some ⟨.text (String.ofList body.reverse), (quote :: slice).reverse, cs⟩ := by
  rw [readQuoted, if_neg (by simpa using h), if_pos (beq_self_eq_true quote)]
  exact fun _ _ same => absurd same h

theorem readQuoted_plain (h : c ≠ '\\') (h' : c ≠ quote) : readQuoted quote body slice (c :: cs) =
    readQuoted quote (c :: body) (c :: slice) cs := by
  rw [readQuoted, if_neg (by simpa using h), if_neg (by simpa using h')]
  exact fun _ _ same => absurd same h

/-- What is read up to the closing quote is read alike whatever is behind it. -/
theorem readQuoted_reads (h : readQuoted quote body slice cs = some r) :
    ∃ taken, cs = taken ++ r.rest ∧ r.slice = slice.reverse ++ taken ∧
      ∀ rest, readQuoted quote body slice (taken ++ rest) = some ⟨r.token, r.slice, rest⟩ := by
  fun_induction readQuoted quote body slice cs with
  | case1 | case3 => cases h
  | case2 body slice c cs ih =>
    obtain ⟨taken, rfl, grown, reads⟩ := ih h
    refine ⟨'\\' :: c :: taken, rfl, by simp [grown], fun rest => ?_⟩
    exact readQuoted_escape.trans (reads rest)
  | case4 body slice c cs plain notBackslash closes =>
    cases h
    obtain rfl := beq_iff_eq.mp closes
    refine ⟨[c], rfl, List.reverse_cons, fun rest => readQuoted_close (by simpa using notBackslash)⟩
  | case5 body slice c cs plain notBackslash closes ih =>
    obtain ⟨taken, rfl, grown, reads⟩ := ih h
    refine ⟨c :: taken, rfl, by simp [grown], fun rest => ?_⟩
    exact (readQuoted_plain (by simpa using notBackslash) (by simpa using closes)).trans (reads rest)

/-- The characters of a text between quotes. -/
def escaped (quote : Char) (cs : List Char) : List Char :=
  cs.flatMap fun c => if c = '\\' ∨ c = quote then ['\\', c] else [c]

/-- The literal of a text. -/
def quoted (quote : Char) (s : String) : String := String.ofList (quote :: (escaped quote s.toList ++ [quote]))

/-- **What stands escaped between quotes is read as it was.** -/
theorem readQuoted_escaped (notBackslash : quote ≠ '\\') (rest : List Char) :
    readQuoted quote body slice (escaped quote cs ++ quote :: rest) =
      some ⟨.text (String.ofList (body.reverse ++ cs)), slice.reverse ++ (escaped quote cs ++ [quote]), rest⟩ := by
  induction cs generalizing body slice with
  | nil => simp [escaped, readQuoted_close notBackslash]
  | cons c cs ih =>
    rw [escaped, List.flatMap_cons, ← escaped]
    split
    · exact readQuoted_escape.trans (ih.trans (by simp))
    · next plain =>
      obtain ⟨other, open_⟩ := not_or.mp plain
      exact (readQuoted_plain other open_).trans (ih.trans (by simp))

end Quoted

/-! ## Words -/

/-- A run of characters ends where a gap begins, if gaps are no part of it. -/
theorem Stops.ends {p : Char → Bool} (h : Stops rest) (gap : ∀ c, Text.isGap c = true → p c = false) :
    ∀ c ∈ rest.head?, p c = false := fun c mem => gap c (h c mem)

/-- A sign that a second character could make another is not one of these before a gap. -/
theorem Stops.not_equals (h : Stops rest) (cs : List Char) : rest ≠ '=' :: cs := by
  rintro rfl
  exact absurd (h '=' rfl) (by decide)

theorem isWord_number (inside : ∀ d ∈ c :: cs, isNumberChar d = true)
    (fine : ¬((c :: cs).count '.' > 1 || c :: cs == ['.']) = true) :
    IsWord (c :: cs) (.number (String.ofList (c :: cs))) := by
  have first := inside c List.mem_cons_self
  refine ⟨⟨c, cs, rfl, Bool.eq_false_iff.mpr fun gap => ?_⟩, nofun, fun pos rest stops => ?_⟩
  · rw [isNumberChar_of_isGap gap] at first
    cases first
  · have ends := stops.ends fun _ => isNumberChar_of_isGap
    rw [List.cons_append, read_number first, ← List.cons_append]
    dsimp only
    rw [takeWhile_run inside ends, dropWhile_run inside ends, if_neg fine]

theorem isWord_name (inside : ∀ d ∈ c :: cs, isNameChar d = true) (noNumber : isNumberChar c = false)
    (start : isNameStart c = true) : IsWord (c :: cs) (ofWord (c :: cs)) := by
  refine ⟨⟨c, cs, rfl, Bool.eq_false_iff.mpr fun gap => ?_⟩, (proper_ofWord inside).1, fun pos rest stops => ?_⟩
  · have first := inside c List.mem_cons_self
    rw [isNameChar_of_isGap gap] at first
    cases first
  · have ends := stops.ends fun _ => isNameChar_of_isGap
    rw [List.cons_append, read_name noNumber start, ← List.cons_append]
    dsimp only
    rw [takeWhile_run inside ends, dropWhile_run inside ends]

theorem isWord_quote (h : c = '\'' ∨ c = '"') (body : readQuoted c [] [c] cs = some r) :
    r.slice ++ r.rest = c :: cs ∧ IsWord r.slice r.token := by
  obtain ⟨taken, rfl, slice, reads⟩ := readQuoted_reads body
  obtain ⟨s, text⟩ := readQuoted_token body
  change r.slice = c :: taken at slice
  refine ⟨by rw [slice, List.cons_append], ⟨c, taken, slice, ?_⟩, text ▸ nofun, fun pos rest _ => ?_⟩
  · rcases h with rfl | rfl <;> rfl
  · rw [slice, List.cons_append, ← slice]
    exact read_quote h (reads rest)

/-- **A text between quotes is a word**, when there is a backslash before each backslash and each such quote in it. -/
theorem isWord_escaped (h : quote = '\'' ∨ quote = '"') (s : String) :
    IsWord (quote :: (escaped quote s.toList ++ [quote])) (.text s) := by
  have notBackslash : quote ≠ '\\' := by rcases h with rfl | rfl <;> decide
  have body : readQuoted quote [] [quote] (escaped quote s.toList ++ [quote]) =
      some ⟨.text (String.ofList s.toList), quote :: (escaped quote s.toList ++ [quote]), []⟩ :=
    readQuoted_escaped notBackslash []
  rw [String.ofList_toList] at body
  exact (isWord_quote h body).2

/-- **What is read as a token is a word**, and the rest is what is behind it. -/
theorem isWord_of_read (h : read pos (c :: cs) = .ok r) (notGap : Text.isGap c = false) :
    r.slice ++ r.rest = c :: cs ∧ IsWord r.slice r.token := by
  generalize cons : c :: cs = input at h
  revert h
  fun_cases read pos input with
  | case1 => cases cons
  | case10 | case12 | case18 | case19 | case22 =>
    intro h
    cases h
  | case17 =>
    rename_i quotes _ body
    intro h
    cases h
    exact isWord_quote (by simpa using quotes) body
  | case20 =>
    rename_i number raw fine
    intro h
    cases h
    obtain ⟨rfl, rfl⟩ := List.cons.inj cons
    have inside : ∀ d ∈ raw, isNumberChar d = true := List.all_eq_true.mp List.all_takeWhile
    have run : raw = c :: cs.takeWhile isNumberChar := List.takeWhile_cons_of_pos number
    refine ⟨List.takeWhile_append_dropWhile, ?_⟩
    dsimp only
    clear_value raw
    subst run
    exact isWord_number inside fine
  | case21 =>
    rename_i noNumber start word
    intro h
    cases h
    obtain ⟨rfl, rfl⟩ := List.cons.inj cons
    have inside : ∀ d ∈ word, isNameChar d = true := List.all_eq_true.mp List.all_takeWhile
    have run : word = c :: cs.takeWhile isNameChar := List.takeWhile_cons_of_pos (isNameChar_of_isNameStart start)
    refine ⟨List.takeWhile_append_dropWhile, ?_⟩
    dsimp only
    clear_value word
    subst run
    exact isWord_name inside (by simpa using noNumber) start
  | case14 | case16 =>
    intro h
    cases h
    cases cons
    refine ⟨rfl, ⟨_, _, rfl, notGap⟩, Token.noConfusion, fun pos rest stops => ?_⟩
    change read pos (_ :: rest) = _
    rw [read]
    exact stops.not_equals
  | _ =>
    intro h
    cases h
    cases cons
    exact ⟨rfl, ⟨_, _, rfl, notGap⟩, Token.noConfusion, fun pos rest stops => rfl⟩

end Token

end RecordGate
