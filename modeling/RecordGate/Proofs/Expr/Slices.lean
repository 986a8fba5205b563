import Mathlib.Data.String.Basic
import RecordGate.Proofs.Expr.Words

/-!
# The slices of an expression

An expression that is read consists of words with gaps between them, and nothing else (`tokenizeFrom_splits`). The other
way round, words with gaps between them are read as their tokens, whatever the gaps (`tokenizeFrom_assembled`). So the
positions of the tokens ascend and lie between characters, each word is read alone as its token, and words may be set
apart anew.

Main statement: `tokenize_partitions`.
-/

namespace RecordGate

open Token (IsWord Stops escaped)

/-- Nothing but gaps. -/
def Text.IsGap (cs : List Char) : Prop := ∀ c ∈ cs, isGap c = true

/-- A word of an expression, with its token and the gap before it. -/
structure SpacedWord where
  gap : List Char
  word : List Char
  token : Token

namespace SpacedWord

def source (p : SpacedWord) : List Char := p.gap ++ p.word

/-- The characters that parts make, with a gap at the end. -/
def assembled (parts : List SpacedWord) (tail : List Char) : List Char := parts.flatMap source ++ tail

/-- The lexemes of parts from a position on: each word begins behind its gap, and the end lies behind the last gap. -/
def lexemesFrom : (pos : Nat) → List SpacedWord → (tail : List Char) → List Lexeme
  | pos, [], tail => [⟨.eof, pos + byteLength tail⟩]
  | pos, p :: parts, tail => ⟨p.token, pos + byteLength p.gap⟩ :: lexemesFrom (pos + byteLength p.source) parts tail

/-- The words of parts behind other gaps. -/
def respaced (gaps : List (List Char)) (parts : List SpacedWord) : List SpacedWord :=
  (gaps.zip parts).map fun (gap, p) => { p with gap }

end SpacedWord

open SpacedWord

variable {cs gap tail : List Char} {p : SpacedWord} {parts : List SpacedWord} {pos fuel : Nat}
  {done lexemes : List Lexeme}

/-! ## Lengths in bytes -/

theorem byteLength_nil : byteLength [] = 0 := rfl

theorem byteLength_cons (c : Char) (cs : List Char) : byteLength (c :: cs) = c.utf8Size + byteLength cs := rfl

theorem byteLength_append (cs ds : List Char) : byteLength (cs ++ ds) = byteLength cs + byteLength ds := by
  induction cs with
  | nil => exact (Nat.zero_add _).symm
  | cons c cs ih => rw [List.cons_append, byteLength_cons, byteLength_cons, ih, Nat.add_assoc]

theorem byteLength_eq (cs : List Char) : byteLength cs = (String.ofList cs).utf8ByteSize := by
  rw [String.utf8ByteSize_ofList]
  induction cs with
  | nil => rfl
  | cons c cs ih => rw [byteLength_cons, ih, String.utf8Len_cons, Nat.add_comm]

theorem byteLength_toList (s : String) : byteLength s.toList = s.utf8ByteSize := by
  rw [byteLength_eq, String.ofList_toList]

theorem utf8Size_of_isGap {c : Char} (h : Text.isGap c = true) : c.utf8Size = 1 := by
  rcases Text.isGap_cases h with rfl | rfl | rfl | rfl <;> rfl

theorem Token.IsWord.byteLength_pos {word : List Char} {token : Token} (h : IsWord word token) :
    0 < byteLength word := by
  obtain ⟨c, cs, rfl, -⟩ := h.starts
  exact Nat.lt_of_lt_of_le c.utf8Size_pos (Nat.le_add_right ..)

/-! ## Words with gaps between them -/

/-- The characters are words with gaps around them. -/
structure Splits (cs : List Char) (parts : List SpacedWord) (tail : List Char) : Prop where
  whole : cs = assembled parts tail
  words : ∀ p ∈ parts, IsWord p.word p.token
  gaps : ∀ p ∈ parts, Text.IsGap p.gap
  rest : Text.IsGap tail

theorem assembled_cons (p : SpacedWord) (parts : List SpacedWord) (tail : List Char) :
    assembled (p :: parts) tail = p.gap ++ (p.word ++ assembled parts tail) := by
  simp [assembled, source]

/-- A gap is passed over. -/
theorem tokenizeFrom_gap (h : Text.IsGap gap) (cs : List Char) : tokenizeFrom (gap.length + fuel) pos done (gap ++ cs) =
    tokenizeFrom fuel (pos + byteLength gap) done cs := by
  induction gap generalizing pos with
  | nil => rw [List.length_nil, Nat.zero_add]; rfl
  | cons c gap ih =>
    obtain ⟨first, others⟩ := List.forall_mem_cons.mp h
    rw [List.length_cons, Nat.add_right_comm, List.cons_append, tokenizeFrom, if_pos first, ih others, byteLength_cons,
      utf8Size_of_isGap first, Nat.add_assoc]

/-- A word before a gap or the end is read. -/
theorem tokenizeFrom_word {word rest : List Char} {token : Token} (h : IsWord word token) (stops : Stops rest) :
    tokenizeFrom (fuel + 1) pos done (word ++ rest) =
      tokenizeFrom fuel (pos + byteLength word) (⟨token, pos⟩ :: done) rest := by
  have reads := h.reads pos rest stops
  obtain ⟨c, cs, rfl, notGap⟩ := h.starts
  rw [List.cons_append] at reads ⊢
  rw [tokenizeFrom, notGap, if_neg Bool.false_ne_true, reads]

theorem stops_assembled (gaps : ∀ p ∈ parts, Text.IsGap p.gap) (apart : ∀ p ∈ parts, p.gap ≠ [])
    (rest : Text.IsGap tail) : Stops (assembled parts tail) := by
  cases parts with
  | nil => exact fun c mem => rest c (List.mem_of_mem_head? mem)
  | cons p parts =>
    obtain ⟨c, gap, form⟩ := List.exists_cons_of_ne_nil (apart p List.mem_cons_self)
    rw [assembled_cons, form]
    rintro _ ⟨⟩
    exact gaps p List.mem_cons_self c (form ▸ List.mem_cons_self)

/-- **Words with gaps between them are read as their tokens.** -/
theorem tokenizeFrom_assembled (words : ∀ p ∈ parts, IsWord p.word p.token) (gaps : ∀ p ∈ parts, Text.IsGap p.gap)
    (apart : ∀ p ∈ parts.tail, p.gap ≠ []) (rest : Text.IsGap tail) (some : done = [] → parts ≠ [])
    (enough : (assembled parts tail).length ≤ fuel) :
    tokenizeFrom fuel pos done (assembled parts tail) = .ok (done.reverse ++ lexemesFrom pos parts tail) := by
  induction parts generalizing fuel pos done with
  | nil =>
    obtain ⟨more, rfl⟩ := Nat.exists_eq_add_of_le enough
    have skipped : tokenizeFrom (tail.length + more) pos done (tail ++ []) =
        tokenizeFrom more (pos + byteLength tail) done [] := tokenizeFrom_gap rest []
    rw [List.append_nil] at skipped
    have filled : done.isEmpty = false := by simpa using fun none => some none rfl
    refine skipped.trans ?_
    rw [tokenizeFrom, filled, if_neg Bool.false_ne_true, List.reverse_cons]
    rfl
  | cons p parts ih =>
    obtain ⟨word, words⟩ := List.forall_mem_cons.mp words
    obtain ⟨gap, gaps⟩ := List.forall_mem_cons.mp gaps
    rw [List.tail_cons] at apart
    obtain ⟨c, cs, form, -⟩ := word.starts
    rw [assembled_cons, List.length_append, List.length_append] at enough
    -- The gap takes one unit of fuel for each character, the word one for all of its characters.
    obtain ⟨more, rfl⟩ : ∃ more, fuel = p.gap.length + (more + 1) := ⟨fuel - p.gap.length - 1, by
      rw [form, List.length_cons] at enough
      omega⟩
    have enough : (assembled parts tail).length ≤ more := by
      rw [form, List.length_cons] at enough
      omega
    rw [assembled_cons, tokenizeFrom_gap gap, tokenizeFrom_word word (stops_assembled gaps apart rest),
      ih words gaps (fun q mem => apart q (List.mem_of_mem_tail mem)) (absurd · (List.cons_ne_nil _ _)) enough,
      List.reverse_cons, lexemesFrom, SpacedWord.source, byteLength_append, ← Nat.add_assoc, List.append_assoc]
    rfl

/-- **An expression that is read consists of words and gaps**, and its lexemes are those of its words. -/
theorem tokenizeFrom_splits (h : tokenizeFrom fuel pos done cs = .ok lexemes) :
    ∃ parts tail, Splits cs parts tail ∧ lexemes = done.reverse ++ lexemesFrom pos parts tail ∧
      (done = [] → parts ≠ []) := by
  fun_induction tokenizeFrom fuel pos done cs with
  | case1 => cases h
  -- The end of the input, a character of a gap and a word are the cases that succeed.
  | case2 fuel pos done some =>
    cases h
    refine ⟨[], [], ⟨rfl, List.forall_mem_nil _, List.forall_mem_nil _, List.forall_mem_nil _⟩, List.reverse_cons,
      fun none => ?_⟩
    rw [none] at some
    exact absurd rfl some
  | case3 => cases h
  | case4 fuel pos done c cs gap ih =>
    obtain ⟨parts, tail, splits, rfl, filled⟩ := ih h
    cases parts with
    | nil =>
      refine ⟨[], c :: tail, ⟨congrArg (c :: ·) splits.whole, List.forall_mem_nil _, List.forall_mem_nil _,
        List.forall_mem_cons.mpr ⟨gap, splits.rest⟩⟩, ?_, filled⟩
      rw [lexemesFrom, lexemesFrom, byteLength_cons, utf8Size_of_isGap gap, Nat.add_assoc]
    | cons p parts =>
      obtain ⟨word, words⟩ := List.forall_mem_cons.mp splits.words
      obtain ⟨front, gaps⟩ := List.forall_mem_cons.mp splits.gaps
      refine ⟨⟨c :: p.gap, p.word, p.token⟩ :: parts, tail, ⟨congrArg (c :: ·) splits.whole,
        List.forall_mem_cons.mpr ⟨word, words⟩,
        List.forall_mem_cons.mpr ⟨List.forall_mem_cons.mpr ⟨gap, front⟩, gaps⟩, splits.rest⟩, ?_,
        fun _ => List.cons_ne_nil _ _⟩
      simp only [lexemesFrom, SpacedWord.source, List.cons_append, byteLength_cons, utf8Size_of_isGap gap,
        Nat.add_assoc]
  | case5 => cases h
  | case6 fuel pos done c cs notGap r read ih =>
    obtain ⟨parts, tail, splits, rfl, -⟩ := ih h
    obtain ⟨taken, word⟩ := Token.isWord_of_read read (by simpa using notGap)
    refine ⟨⟨[], r.slice, r.token⟩ :: parts, tail, ⟨?_, List.forall_mem_cons.mpr ⟨word, splits.words⟩,
      List.forall_mem_cons.mpr ⟨List.forall_mem_nil _, splits.gaps⟩, splits.rest⟩, ?_, fun _ => List.cons_ne_nil _ _⟩
    · rw [assembled_cons, ← splits.whole]
      exact taken.symm
    · rw [List.reverse_cons, List.append_assoc]
      rfl

/-! ## Positions -/

/-- Every lexeme stands between a beginning of the characters and the others. -/
theorem cut_of_mem_lexemesFrom {l : Lexeme} (h : l ∈ lexemesFrom pos parts tail) :
    ∃ before after, assembled parts tail = before ++ after ∧ l.pos = pos + byteLength before := by
  induction parts generalizing pos with
  | nil =>
    obtain rfl := List.mem_singleton.mp h
    exact ⟨tail, [], (List.append_nil tail).symm, rfl⟩
  | cons p parts ih =>
    rw [assembled_cons]
    rcases List.mem_cons.mp h with rfl | later
    · exact ⟨p.gap, _, rfl, rfl⟩
    · obtain ⟨before, after, cut, at_⟩ := ih later
      refine ⟨p.gap ++ (p.word ++ before), after, by simp [cut], ?_⟩
      rw [at_, ← List.append_assoc, ← SpacedWord.source, byteLength_append, Nat.add_assoc]

theorem pairwise_lexemesFrom (words : ∀ p ∈ parts, IsWord p.word p.token) :
    (lexemesFrom pos parts tail).Pairwise fun a b => a.pos < b.pos := by
  induction parts generalizing pos with
  | nil => exact List.pairwise_singleton ..
  | cons p parts ih =>
    obtain ⟨word, words⟩ := List.forall_mem_cons.mp words
    refine List.pairwise_cons.mpr ⟨fun l later => ?_, ih words⟩
    obtain ⟨before, -, -, at_⟩ := cut_of_mem_lexemesFrom later
    have := word.byteLength_pos
    rw [SpacedWord.source, byteLength_append] at at_
    dsimp only
    omega

theorem map_token_lexemesFrom (parts : List SpacedWord) :
    (lexemesFrom pos parts tail).map Lexeme.token = parts.map SpacedWord.token ++ [.eof] := by
  induction parts generalizing pos with
  | nil => rfl
  | cons p parts ih => rw [lexemesFrom, List.map_cons, ih]; rfl

/-- The end of the input is the last lexeme and no other, and lies behind everything. -/
theorem lexemesFrom_ends (pos : Nat) (tail : List Char) (words : ∀ p ∈ parts, IsWord p.word p.token) : ∃ ts,
    lexemesFrom pos parts tail = ts ++ [⟨.eof, pos + byteLength (assembled parts tail)⟩] ∧
      ∀ t ∈ ts, t.token ≠ .eof := by
  induction parts generalizing pos with
  | nil => exact ⟨[], rfl, nofun⟩
  | cons p parts ih =>
    obtain ⟨word, words⟩ := List.forall_mem_cons.mp words
    obtain ⟨ts, form, proper⟩ := @ih (pos + byteLength p.source) words
    refine ⟨⟨p.token, pos + byteLength p.gap⟩ :: ts, ?_, List.forall_mem_cons.mpr ⟨word.proper, proper⟩⟩
    rw [lexemesFrom, form, assembled_cons, ← List.append_assoc, byteLength_append, ← SpacedWord.source, Nat.add_assoc]
    rfl

/-! ## Other gaps -/

section Respaced

variable {gaps : List (List Char)}

theorem mem_respaced (h : p ∈ respaced gaps parts) :
    p.gap ∈ gaps ∧ ∃ q ∈ parts, p.word = q.word ∧ p.token = q.token := by
  obtain ⟨⟨gap, q⟩, mem, rfl⟩ := List.mem_map.mp h
  obtain ⟨front, behind⟩ := List.of_mem_zip mem
  exact ⟨front, q, behind, rfl, rfl⟩

theorem tail_respaced (gaps : List (List Char)) (parts : List SpacedWord) :
    (respaced gaps parts).tail = respaced gaps.tail parts.tail := by
  rw [respaced, ← List.map_tail, List.tail_zip, respaced]

theorem map_token_respaced (same : gaps.length = parts.length) :
    (respaced gaps parts).map SpacedWord.token = parts.map SpacedWord.token := by
  calc (respaced gaps parts).map SpacedWord.token
      = ((gaps.zip parts).map Prod.snd).map SpacedWord.token := by simp only [respaced, List.map_map]; rfl
    _ = parts.map SpacedWord.token := by rw [List.map_snd_zip same.ge]

end Respaced

/-! ## Expressions -/

/-- The expression is the words of parts with gaps around them, the lexemes are those of the words, and the words are
read as the same tokens alone and behind other gaps. -/
structure SlicedInto (expression : String) (lexemes : List Lexeme) (parts : List SpacedWord) (tail : List Char) :
    Prop where
  whole : expression.toList = assembled parts tail
  gaps : ∀ p ∈ parts, Text.IsGap p.gap
  rest : Text.IsGap tail
  read : lexemes = lexemesFrom 0 parts tail
  alone : ∀ p ∈ parts, tokenize (String.ofList p.word) = .ok [⟨p.token, 0⟩, ⟨.eof, byteLength p.word⟩]
  again : ∀ (gaps : List (List Char)) (tail : List Char), gaps.length = parts.length → (∀ gap ∈ gaps, Text.IsGap gap) →
    (∀ gap ∈ gaps.tail, gap ≠ []) → Text.IsGap tail →
    (String.ofList (assembled (respaced gaps parts) tail)).utf8ByteSize ≤ maxExpressionBytes →
    ∃ others, tokenize (String.ofList (assembled (respaced gaps parts) tail)) = .ok others ∧
      others.map Lexeme.token = lexemes.map Lexeme.token

/-- The lexemes partition the expression: they stand one behind the other between characters, the end of the input is
the last and no other, and the rest of the expression is gaps. -/
structure Partitioned (expression : String) (lexemes : List Lexeme) : Prop where
  ascending : lexemes.Pairwise fun a b => a.pos < b.pos
  boundaries : ∀ l ∈ lexemes, String.Pos.Raw.IsValid expression ⟨l.pos⟩
  ends : ∃ ts, lexemes = ts ++ [⟨.eof, expression.utf8ByteSize⟩] ∧ ∀ t ∈ ts, t.token ≠ .eof
  slices : ∃ parts tail, SlicedInto expression lexemes parts tail

theorem tokenize_of_small {expression : String} (h : expression.utf8ByteSize ≤ maxExpressionBytes) :
    tokenize expression = tokenizeFrom expression.length 0 [] expression.toList := if_neg h.not_gt

theorem tokenize_assembled (words : ∀ p ∈ parts, IsWord p.word p.token) (gaps : ∀ p ∈ parts, Text.IsGap p.gap)
    (apart : ∀ p ∈ parts.tail, p.gap ≠ []) (rest : Text.IsGap tail) (some : parts ≠ [])
    (small : (String.ofList (assembled parts tail)).utf8ByteSize ≤ maxExpressionBytes) :
    tokenize (String.ofList (assembled parts tail)) = .ok (lexemesFrom 0 parts tail) := by
  rw [tokenize_of_small small, String.toList_ofList]
  exact tokenizeFrom_assembled words gaps apart rest (fun _ => some) String.length_ofList.ge

/-- A word is read alone. -/
theorem Token.IsWord.alone {word : List Char} {token : Token} (h : IsWord word token)
    (small : (String.ofList word).utf8ByteSize ≤ maxExpressionBytes) :
    tokenize (String.ofList word) = .ok [⟨token, 0⟩, ⟨.eof, byteLength word⟩] := by
  have whole : assembled [⟨[], word, token⟩] [] = word := by simp [assembled, source]
  have read : tokenize (String.ofList (assembled [⟨[], word, token⟩] [])) =
      .ok (lexemesFrom 0 [⟨[], word, token⟩] []) :=
    tokenize_assembled (List.forall_mem_singleton.mpr h) (List.forall_mem_singleton.mpr nofun) nofun nofun
      (List.cons_ne_nil _ _) (by rwa [whole])
  rw [whole] at read
  simpa [lexemesFrom, byteLength_nil, source] using read

/-- **An expression of words and gaps is partitioned by its lexemes.** -/
theorem partitioned_of_splits {expression : String} (h : Splits expression.toList parts tail) (some : parts ≠ [])
    (small : expression.utf8ByteSize ≤ maxExpressionBytes) :
    Partitioned expression (lexemesFrom 0 parts tail) := by
  have size : byteLength (assembled parts tail) = expression.utf8ByteSize := by rw [← h.whole, byteLength_toList]
  refine ⟨pairwise_lexemesFrom h.words, fun l mem => ?_, ?_, parts, tail, ?_⟩
  · obtain ⟨before, after, cut, at_⟩ := cut_of_mem_lexemesFrom mem
    refine String.Pos.Raw.isValid_iff_exists_append.mpr ⟨String.ofList before, String.ofList after, ?_, ?_⟩
    · rw [← String.ofList_append, ← cut, ← h.whole, String.ofList_toList]
    · rw [at_, Nat.zero_add, byteLength_eq]
      rfl
  · have ends := lexemesFrom_ends 0 tail h.words
    rwa [size, Nat.zero_add] at ends
  refine ⟨h.whole, h.gaps, h.rest, rfl, fun p mem => (h.words p mem).alone ?_,
    fun gaps end_ same blank apart rest small => ?_⟩
  · obtain ⟨front, behind, rfl⟩ := List.append_of_mem mem
    have whole : byteLength p.word ≤ expression.utf8ByteSize := by
      rw [← size]
      simp only [assembled, source, List.flatMap_append, List.flatMap_cons, byteLength_append]
      omega
    rw [← byteLength_eq]
    exact whole.trans small
  · refine ⟨_, tokenize_assembled (fun p mem => ?_) (fun p mem => blank _ (mem_respaced mem).1) (fun p mem => ?_) rest
      ?_ small, ?_⟩
    · obtain ⟨-, q, origin, word, token⟩ := mem_respaced mem
      rw [word, token]
      exact h.words q origin
    · rw [tail_respaced] at mem
      exact apart _ (mem_respaced mem).1
    · intro none
      have := map_token_respaced same
      rw [none] at this
      exact some (List.map_eq_nil_iff.mp this.symm)
    · rw [map_token_lexemesFrom, map_token_lexemesFrom, map_token_respaced same]

/--
**The tokens of an expression partition it**, whatever the expression that is read; and the literal of a text, in either
quotes, is read as this text.
-/
theorem tokenize_partitions :
    (∀ expression lexemes, tokenize expression = .ok lexemes → Partitioned expression lexemes) ∧
    ∀ (s : String) (quote : Char), quote = '\'' ∨ quote = '"' →
      (Token.quoted quote s).utf8ByteSize ≤ maxExpressionBytes →
      tokenize (Token.quoted quote s) = .ok [⟨.text s, 0⟩, ⟨.eof, (Token.quoted quote s).utf8ByteSize⟩] := by
  refine ⟨fun expression lexemes h => ?_, fun s quote quotes small => ?_⟩
  · rw [tokenize] at h
    split at h
    · cases h
    next fits =>
      obtain ⟨parts, tail, splits, rfl, some⟩ := tokenizeFrom_splits h
      exact partitioned_of_splits splits (some rfl) (Nat.not_lt.mp fits)
  · rw [Token.quoted, ← byteLength_eq]
    exact (Token.isWord_escaped quotes s).alone small

/-- A text with an escaped quote and a letter of two bytes, a keyword, and words without gaps between them. -/
theorem tokenize_partitions_mixed :
    let expression := "Name == 'é\\'' and x<=1"
    let lexemes := [⟨.ident "name", 0⟩, ⟨.op .eq, 5⟩, ⟨.text "é'", 8⟩, ⟨.op .and, 15⟩, ⟨.ident "x", 19⟩, ⟨.op .le, 20⟩,
      ⟨.number "1", 22⟩, ⟨.eof, 23⟩]
    tokenize expression = .ok lexemes ∧ Partitioned expression lexemes ∧
      tokenize "\"a \\\"b\\\" \\\\ é'\"" = .ok [⟨.text "a \"b\" \\ é'", 0⟩, ⟨.eof, 16⟩] := by
  intro expression lexemes
  have read : tokenize expression = .ok lexemes := by decide +kernel
  exact ⟨read, tokenize_partitions.1 _ _ read,
    tokenize_partitions.2 "a \"b\" \\ é'" '"' (.inr rfl) (by decide +kernel)⟩

end RecordGate
