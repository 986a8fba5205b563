import Mathlib.Data.List.TakeDrop
import RecordGate.Proofs.Text.Blank
import RecordGate.Proofs.Value
import RecordGate.Rule.Compiled

/-!
# Messages of violations

A template is cut from left to right into texts and slots, a slot running from a brace that opens to the next one that
closes (`TemplatePiece.Cut`). There is one such cut of every template, and no character of the template is lost in it. A
message is the cut with each known slot replaced by what it stands for; nothing that was put in is looked at again.

Main statement: `CompiledRule.message_renders`.
-/

namespace RecordGate

/-- A piece of a template. -/
inductive TemplatePiece where
  /-- Characters that stand for themselves. -/
  | text (cs : List Char)
  /-- What stands between braces. -/
  | slot (inner : List Char)

namespace TemplatePiece

/-- The piece as the template has it. -/
def source : TemplatePiece → List Char
  | text cs => cs
  | slot inner => '{' :: inner ++ ['}']

/-- What a slot stands for, if anything: the id of the rule, or the value of a field of the row. -/
def value? (ruleId : String) (row : Record Value) (inner : List Char) : Option String :=
  let key := Text.trim (String.ofList inner)
  if key = "rule_id" then some ruleId else (row.get? key).map Value.display

/-- The piece as a message has it. A slot that stands for nothing stays as it is. -/
def render (ruleId : String) (row : Record Value) : TemplatePiece → List Char
  | text cs => cs
  | slot inner =>
    match value? ruleId row inner with
    | some value => value.toList
    | none => (slot inner).source

/-- How a template is cut from left to right. -/
inductive Cut : List Char → List TemplatePiece → Prop
  /-- No brace opens. -/
  | plain {front : List Char} : '{' ∉ front → Cut front [text front]
  /-- The first brace that opens is not closed, so all behind it is text. -/
  | unclosed {front inner : List Char} : '{' ∉ front → '}' ∉ inner →
      Cut (front ++ '{' :: inner) [text front, text ('{' :: inner)]
  /-- The first brace that opens is closed by the next one that closes, and what is behind it is cut in turn. -/
  | slot {front inner rest : List Char} {pieces : List TemplatePiece} : '{' ∉ front → '}' ∉ inner →
      Cut rest pieces → Cut (front ++ '{' :: (inner ++ '}' :: rest)) (text front :: slot inner :: pieces)

/-! ## One cut of every template -/

theorem forall_bne_of_notMem {c : Char} {cs : List Char} (h : c ∉ cs) : ∀ d ∈ cs, (d != c) = true := fun _ mem =>
  bne_iff_ne.mpr fun same => h (same ▸ mem)

theorem bne_head_self (c : Char) (rest : List Char) : ∀ d ∈ (c :: rest).head?, (d != c) = false := by
  rintro _ ⟨⟩
  exact bne_self_eq_false c

/-- Two texts that split at their first character of a kind split alike. -/
theorem split_inj {c : Char} {front front' rest rest' : List Char} (h : c ∉ front) (h' : c ∉ front')
    (same : front ++ c :: rest = front' ++ c :: rest') : front = front' ∧ rest = rest' := by
  obtain ⟨fronts, rests⟩ := append_inj_of_runs (forall_bne_of_notMem h) (forall_bne_of_notMem h')
    (bne_head_self c rest) (bne_head_self c rest') same
  exact ⟨fronts, (List.cons.inj rests).2⟩

variable {template : List Char} {pieces others : List TemplatePiece}

theorem exists_cut (template : List Char) : ∃ pieces, Cut template pieces := by
  induction short : template.length using Nat.strong_induction_on generalizing template with
  | _ length ih =>
    by_cases opens : '{' ∈ template
    · obtain ⟨front, after, rfl, first⟩ := List.eq_append_cons_of_mem opens
      by_cases closes : '}' ∈ after
      · obtain ⟨inner, rest, rfl, next⟩ := List.eq_append_cons_of_mem closes
        have shorter : rest.length < length := by
          simp only [← short, List.length_append, List.length_cons]
          omega
        obtain ⟨pieces, cut⟩ := ih rest.length shorter rest rfl
        exact ⟨_, .slot first next cut⟩
      · exact ⟨_, .unclosed first closes⟩
    · exact ⟨_, .plain opens⟩

/-- **A template is cut in one way only.** -/
theorem Cut.unique (h : Cut template pieces) (h' : Cut template others) : others = pieces := by
  induction h generalizing others with
  | @plain front first =>
    generalize same : front = template at h'
    cases h' with
    | plain => rfl
    | unclosed | slot => simp [same] at first
  | @unclosed front inner first open_ =>
    generalize same : front ++ '{' :: inner = template at h'
    cases h' with
    | plain first' => simp [← same] at first'
    | unclosed first' =>
      obtain ⟨rfl, rfl⟩ := split_inj first first' same
      rfl
    | slot first' =>
      obtain ⟨-, rfl⟩ := split_inj first first' same
      simp at open_
  | @slot front inner rest pieces first next cut ih =>
    generalize same : front ++ '{' :: (inner ++ '}' :: rest) = template at h'
    cases h' with
    | plain first' => simp [← same] at first'
    | unclosed first' open_ =>
      obtain ⟨-, rfl⟩ := split_inj first first' same
      simp at open_
    | slot first' next' cut' =>
      obtain ⟨rfl, behind⟩ := split_inj first first' same
      obtain ⟨rfl, rfl⟩ := split_inj next next' behind
      rw [ih cut']

/-- **No character is lost** in a cut. -/
theorem Cut.flatMap_source (h : Cut template pieces) : pieces.flatMap source = template := by
  induction h with
  | plain | unclosed => simp [source]
  | slot _ _ _ ih => simp [source, ih]

end TemplatePiece

/-! ## Filling in -/

namespace CompiledRule

open TemplatePiece

variable {template : List Char} {pieces : List TemplatePiece} {ruleId : String} {row : Record Value}

theorem span_of_notMem {c : Char} {cs : List Char} (h : c ∉ cs) : cs.span (· != c) = (cs, []) := by
  rw [List.span_eq_takeWhile_dropWhile, List.takeWhile_eq_self_iff.mpr (forall_bne_of_notMem h),
    List.dropWhile_eq_nil_iff.mpr (forall_bne_of_notMem h)]

theorem span_cons_of_notMem {c : Char} {front : List Char} (h : c ∉ front) (rest : List Char) :
    (front ++ c :: rest).span (· != c) = (front, c :: rest) := by
  rw [List.span_eq_takeWhile_dropWhile, takeWhile_run (forall_bne_of_notMem h) (bne_head_self c rest),
    dropWhile_run (forall_bne_of_notMem h) (bne_head_self c rest)]

/-- What a slot gives way to is what is filled in. -/
theorem render_slot (inner : List Char) : render ruleId row (slot inner) =
    if Text.trim (String.ofList inner) == "rule_id" then ruleId.toList
    else
      match row.get? (Text.trim (String.ofList inner)) with
      | some v => v.display.toList
      | none => '{' :: inner ++ ['}'] := by
  rw [render, value?]
  by_cases own : Text.trim (String.ofList inner) = "rule_id"
  · simp [own]
  · cases found : row.get? (Text.trim (String.ofList inner)) <;> simp [own, source]

/-- **Filling in a template renders its pieces**, with any fuel that is no less than its length. -/
theorem fill_eq (cut : Cut template pieces) {fuel : Nat} (enough : template.length ≤ fuel) :
    fill ruleId row fuel template = pieces.flatMap (render ruleId row) := by
  induction cut generalizing fuel with
  | @plain front first =>
    cases fuel with
    | zero =>
      cases List.length_eq_zero_iff.mp (Nat.le_zero.mp enough)
      rfl
    | succ fuel =>
      rw [fill, span_of_notMem first]
      exact (List.append_nil front).symm
  | @unclosed front inner first open_ =>
    cases fuel with
    | zero => simp at enough
    | succ fuel =>
      rw [fill, span_cons_of_notMem first]
      dsimp only
      rw [span_of_notMem open_]
      simp [render]
  | @slot front inner rest pieces first next cut ih =>
    cases fuel with
    | zero => simp at enough
    | succ fuel =>
      have left : rest.length ≤ fuel := by
        simp only [List.length_append, List.length_cons] at enough
        omega
      rw [fill, span_cons_of_notMem first]
      dsimp only
      rw [span_cons_of_notMem next]
      dsimp only
      rw [ih left, List.append_assoc]
      exact congrArg (front ++ ·) (congrArg (· ++ pieces.flatMap (render ruleId row)) (render_slot inner).symm)

/--
**A message is its template, filled in once.** Of a template that is not blank, when it is trimmed, there is exactly one
cut into texts and slots. It loses no character; and on every row the message is made of its pieces in their order,
where a slot gives way to the id of the rule or the value of a field of the row and every other piece stays as it is.
-/
theorem message_renders (c : CompiledRule) (filled : Text.isBlankText c.template = false) :
    let template := (Text.trim c.template).toList
    (∃! pieces, Cut template pieces) ∧
      ∀ pieces, Cut template pieces → pieces.flatMap source = template ∧
        ∀ row, c.message row = String.ofList (pieces.flatMap (render c.id row)) := by
  intro template
  obtain ⟨pieces, cut⟩ := exists_cut template
  refine ⟨⟨pieces, cut, fun _ => cut.unique⟩, fun pieces cut => ⟨cut.flatMap_source, fun row => ?_⟩⟩
  have trimmed : Text.trimChars c.template.toList = template := String.toList_ofList.symm
  have some : template.isEmpty = false := by
    refine Bool.eq_false_iff.mpr fun none => ?_
    have left : template.all Text.isBlank = false := Text.isBlankText_trim filled
    rw [List.isEmpty_iff.mp none] at left
    cases left
  rw [message, trimmed]
  simp only [some]
  exact congrArg String.ofList (fill_eq cut (Nat.le_refl _))

/-- A value that looks like a slot, slots that nothing is known for, and a brace that is not closed. -/
theorem message_renders_braces :
    let note := "a \x7bnote\x7d"
    let template := " \x7b rule_id\x7d: \x7bx\x7bnote\x7d \x7bnote\x7d\x7bNote\x7d\x7b\x7d \x7bnote \n"
    let c : CompiledRule := ⟨"R1", .sales, .business, .info, "", template, ⟨1, ""⟩, false, .literal (.bool true)⟩
    let trimmed := (Text.trim c.template).toList
    Text.isBlankText c.template = false ∧
      ((∃! pieces, Cut trimmed pieces) ∧ ∀ pieces, Cut trimmed pieces → pieces.flatMap source = trimmed ∧
        ∀ row, c.message row = String.ofList (pieces.flatMap (render c.id row))) ∧
      c.message (.ofList [("note", .text note)]) =
        "R1: \x7bx\x7bnote\x7d a \x7bnote\x7d\x7bNote\x7d\x7b\x7d \x7bnote" := by
  intro note template c trimmed
  have filled : Text.isBlankText c.template = false := by decide +kernel
  exact ⟨filled, message_renders c filled, by decide +kernel⟩

end CompiledRule

end RecordGate
