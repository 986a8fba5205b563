import RecordGate.Proofs.Decimal.Signs
import RecordGate.Proofs.File.Records
import RecordGate.Proofs.Schema.Tokens

/-!
# Cells as they are delivered

A table delivers texts alone. A file of JSON delivers numbers and truth values as well, where a table would hold their
texts. A zero that is delivered has no sign (`signless_of_delivered`), so a field makes the same of a number as of its
text, with the one exception that fields of truth values make (`coerce_token`).
-/

namespace RecordGate

/-- The entries that a record is made of are the only ones that it holds. -/
theorem Record.mem_of_get?_ofList {α : Type} {es : List (String × α)} {name : String} {value : α}
    (h : (Record.ofList es).get? name = some value) : (name, value) ∈ es := by
  induction es using List.reverseRecOn with
  | nil => cases h
  | append_singleton es e ih =>
    have last : Record.ofList (es ++ [e]) = (Record.ofList es).set e.1 e.2 := List.foldl_append
    rw [last, Record.get?_set] at h
    split at h
    · next same =>
      cases h
      cases same
      exact List.mem_append_right _ List.mem_cons_self
    · exact List.mem_append_left _ (ih h)

/-- A cell that a reader delivers in a row of some file. -/
def Cell.IsDelivered (c : Cell) : Prop :=
  ∃ (format : Format) (input : Bytes) (k : Nat) (row : RawRow) (name : String),
    (format.stream input).answer k = some (.row row) ∧ row.cells.get? name = some c

/-- A table delivers texts. -/
theorem Csv.text_of_row {input : Bytes} {row : RawRow} (h : .row row ∈ Csv.rows input) {name : String} {c : Cell}
    (held : row.cells.get? name = some c) : ∃ s, c = .text s := by
  rw [Csv.rows] at h
  split at h
  · cases h
  split at h
  · cases List.mem_singleton.mp h
  next names _ =>
  obtain ⟨⟨record, index⟩, -, same⟩ := List.mem_map.mp h
  dsimp only at same
  rw [Csv.cells] at same
  split at same
  · cases same
  split at same
  · cases same
    obtain ⟨s, -, rfl⟩ := List.mem_map.mp (List.of_mem_zip (Record.mem_of_get?_ofList held)).2
    exact ⟨s, rfl⟩
  · cases same

/-- A number is delivered for a number of JSON, as what is read of its text. -/
theorem JsonRecord.parse?_of_cell {j : Json} {d : Decimal} (h : JsonRecord.cell j = .number d) :
    ∃ n : Json.Number, Decimal.parse? (toString n) = some d := by
  cases j with
  | num n =>
    rw [JsonRecord.cell] at h
    split at h
    · next read =>
      cases h
      exact ⟨n, read⟩
    · cases h
  | null | bool | str | arr | obj => cases h

/-- **A zero that is delivered has no sign.** -/
theorem signless_of_delivered {d : Decimal} (h : (Cell.number d).IsDelivered) : ¬d.IsNegativeZero := by
  obtain ⟨format, input, k, row, name, answer, held⟩ := h
  by_cases table : format = .csv
  · subst table
    rw [RowStream.answer_stream] at answer
    obtain ⟨s, text⟩ := Csv.text_of_row (List.mem_of_getElem? answer) held
    cases text
  · obtain ⟨t, entries, -, -, rfl⟩ := (Format.answer_row_iff table).mp answer
    obtain ⟨e, -, same⟩ := List.mem_map.mp (Record.mem_of_get?_ofList held)
    obtain ⟨n, read⟩ := JsonRecord.parse?_of_cell (Prod.mk.inj same).2
    exact n.parse?_signless read

/--
**A verdict depends on how a token arrives in one case only.** Whatever number a reader delivers, in every type it gets
the same verdict as its text: the same value, or a refusal in the same words. So does a truth value and its word. The
one exception is a field of truth values: it takes a one or a zero such as `1.0` as a number and refuses its text. In
all other cases the check of a field comes to the same value and the same errors.
-/
theorem coerce_token :
    (∀ d, (Cell.number d).IsDelivered → ∀ type,
      (verdict type (.number d) = verdict type (.text (toString d)) ↔ ¬(type = .boolean ∧ d.IsLongBit)) ∧
        (type = .boolean ∧ d.IsLongBit → verdict type (.number d) = .ok (.bool (d.sameNumber .one)) ∧
          ∃ words, verdict type (.text (toString d)) = .error words)) ∧
      (∀ type b, verdict type (.bool b) = verdict type (.text (if b then "true" else "false"))) ∧
      ∀ engine (f : Field) row asOf,
        (∀ d, (Cell.number d).IsDelivered → ¬(f.type = .boolean ∧ d.IsLongBit) →
          f.check engine row asOf (some (.number d)) = f.check engine row asOf (some (.text (toString d)))) ∧
          ∀ b, f.check engine row asOf (some (.bool b)) =
            f.check engine row asOf (some (.text (if b then "true" else "false"))) := by
  refine ⟨fun d delivered type => ⟨verdict_number_iff (signless_of_delivered delivered), ?_⟩, verdict_bool,
    fun engine f row asOf => ⟨fun d delivered short => ?_, fun b => ?_⟩⟩
  · rintro ⟨rfl, long⟩
    exact verdict_of_long long
  · have same := (verdict_number_iff (signless_of_delivered delivered)).mpr short
    rw [f.check_of_filled engine row asOf rfl, f.check_of_filled engine row asOf (isEmpty_text_number d), same]
  · rw [f.check_of_filled engine row asOf rfl, f.check_of_filled engine row asOf (isEmpty_text_bool b), verdict_bool]

/-- A number of JSON with a decimal, in a field of decimals and in one of truth values. -/
theorem coerce_token_delivered :
    let d : Decimal := ⟨false, 10, 1, by decide, by decide⟩
    (Cell.number d).IsDelivered ∧ ¬(FieldType.decimal = .boolean ∧ d.IsLongBit) ∧
      verdict .decimal (.number d) = verdict .decimal (.text "1.0") := by
  intro d
  have delivered : (Cell.number d).IsDelivered :=
    ⟨.json, Text.encode "[\x7b\"a\":1.0\x7d]", 0, ⟨1, .ofList [("a", .number d)]⟩, "a", by decide +kernel,
      by decide +kernel⟩
  have short : ¬(FieldType.decimal = .boolean ∧ d.IsLongBit) := nofun
  have text : toString d = "1.0" := by decide +kernel
  have same := (coerce_token.1 d delivered .decimal).1.mpr short
  rw [text] at same
  exact ⟨delivered, short, same⟩

/-- `1.0` is true for a field of truth values as a number, and is refused as a text. -/
theorem long_one_by_token :
    ∃ d, (Cell.number d).IsDelivered ∧ toString d = "1.0" ∧ verdict .boolean (.number d) = .ok (.bool true) ∧
      verdict .boolean (.text (toString d)) = .error "invalid boolean '1.0'" := by
  let d : Decimal := ⟨false, 10, 1, by decide, by decide⟩
  refine ⟨d, ⟨.json, Text.encode "[\x7b\"a\":1.0\x7d]", 0, ⟨1, .ofList [("a", .number d)]⟩, "a", ?_⟩, ?_, ?_, ?_⟩
  · exact ⟨by decide +kernel, by decide +kernel⟩
  · decide +kernel
  · decide +kernel
  · decide +kernel

end RecordGate
