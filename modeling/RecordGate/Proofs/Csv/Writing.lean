import RecordGate.Csv.Writer

/-!
# Reading what was written

A written field is read back whatever bytes it holds: bare, it has nothing in it that ends it; quoted, every
quote in it is doubled (`Csv.fieldsFrom_writtenField`). By induction on the fields a record is read back
(`Csv.record?_writtenRecord`), and by induction on the records a whole file (`Csv.fields_records_written`).
-/

namespace RecordGate.Csv

variable {place : Place} {b : UInt8} (field : Bytes) (done : List Bytes) (rest : Bytes)

/-! ## One field -/

theorem step_of_outside (outside : place ≠ .quoted) (h : (b == quote) = false) :
    step place b = if b == comma then .endField else if isLineEnd b then .endRecord else .keep .bare := by
  cases place with
  | quoted => exact absurd rfl outside
  | front => simp only [step, h, Bool.false_and, Bool.false_eq_true, if_false]
  | bare => simp only [step, h, Bool.false_and, Bool.false_eq_true, if_false]
  | afterQuote => simp only [step, h, Bool.false_and, Bool.false_eq_true, if_false]

/-- A comma ends a field that is not inside quotes. -/
theorem fieldsFrom_comma (outside : place ≠ .quoted) :
    fieldsFrom place field done (comma :: rest) = fieldsFrom .front [] (field.reverse :: done) rest := by
  rw [fieldsFrom, step_of_outside outside rfl]
  rfl

/-- A line feed ends a record whose last field is not inside quotes. -/
theorem fieldsFrom_lineFeed (outside : place ≠ .quoted) :
    fieldsFrom place field done (lineFeed :: rest) = ((field.reverse :: done).reverse, rest) := by
  rw [fieldsFrom, step_of_outside outside rfl]
  rfl

/-- A field without marks is taken as it stands. -/
theorem fieldsFrom_bare {text : Bytes} (plain : needsQuotes text = false) (outside : place ≠ .quoted) :
    ∃ next, next ≠ .quoted ∧
      fieldsFrom place field done (text ++ rest) = fieldsFrom next (text.reverse ++ field) done rest := by
  induction text generalizing place field with
  | nil => exact ⟨place, outside, rfl⟩
  | cons b text ih =>
    rw [needsQuotes, List.any_cons, Bool.or_eq_false_iff, Bool.or_eq_false_iff, Bool.or_eq_false_iff] at plain
    obtain ⟨⟨⟨notComma, notQuote⟩, notEnd⟩, plain⟩ := plain
    have kept : step place b = .keep .bare := by
      rw [step_of_outside outside notQuote, notComma, notEnd]
      rfl
    obtain ⟨next, outside, read⟩ := ih (b :: field) plain (nofun : Place.bare ≠ .quoted)
    refine ⟨next, outside, ?_⟩
    rw [List.reverse_cons, List.append_assoc, List.cons_append, fieldsFrom, kept]
    exact read

/-- Between quotes every byte is taken, a doubled quote as one. -/
theorem fieldsFrom_doubled (text : Bytes) :
    fieldsFrom .quoted field done (doubled text ++ quote :: rest) =
      fieldsFrom .afterQuote (text.reverse ++ field) done rest := by
  induction text generalizing field with
  | nil => rfl
  | cons b text ih =>
    rw [doubled, List.reverse_cons, List.append_assoc]
    split
    · next same =>
      cases beq_iff_eq.mp same
      exact ih (quote :: field)
    · next other =>
      have kept : step .quoted b = .keep .quoted := if_neg other
      rw [List.cons_append, fieldsFrom, kept]
      exact ih (b :: field)

/-- **A written field is read back**, whatever bytes it holds, up to where it ends. -/
theorem fieldsFrom_writtenField (text : Bytes) :
    ∃ place, place ≠ .quoted ∧
      fieldsFrom .front [] done (writtenField text ++ rest) = fieldsFrom place text.reverse done rest := by
  unfold writtenField
  split
  · refine ⟨.afterQuote, nofun, ?_⟩
    have inside : fieldsFrom .quoted [] done (doubled text ++ quote :: rest) =
        fieldsFrom .afterQuote (text.reverse ++ []) done rest := fieldsFrom_doubled [] done rest text
    rw [List.append_nil] at inside
    rw [← inside, List.cons_append, List.cons_append, List.append_assoc]
    rfl
  · next plain =>
    obtain ⟨next, outside, read⟩ :=
      fieldsFrom_bare [] done rest (Bool.eq_false_iff.mpr plain) (nofun : Place.front ≠ .quoted)
    exact ⟨next, outside, by rw [read, List.append_nil]⟩

/-! ## One record -/

theorem fieldsFrom_joined (text : Bytes) (more : List Bytes) :
    fieldsFrom .front [] done (joined (text :: more) ++ lineFeed :: rest) = (done.reverse ++ text :: more, rest) := by
  induction more generalizing text done with
  | nil =>
    obtain ⟨place, outside, read⟩ := fieldsFrom_writtenField done (lineFeed :: rest) text
    rw [joined, read, fieldsFrom_lineFeed _ _ _ outside, List.reverse_reverse, List.reverse_cons]
  | cons next more ih =>
    obtain ⟨place, outside, read⟩ :=
      fieldsFrom_writtenField done (comma :: (joined (next :: more) ++ lineFeed :: rest)) text
    rw [joined, List.append_assoc, List.cons_append, read, fieldsFrom_comma _ _ _ outside, List.reverse_reverse, ih,
      List.reverse_cons, List.append_assoc]
    · rfl
    · nofun

theorem head?_writtenField (text : Bytes) : ∀ b ∈ (writtenField text).head?, isLineEnd b = false := by
  unfold writtenField
  split
  · intro b hb
    cases hb
    rfl
  · next plain =>
    intro b hb
    have inside : b ∈ text := List.mem_of_mem_head? hb
    have := List.any_eq_false.mp (Bool.eq_false_iff.mpr plain) b inside
    rw [Bool.or_eq_true, not_or] at this
    exact Bool.eq_false_iff.mpr this.2

/-- A record does not begin with a line end. -/
theorem head?_joined (fields : List Bytes) : ∀ b ∈ (joined fields).head?, isLineEnd b = false := by
  fun_cases joined fields with
  | case1 => nofun
  | case2 field => exact head?_writtenField field
  | case3 field more =>
    cases form : writtenField field with
    | nil =>
      intro b hb
      cases hb
      rfl
    | cons c tail =>
      have front := head?_writtenField field
      rw [form] at front
      exact front

theorem record?_of_head {input : Bytes} (b : UInt8) (inside : isLineEnd b = false) :
    record? (b :: input) = some (fieldsFrom .front [] [] (b :: input)) := by
  rw [record?, List.dropWhile_cons_of_neg (by rw [inside]; exact Bool.false_ne_true)]

/-- **A written record is read back**, whatever follows it. -/
theorem record?_writtenRecord {fields : List Bytes} (filled : fields ≠ []) (rest : Bytes) :
    record? (writtenRecord fields ++ rest) = some (fields, rest) := by
  obtain ⟨text, more, rfl⟩ := List.exists_cons_of_ne_nil filled
  have read := fieldsFrom_joined [] rest text more
  have front := head?_joined (text :: more)
  rw [writtenRecord]
  cases line : joined (text :: more) with
  | nil =>
    -- Only a lone empty field leaves an empty line.
    rw [line, List.nil_append, fieldsFrom_lineFeed _ _ _ (nofun : Place.front ≠ .quoted)] at read
    have lone : [[]] = text :: more := congrArg Prod.fst read
    rw [← lone]
    rfl
  | cons b tail =>
    rw [line] at read front
    change record? (b :: tail ++ [lineFeed] ++ rest) = _
    rw [List.append_assoc]
    exact (record?_of_head b (front b rfl)).trans (congrArg _ read)

/-! ## A file -/

/-- **Written records are read back**, in order. -/
theorem fields_records_written {table : List (List Bytes)} (filled : ∀ fields ∈ table, fields ≠ []) :
    (records (written table)).map Located.fields = table := by
  induction table with
  | nil => rw [records_eq]; rfl
  | cons fields table ih =>
    obtain ⟨first, others⟩ := List.forall_mem_cons.mp filled
    have read := record?_writtenRecord first (written table)
    rw [written, List.flatMap_cons, ← written, records_eq, read, List.map_cons, ih others]

end RecordGate.Csv
