import RecordGate.Text.Utf8

/-!
# Reading comma-separated records

A record is a list of fields between commas. It ends at a line feed or a carriage return; empty lines
are no records. A field that begins with a quote may hold any byte up to the next single quote, and a
quote in it is written twice. What follows the closing quote belongs to the field as it stands. An
unclosed quote runs to the end of the input.

Main definitions: `Csv.record?` reads one record, `Csv.records` all of them.
-/

namespace RecordGate.Csv

/-- The bytes with a meaning of their own. -/
def comma : UInt8 := 0x2C

def quote : UInt8 := 0x22

def lineFeed : UInt8 := 0x0A

def carriageReturn : UInt8 := 0x0D

/-- Whether a byte ends a record. -/
def isLineEnd (b : UInt8) : Bool := b == lineFeed || b == carriageReturn

/-- Where in a field the reader stands. -/
inductive Place where
  /-- Before the first byte. -/
  | front
  /-- In a field without quotes, or behind the closing quote. -/
  | bare
  /-- Between the quotes. -/
  | quoted
  /-- After a quote between quotes: the closing one, or the first of two. -/
  | afterQuote
deriving DecidableEq

/-- What a byte does to the record. -/
inductive Step where
  /-- It belongs to the field. -/
  | keep (next : Place)
  /-- It is a quote that only marks the field. -/
  | drop (next : Place)
  | endField
  | endRecord
deriving DecidableEq

/-- What a byte does at a place in a field. -/
def step (place : Place) (b : UInt8) : Step :=
  match place with
  | .quoted => if b == quote then .drop .afterQuote else .keep .quoted
  | _ =>
    if b == quote && place == .front then .drop .quoted
    else if b == quote && place == .afterQuote then .keep .quoted
    else if b == comma then .endField
    else if isLineEnd b then .endRecord
    else .keep .bare

/--
Reads a record to its end. `field` holds the bytes of the current field in reverse, `fields` the fields
before it in reverse. The rest begins after the byte that ended the record.
-/
def fieldsFrom : Place → (field : Bytes) → (fields : List Bytes) → Bytes → List Bytes × Bytes
  | _, field, fields, [] => ((field.reverse :: fields).reverse, [])
  | place, field, fields, b :: rest =>
    match step place b with
    | .keep next => fieldsFrom next (b :: field) fields rest
    | .drop next => fieldsFrom next field fields rest
    | .endField => fieldsFrom .front [] (field.reverse :: fields) rest
    | .endRecord => ((field.reverse :: fields).reverse, rest)

theorem length_fieldsFrom_le (place : Place) (field : Bytes) (fields : List Bytes) (input : Bytes) :
    (fieldsFrom place field fields input).2.length ≤ input.length := by
  induction input generalizing place field fields with
  | nil => simp [fieldsFrom]
  | cons b rest ih =>
    rw [fieldsFrom]
    split
    · exact Nat.le_succ_of_le (ih ..)
    · exact Nat.le_succ_of_le (ih ..)
    · exact Nat.le_succ_of_le (ih ..)
    · exact Nat.le_succ _

/-- A record takes at least the first byte. -/
theorem length_fieldsFrom_cons_le (place : Place) (field : Bytes) (fields : List Bytes) (b : UInt8)
    (rest : Bytes) : (fieldsFrom place field fields (b :: rest)).2.length ≤ rest.length := by
  rw [fieldsFrom]
  split
  · exact length_fieldsFrom_le ..
  · exact length_fieldsFrom_le ..
  · exact length_fieldsFrom_le ..
  · exact Nat.le_refl _

/-- The next record and what follows it; none at the end of the input. -/
def record? (input : Bytes) : Option (List Bytes × Bytes) :=
  match input.dropWhile isLineEnd with
  | [] => none
  | b :: rest => some (fieldsFrom .front [] [] (b :: rest))

theorem length_lt_of_record? {input rest : Bytes} {fields : List Bytes}
    (h : record? input = some (fields, rest)) : rest.length < input.length := by
  unfold record? at h
  split at h
  · cases h
  · next b tail eq =>
    have read := congrArg Prod.snd (Option.some.inj h)
    have short := length_fieldsFrom_cons_le .front [] [] b tail
    have kept := (List.dropWhile_sublist isLineEnd (l := input)).length_le
    rw [eq, List.length_cons] at kept
    rw [read] at short
    exact Nat.lt_of_le_of_lt short kept

/-- A record with the input as it was when its reading began. -/
structure Located where
  start : Bytes
  fields : List Bytes
deriving DecidableEq

/-- The records of the input after those already read, which come in reverse. -/
def recordsFrom (done : List Located) (input : Bytes) : List Located :=
  match _h : record? input with
  | none => done.reverse
  | some (fields, rest) => recordsFrom (⟨input, fields⟩ :: done) rest
termination_by input.length
decreasing_by exact length_lt_of_record? _h

/-- All records of the input. -/
def records (input : Bytes) : List Located := recordsFrom [] input

theorem recordsFrom_none {done : List Located} {input : Bytes} (h : record? input = none) :
    recordsFrom done input = done.reverse := by
  rw [recordsFrom]
  split
  · rfl
  · next eq => simp [eq] at h

theorem recordsFrom_some {done : List Located} {input rest : Bytes} {fields : List Bytes}
    (h : record? input = some (fields, rest)) :
    recordsFrom done input = recordsFrom (⟨input, fields⟩ :: done) rest := by
  rw [recordsFrom]
  split
  · next eq => simp [eq] at h
  · next eq =>
    cases Option.some.inj (eq.symm.trans h)
    rfl

theorem recordsFrom_eq (done : List Located) (input : Bytes) :
    recordsFrom done input = done.reverse ++ records input := by
  match h : record? input with
  | none => rw [records, recordsFrom_none h, recordsFrom_none h]; simp
  | some (fields, rest) =>
    rw [records, recordsFrom_some h, recordsFrom_some h, recordsFrom_eq _ rest, recordsFrom_eq _ rest]
    simp
termination_by input.length
decreasing_by all_goals exact length_lt_of_record? h

/-- The records are the next one and those of the rest. -/
theorem records_eq (input : Bytes) :
    records input =
      match record? input with
      | none => []
      | some (fields, rest) => ⟨input, fields⟩ :: records rest := by
  split
  · next h => exact recordsFrom_none h
  · next h => rw [records, recordsFrom_some h, recordsFrom_eq]; rfl

end RecordGate.Csv
