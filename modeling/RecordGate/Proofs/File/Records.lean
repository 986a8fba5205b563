import RecordGate.Proofs.File.Protocol
import RecordGate.Proofs.Json.Reading
import RecordGate.Proofs.Record

/-!
# The records of a file of JSON

Where the records of a file stand is told by its brackets and lines alone (`Format.recordTexts`). A record is an
object, member by member (`JsonRecord.IsRecord`), and its row holds under every name what stands there last
(`JsonRecord.get?_rowCells`). The rows that are answered are those of the records that are objects, each under its
number (`Format.answer_row_iff`).
-/

namespace RecordGate

/-! ## Entries by name -/

namespace Record

variable {α β : Type}

theorem map_set (f : α → β) (r : Record α) (name : String) (value : α) :
    (r.set name value).map f = (r.map f).set name (f value) := by
  refine ext_get? fun wanted => ?_
  rw [get?_map, get?_set, get?_set, get?_map]
  split <;> rfl

theorem map_ofList (f : α → β) (es : List (String × α)) :
    (ofList es).map f = ofList (es.map fun e => (e.1, f e.2)) := by
  have onwards (r : Record α) : (es.foldl (fun r e => r.set e.1 e.2) r).map f =
      (es.map fun e => (e.1, f e.2)).foldl (fun r e => r.set e.1 e.2) (r.map f) := by
    induction es generalizing r with
    | nil => rfl
    | cons e rest ih => rw [List.foldl_cons, ih, map_set, List.map_cons, List.foldl_cons]
  exact onwards empty

/-- Of the entries of one name the last stays. -/
theorem get?_ofList_last {front back : List (String × α)} {e : String × α} (last : ∀ f ∈ back, f.1 ≠ e.1) :
    (ofList (front ++ e :: back)).get? e.1 = some e.2 := by
  have fresh : e.1 ∉ back.map Prod.fst := fun mem => by
    obtain ⟨f, inside, same⟩ := List.mem_map.mp mem
    exact last f inside same
  rw [ofList, List.foldl_append, List.foldl_cons]
  exact (get?_fill_of_notMem fresh).trans (get?_set_self ..)

end Record

namespace Json

theorem insertMember_eq (name : String) (value : Json) (members : List (String × Json)) :
    insertMember name value members = Record.insertEntry name value members := by
  induction members with
  | nil => rfl
  | cons m rest ih => simp only [insertMember, Record.insertEntry, ih, beq_iff_eq]

/-- Members are sorted as the entries of a record are. -/
theorem sortMembers_eq (members : List (String × Json)) : sortMembers members = (Record.ofList members).entries := by
  have onwards (r : Record Json) : members.foldl (fun done m => insertMember m.1 m.2 done) r.entries =
      (members.foldl (fun r e => r.set e.1 e.2) r).entries := by
    induction members generalizing r with
    | nil => rfl
    | cons m rest ih =>
      rw [List.foldl_cons, List.foldl_cons, insertMember_eq]
      exact ih (r.set m.1 m.2)
  exact onwards Record.empty

/-- A text is read in one way. -/
theorem Reads.unique {α : Type} {read : Nat → Bytes → Except ParseError (α × Bytes)} {t : Bytes} {a b : α}
    (h : Reads read t a) (h' : Reads read t b) : a = b := by
  have one := h t.length [] (Nat.le_refl _) (clear_nil _)
  have other := h' t.length [] (Nat.le_refl _) (clear_nil _)
  exact (Prod.mk.inj (Except.ok.inj (one.symm.trans other))).1

end Json

/-! ## Records -/

namespace JsonRecord

open Json (Member ReadsMember Reads IsGap memberValue objectBytes)

/-- A member of a record, with its name and its value as they are read. -/
structure Entry where
  member : Member
  name : String
  value : Json

/-- The text is an object with these members, with any gaps between them, and each of them is read. -/
structure IsRecord (t : Bytes) (entries : List Entry) : Prop where
  text : ∃ lead inner trail, IsGap lead ∧ IsGap inner ∧ IsGap trail ∧
    t = objectBytes lead inner trail (entries.map Entry.member)
  reads : ∀ e ∈ entries, ReadsMember memberValue e.member (e.name, e.value)

/-- The cells of a row with these members; of members with one name the last counts. -/
def rowCells (entries : List Entry) : Record Cell := .ofList (entries.map fun e => (e.name, cell e.value))

/-- The text of the value that stands last under a name. -/
def Holds (entries : List Entry) (name : String) (text : Bytes) : Prop :=
  ∃ front e back, entries = front ++ e :: back ∧ e.name = name ∧ e.member.value.text = text ∧
    ∀ f ∈ back, f.name ≠ name

variable {t text : Bytes} {entries : List Entry} {name : String}

/-- Members that are read one by one, side by side with what is read. -/
theorem exists_entries {ms : List Member} {vs : List (String × Json)}
    (h : List.Forall₂ (ReadsMember memberValue) ms vs) :
    ∃ entries : List Entry, entries.map Entry.member = ms ∧ (entries.map fun e => (e.name, e.value)) = vs ∧
      ∀ e ∈ entries, ReadsMember memberValue e.member (e.name, e.value) := by
  induction h with
  | nil => exact ⟨[], rfl, rfl, nofun⟩
  | @cons m v ms vs first others ih =>
    obtain ⟨entries, members, values, reads⟩ := ih
    exact ⟨⟨m, v.1, v.2⟩ :: entries, congrArg (m :: ·) members, congrArg (v :: ·) values,
      List.forall_mem_cons.mpr ⟨first, reads⟩⟩

theorem IsRecord.parse (h : IsRecord t entries) :
    Json.parse t = .ok (Json.ofMembers (entries.map fun e => (e.name, e.value))) := by
  obtain ⟨lead, inner, trail, gapLead, gapInner, gapTrail, rfl⟩ := h.text
  refine Json.parse_objectBytes gapLead gapInner gapTrail ?_
  exact List.forall₂_map_left_iff.mpr (List.forall₂_map_right_iff.mpr (List.forall₂_same.mpr h.reads))

/-- What is read as an object is a record. -/
theorem isRecord_of_parse {members : List (String × Json)} (h : Json.parse t = .ok (.obj members)) :
    ∃ entries, IsRecord t entries ∧ members = Json.sortMembers (entries.map fun e => (e.name, e.value)) := by
  obtain ⟨lead, inner, trail, ms, vs, gapLead, gapInner, gapTrail, rfl, all, rfl⟩ := Json.parse_object h
  obtain ⟨entries, rfl, rfl, reads⟩ := exists_entries all
  exact ⟨entries, ⟨⟨lead, inner, trail, gapLead, gapInner, gapTrail, rfl⟩, reads⟩, rfl⟩

theorem ofJson_ofMembers (entries : List Entry) :
    ofJson (Json.ofMembers (entries.map fun e => (e.name, e.value))) = .ok (rowCells entries) := by
  have sorted (vs : List (String × Json)) :
      Record.ofList ((Json.sortMembers vs).map fun m => (m.1, cell m.2)) = (Record.ofList vs).map cell := by
    rw [Json.sortMembers_eq]
    exact Record.ofList_entries ((Record.ofList vs).map cell)
  rw [Json.ofMembers, ofJson, sorted, Record.map_ofList, List.map_map]
  rfl

/-- **The cells of a text are those of a record.** -/
theorem cells_eq_ok {cells : Record Cell} :
    JsonRecord.cells t = .ok cells ↔ ∃ entries, IsRecord t entries ∧ cells = rowCells entries := by
  constructor
  · intro read
    rw [JsonRecord.cells] at read
    split at read
    · next j parsed =>
      cases j with
      | obj members =>
        obtain ⟨entries, isRecord, rfl⟩ := isRecord_of_parse parsed
        exact ⟨entries, isRecord, (Except.ok.inj ((ofJson_ofMembers entries).symm.trans read)).symm⟩
      | null | bool | num | str | arr => cases read
    · cases read
  · rintro ⟨entries, isRecord, rfl⟩
    rw [JsonRecord.cells, isRecord.parse]
    exact ofJson_ofMembers entries

/-- A row holds under a name the cell of what is read there last. -/
theorem get?_rowCells (h : IsRecord t entries) (held : Holds entries name text) :
    ∃ j, Reads memberValue text j ∧ (rowCells entries).get? name = some (cell j) := by
  obtain ⟨front, e, back, rfl, rfl, rfl, last⟩ := held
  refine ⟨e.value, (h.reads e (by simp)).value, ?_⟩
  rw [rowCells, List.map_append, List.map_cons]
  refine Record.get?_ofList_last fun f mem => ?_
  obtain ⟨g, inside, rfl⟩ := List.mem_map.mp mem
  exact last g inside

end JsonRecord

/-! ## Files -/

namespace Format

/--
The texts of the records of a file of JSON: the elements of an array, or an object that stands alone; or the lines that
are not blank.
-/
def recordTexts : Format → Bytes → List Bytes
  | .csv, _ => []
  | .json, input =>
    match input.dropWhile JsonRecord.isSpace with
    | [] => []
    | b :: rest => if b == 0x5B then (JsonArray.split rest).1 else if b == 0x7B then [b :: rest] else []
  | .jsonLines, input => JsonLines.records input

variable {format : Format} {input : Bytes} {k : Nat} {row : RawRow}

theorem numbered_row_iff {texts : List Bytes} :
    (RowItem.numbered (texts.map JsonRecord.cells))[k]? = some (.row row) ↔
      ∃ t, texts[k]? = some t ∧ RowItem.ofCells (k + 1) (JsonRecord.cells t) = .row row := by
  rw [RowItem.getElem?_numbered, List.getElem?_map, Option.map_map, Option.map_eq_some_iff]
  rfl

/-- A row of an array is that of one of its elements. -/
theorem rowsOf_row_iff {elements : List Bytes} {ending : JsonArray.Ending} :
    (JsonArray.rowsOf elements ending)[k]? = some (.row row) ↔
      ∃ t, elements[k]? = some t ∧ RowItem.ofCells (k + 1) (JsonRecord.cells t) = .row row := by
  have length : (RowItem.numbered (elements.map JsonRecord.cells)).length = elements.length := by
    rw [RowItem.length_numbered, List.length_map]
  by_cases inside : k < elements.length
  · rw [JsonArray.rowsOf, List.getElem?_append_left (length ▸ inside), numbered_row_iff]
  · rw [JsonArray.rowsOf, List.getElem?_append_right (length ▸ Nat.le_of_not_lt inside),
      List.getElem?_eq_none (Nat.le_of_not_lt inside), List.getElem?_map]
    constructor
    · intro given
      obtain ⟨e, -, same⟩ := Option.map_eq_some_iff.mp given
      cases same
    · rintro ⟨t, none, -⟩
      cases none

theorem failed_ne_row {e : FileError} : [RowItem.failed e][k]? ≠ some (.row row) := by
  intro given
  cases List.mem_singleton.mp (List.mem_of_getElem? given)

theorem singleRow_row_iff {t : Bytes} :
    (JsonArray.singleRow t)[k]? = some (.row row) ↔
      ∃ u, [t][k]? = some u ∧ RowItem.ofCells (k + 1) (JsonRecord.cells u) = .row row := by
  rw [JsonArray.singleRow]
  cases parsed : Json.parse t with
  | ok j =>
    have cells : [JsonRecord.ofJson j] = [t].map JsonRecord.cells := by
      rw [List.map_singleton, JsonRecord.cells, parsed]
    dsimp only
    rw [cells, numbered_row_iff]
  | error e =>
    refine ⟨fun given => absurd given failed_ne_row, ?_⟩
    rintro ⟨u, here, same⟩
    obtain rfl : u = t := List.mem_singleton.mp (List.mem_of_getElem? here)
    rw [JsonRecord.cells, parsed] at same
    cases same

/-- A file that cannot be read has no rows. -/
theorem failed_row_iff {e : FileError} :
    [RowItem.failed e][k]? = some (.row row) ↔
      ∃ t, ([] : List Bytes)[k]? = some t ∧ RowItem.ofCells (k + 1) (JsonRecord.cells t) = .row row :=
  ⟨fun given => absurd given failed_ne_row, fun ⟨_, noText, _⟩ => nomatch noText⟩

theorem rows_row_iff (structured : format ≠ .csv) :
    (format.rows input)[k]? = some (.row row) ↔
      ∃ t, (format.recordTexts input)[k]? = some t ∧ RowItem.ofCells (k + 1) (JsonRecord.cells t) = .row row := by
  cases format with
  | csv => exact absurd rfl structured
  | jsonLines => exact numbered_row_iff
  | json =>
    rw [rows, recordTexts, JsonArray.rows]
    cases input.dropWhile JsonRecord.isSpace with
    | nil => exact failed_row_iff
    | cons b rest =>
      dsimp only
      split
      · exact rowsOf_row_iff
      split
      · exact singleRow_row_iff
      · exact failed_row_iff

/--
**The rows that are answered are those of records.** Each record of a file of JSON that is an object is answered as the
row of its cells under its number, and there are no other rows.
-/
theorem answer_row_iff (structured : format ≠ .csv) :
    (format.stream input).answer k = some (.row row) ↔ ∃ t entries, (format.recordTexts input)[k]? = some t ∧
      JsonRecord.IsRecord t entries ∧ row = ⟨k + 1, JsonRecord.rowCells entries⟩ := by
  rw [RowStream.answer_stream, rows_row_iff structured]
  refine exists_congr fun t => ?_
  rw [exists_and_left, and_congr_right_iff]
  intro _
  constructor
  · intro same
    cases read : JsonRecord.cells t with
    | error message =>
      rw [read] at same
      cases same
    | ok cells =>
      rw [read] at same
      cases same
      obtain ⟨entries, isRecord, rfl⟩ := JsonRecord.cells_eq_ok.mp read
      exact ⟨entries, isRecord, rfl⟩
  · rintro ⟨entries, isRecord, rfl⟩
    rw [JsonRecord.cells_eq_ok.mpr ⟨entries, isRecord, rfl⟩]
    rfl

end Format

end RecordGate
