import RecordGate.Proofs.File.Protocol
import RecordGate.Proofs.Json.Reading

/-!
# Cutting an array into its elements

The splitter of arrays knows no JSON: it looks at strings and brackets alone. Still it cuts where a parser does,
since it goes over balanced bytes without an end in them (`JsonArray.splitFrom_balanced`) and every text of JSON
is balanced. So each element gives an item of its own, whatever the other elements are, and the elements of an
array that a parser reads are the items that it reads (`JsonArray.stream_elementwise`).
-/

namespace RecordGate.JsonArray

open JsonRecord (isSpace)
open Json (Piece Balanced IsGap balancedFrom arrayBytes listed listedFrom)

/-! ## Balanced elements -/

theorem endsAt_plain (depth : Nat) (b : UInt8) :
    State.endsAt ⟨depth, .plain⟩ b = (depth == 0 && (b == 0x2C || b == 0x5D)) := by
  have same : (State.mk depth .plain == .start) = (depth == 0) := by
    rw [Bool.eq_iff_iff, beq_iff_eq, beq_iff_eq, State.start, State.mk.injEq, and_iff_left rfl]
  rw [State.endsAt, same]

/-- In a string nothing ends an element. -/
theorem endsAt_in_string {place : Place} (h : place ≠ .plain) (depth : Nat) (b : UInt8) :
    State.endsAt ⟨depth, place⟩ b = false := by
  have different : (State.mk depth place == .start) = false :=
    beq_false_of_ne fun same => h (congrArg State.place same)
  rw [State.endsAt, different, Bool.false_and]

/-- The splitter goes over the rest of balanced bytes and stands where it stood before them. -/
theorem splitFrom_balancedFrom (s : State) (chunk element : Bytes) (done : List Bytes) (rest : Bytes)
    (h : balancedFrom s.depth (s.place != .plain) (s.place == .escaped) chunk = true) :
    splitFrom s element done (chunk ++ rest) = splitFrom .start (chunk.reverse ++ element) done rest := by
  induction chunk generalizing s element with
  | nil =>
    obtain ⟨depth, place⟩ := s
    cases place with
    | plain =>
      obtain rfl : depth = 0 := by simpa [balancedFrom] using h
      rfl
    | inString => cases h
    | escaped => cases h
  | cons b chunk ih =>
    have goesOn (later : State) (next : s.after b = later) (within : s.endsAt b = false)
        (balanced : balancedFrom later.depth (later.place != .plain) (later.place == .escaped) chunk = true) :
        splitFrom s element done (b :: chunk ++ rest) =
          splitFrom .start ((b :: chunk).reverse ++ element) done rest := by
      rw [List.cons_append, splitFrom, if_neg (by simp [within]), next, ih later (b :: element) balanced]
      simp
    obtain ⟨depth, place⟩ := s
    cases place with
    | escaped => exact goesOn ⟨depth, .inString⟩ rfl (endsAt_in_string (by decide) depth b) h
    | inString =>
      have inside : State.endsAt ⟨depth, .inString⟩ b = false := endsAt_in_string (by decide) depth b
      change balancedFrom depth true false (b :: chunk) = true at h
      rw [balancedFrom] at h
      split at h
      · next backslash => exact goesOn ⟨depth, .escaped⟩ (if_pos backslash) inside h
      next backslash =>
      split at h
      · next quote => exact goesOn ⟨depth, .plain⟩ ((if_neg backslash).trans (if_pos quote)) inside h
      · next quote => exact goesOn ⟨depth, .inString⟩ ((if_neg backslash).trans (if_neg quote)) inside h
    | plain =>
      change balancedFrom depth false false (b :: chunk) = true at h
      rw [balancedFrom] at h
      split at h
      · cases h
      next within =>
      have within : State.endsAt ⟨depth, .plain⟩ b = false :=
        (endsAt_plain depth b).trans (Bool.not_eq_true _ ▸ within)
      split at h
      · next quote => exact goesOn ⟨depth, .inString⟩ (if_pos quote) within h
      next quote =>
      split at h
      · next opens => exact goesOn ⟨depth + 1, .plain⟩ ((if_neg quote).trans (if_pos opens)) within h
      next opens =>
      split at h
      · next closes =>
        exact goesOn ⟨depth - 1, .plain⟩ ((if_neg quote).trans ((if_neg opens).trans (if_pos closes))) within h
      · next closes =>
        exact goesOn ⟨depth, .plain⟩ ((if_neg quote).trans ((if_neg opens).trans (if_neg closes))) within h

theorem splitFrom_balanced {chunk : Bytes} (h : Balanced chunk) (element : Bytes) (done : List Bytes) (rest : Bytes) :
    splitFrom .start element done (chunk ++ rest) = splitFrom .start (chunk.reverse ++ element) done rest :=
  splitFrom_balancedFrom .start chunk element done rest h

/-! ## Elements with gaps around them -/

theorem isSpace_of_isGap {b : UInt8} (h : Json.isGapByte b = true) : isSpace b = true := Bool.or_eq_true_iff.mpr (.inl h)

theorem dropWhile_gap {g : Bytes} (gap : IsGap g) (rest : Bytes) :
    (g ++ rest).dropWhile isSpace = rest.dropWhile isSpace := by
  induction g with
  | nil => rfl
  | cons b g ih =>
    obtain ⟨isGap, gap⟩ := Bool.and_eq_true_iff.mp gap
    rw [List.cons_append, List.dropWhile_cons, if_pos (isSpace_of_isGap isGap), ih gap]

/-- An element that may stand in an array: balanced, and it starts with a byte that is no white space. -/
structure IsElement (t : Bytes) : Prop where
  balanced : Balanced t
  starts : ∃ b rest, t = b :: rest ∧ isSpace b = false

variable {p : Piece} {element rest : Bytes} {done : List Bytes}

/-- An element is not blank, whatever gaps are around it. -/
theorem IsElement.notBlank (h : IsElement p.text) : p.bytes.all isSpace = false := by
  obtain ⟨b, rest, same, notSpace⟩ := h.starts
  rw [Piece.bytes, same]
  simp [notSpace]

/-- The splitter goes over an element and the gaps around it. -/
theorem splitFrom_element (h : IsElement p.text) (done : List Bytes) (rest : Bytes) :
    splitFrom .start [] done (p.bytes ++ rest) = splitFrom .start p.bytes.reverse done rest := by
  rw [Piece.bytes, List.append_assoc, List.append_assoc, splitFrom_balanced p.gapBefore.neutral.balanced,
    splitFrom_balanced h.balanced, splitFrom_balanced p.gapAfter.neutral.balanced]
  simp

theorem splitFrom_comma (filled : element.all isSpace = false) :
    splitFrom .start element done (0x2C :: rest) = splitFrom .start [] (element.reverse :: done) rest := by
  have ends : State.start.endsAt 0x2C = true := rfl
  have blank : ¬element.all isSpace = true := by simp [filled]
  rw [splitFrom, if_pos ends, if_neg blank]
  rfl

theorem splitFrom_closing (filled : element.all isSpace = false) :
    splitFrom .start element done (0x5D :: rest) = ((element.reverse :: done).reverse, .after rest) := by
  have ends : State.start.endsAt 0x5D = true := rfl
  have blank : ¬element.all isSpace = true := by simp [filled]
  rw [splitFrom, if_pos ends, if_neg blank]
  rfl

/-- The elements that are cut off are the pieces of the array with the gaps around them. -/
theorem splitFrom_pieces {pieces : List Piece} (all : ∀ q ∈ p :: pieces, IsElement q.text) (done : List Bytes)
    (trail : Bytes) :
    splitFrom .start [] done (p.bytes ++ (listedFrom false (pieces.map Piece.bytes) ++ 0x5D :: trail)) =
      (done.reverse ++ (p :: pieces).map Piece.bytes, .after trail) := by
  induction pieces generalizing p done with
  | nil =>
    have first := all p List.mem_cons_self
    have filled : p.bytes.reverse.all isSpace = false := List.all_reverse.trans first.notBlank
    rw [splitFrom_element first, List.map_nil, listedFrom, List.nil_append, splitFrom_closing filled,
      List.reverse_reverse, List.reverse_cons]
    rfl
  | cons q pieces ih =>
    obtain ⟨first, others⟩ := List.forall_mem_cons.mp all
    have filled : p.bytes.reverse.all isSpace = false := List.all_reverse.trans first.notBlank
    have next : listedFrom false ((q :: pieces).map Piece.bytes) ++ 0x5D :: trail =
        0x2C :: (q.bytes ++ (listedFrom false (pieces.map Piece.bytes) ++ 0x5D :: trail)) := by
      simp [listedFrom]
    rw [splitFrom_element first, next, splitFrom_comma filled, List.reverse_reverse, ih others, List.reverse_cons,
      List.append_assoc]
    rfl

/-- A piece without the gap before it. -/
def withoutLead (p : Piece) : Piece := { p with before := [], gapBefore := rfl }

/-- The pieces of an array as they are cut off: white space after the opening bracket is skipped. -/
def cutOff : List Piece → List Piece
  | [] => []
  | p :: pieces => withoutLead p :: pieces

theorem length_cutOff (pieces : List Piece) : (cutOff pieces).length = pieces.length := by
  cases pieces <;> rfl

theorem getElem?_cutOff {pieces : List Piece} {k : Nat} {p : Piece} (h : pieces[k]? = some p) :
    ∃ q, (cutOff pieces)[k]? = some q ∧ q.text = p.text := by
  cases pieces with
  | nil => cases h
  | cons head pieces =>
    cases k with
    | zero =>
      cases h
      exact ⟨withoutLead p, rfl, rfl⟩
    | succ k => exact ⟨p, h, rfl⟩

/-- Elements that are balanced are cut off one by one. -/
theorem split_pieces {inner : Bytes} {pieces : List Piece} (gap : IsGap inner)
    (all : ∀ p ∈ pieces, IsElement p.text) (trail : Bytes) :
    split (inner ++ (listed (pieces.map Piece.bytes) ++ 0x5D :: trail)) =
      ((cutOff pieces).map Piece.bytes, .after trail) := by
  rw [split, dropWhile_gap gap, Json.listed_eq]
  cases pieces with
  | nil => rfl
  | cons p pieces =>
    obtain ⟨first, others⟩ := List.forall_mem_cons.mp all
    have trimmed : IsElement (withoutLead p).text := first
    obtain ⟨b, rest, text, notSpace⟩ := first.starts
    -- Balanced bytes do not start with a closing bracket.
    have notClosing : ¬(b == 0x5D) = true := by
      intro closing
      have balanced := first.balanced
      rw [text, beq_iff_eq.mp closing] at balanced
      cases balanced
    have bytes : (withoutLead p).bytes = b :: (rest ++ p.after) := by
      rw [Piece.bytes, withoutLead, text]
      rfl
    have front : listedFrom true ((p :: pieces).map Piece.bytes) ++ 0x5D :: trail =
        p.before ++ ((withoutLead p).bytes ++ (listedFrom false (pieces.map Piece.bytes) ++ 0x5D :: trail)) := by
      simp [listedFrom, Piece.bytes, withoutLead]
    have cut := splitFrom_pieces (List.forall_mem_cons.mpr ⟨trimmed, others⟩) [] trail
    rw [bytes, List.cons_append] at cut
    rw [front, dropWhile_gap p.gapBefore, bytes, List.cons_append, List.dropWhile_cons, if_neg (by simp [notSpace])]
    exact (if_neg notClosing).trans cut

/-! ## The items of an array -/

/-- What an element of an array is to give: its row when it is an object, and else an error of this row. -/
structure GivesItem (index : Nat) (element : Bytes) (item : RowItem) : Prop where
  row : ∀ members, Json.parse element = .ok (.obj members) →
    ∃ cells, JsonRecord.ofJson (.obj members) = .ok cells ∧ item = .row ⟨index, cells⟩
  unreadable : (∀ members, Json.parse element ≠ .ok (.obj members)) → ∃ message, item = .unreadable ⟨index, message⟩

/-- An element gives its item whatever gaps are around it. -/
theorem givesItem_cells (p : Piece) (index : Nat) :
    GivesItem index p.text (.ofCells index (JsonRecord.cells p.bytes)) where
  row members object := by
    rw [JsonRecord.cells, (Json.parse_bytes p).mpr object]
    exact ⟨_, rfl, rfl⟩
  unreadable noObject := by
    rw [JsonRecord.cells]
    cases read : Json.parse p.bytes with
    | error e => exact ⟨e.message, rfl⟩
    | ok j =>
      have alone := (Json.parse_bytes p).mp read
      cases j with
      | obj members => exact absurd alone (noObject members)
      | _ => exact ⟨_, rfl⟩

/-- The rows of an array of balanced elements are those of its elements, as they are cut off. -/
theorem rows_arrayBytes {lead inner trail : Bytes} {pieces : List Piece} (gapLead : IsGap lead)
    (gapInner : IsGap inner) (gapTrail : IsGap trail) (all : ∀ p ∈ pieces, IsElement p.text) :
    rows (arrayBytes lead inner trail pieces) =
      RowItem.numbered ((cutOff pieces).map fun p => JsonRecord.cells p.bytes) := by
  have front : (arrayBytes lead inner trail pieces).dropWhile isSpace =
      0x5B :: (inner ++ (listed (pieces.map Piece.bytes) ++ 0x5D :: trail)) := by
    rw [arrayBytes, dropWhile_gap gapLead]
    rfl
  have closed : Ending.after trail = .closed := by
    have nothing : trail.dropWhile isSpace = [] := by
      rw [← List.append_nil trail, dropWhile_gap gapTrail]
      rfl
    rw [Ending.after, nothing]
  have isArray : ((0x5B : UInt8) == 0x5B) = true := rfl
  rw [rows, front]
  dsimp only
  rw [if_pos isArray, split_pieces gapInner all, closed, rowsOf, List.map_map]
  exact List.append_nil _

/-- A value of the grammar is an element. -/
theorem isElement_of_isValue {depth : Nat} {t : Bytes} (h : Json.IsValue depth t) : IsElement t where
  balanced := h.neutral.balanced
  starts := by
    obtain ⟨b, rest, rfl, visible, -⟩ := h.startsItem
    have formFeed : (b == 0x0C) = false := beq_false_of_ne (by rintro rfl; exact absurd visible (by decide))
    exact ⟨b, rest, rfl, Bool.or_eq_false_iff.mpr ⟨Json.notGap_of_visible visible, formFeed⟩⟩

/-- The cells of a piece are those of the value that is read of it. -/
theorem map_cells {pieces : List Piece} {values : List Json}
    (all : List.Forall₂ (fun p v => Json.parse p.text = .ok v) pieces values) :
    (pieces.map fun p => JsonRecord.cells p.bytes) = values.map JsonRecord.ofJson := by
  induction all with
  | nil => rfl
  | @cons p v pieces values first others ih =>
    have here : JsonRecord.cells p.bytes = JsonRecord.ofJson v := by
      rw [JsonRecord.cells, (Json.parse_bytes p).mpr first]
    rw [List.map_cons, List.map_cons, here, ih]

/-- The rows of a document that is read as an array are those of the items of the array. -/
theorem rows_of_parse {document : Bytes} {values : List Json} (h : Json.parse document = .ok (.arr values)) :
    rows document = RowItem.numbered (values.map JsonRecord.ofJson) := by
  obtain ⟨lead, inner, trail, pieces, gapLead, gapInner, gapTrail, rfl, isValue, all⟩ := Json.parse_array h
  rw [rows_arrayBytes gapLead gapInner gapTrail fun p hp => (isValue p hp).elim fun _ => isElement_of_isValue]
  have cut : List.Forall₂ (fun p v => Json.parse p.text = .ok v) (cutOff pieces) values := by
    cases all with
    | nil => exact .nil
    | cons first others => exact .cons first others
  rw [map_cells cut]

/--
**An array is read element by element, where a parser would cut it.** Take any number of balanced elements, put
gaps around them, commas between them, brackets and more gaps around all. The reader answers an item for each
element and then none: the row of an element that is an object, and an error of this row for any other,
whatever the elements beside it are.

Every text of JSON is balanced, and whatever is read as JSON is a text of JSON. So when a document is read as an
array, the reader answers its items, one by one and in order.
-/
theorem stream_elementwise :
    (∀ (lead inner trail : Bytes) (pieces : List Piece), IsGap lead → IsGap inner → IsGap trail →
      (∀ p ∈ pieces, IsElement p.text) →
        let reader := Format.json.stream (arrayBytes lead inner trail pieces)
        (∀ k p, pieces[k]? = some p → ∃ item, reader.answer k = some item ∧ GivesItem (k + 1) p.text item) ∧
          ∀ k, pieces.length ≤ k → reader.answer k = none) ∧
      (∀ t, Json.IsText t → Balanced t) ∧
      (∀ document j, Json.parse document = .ok j → Json.IsText document) ∧
      ∀ document values, Json.parse document = .ok (.arr values) →
        ∀ k, (Format.json.stream document).answer k =
          values[k]?.map fun value => .ofCells (k + 1) (JsonRecord.ofJson value) := by
  refine ⟨fun lead inner trail pieces gapLead gapInner gapTrail all => ?_, fun t => Json.IsText.balanced,
    fun document j => Json.isText_of_parse, fun document values h k => ?_⟩
  · have answer (k : Nat) : (Format.json.stream (arrayBytes lead inner trail pieces)).answer k =
        (cutOff pieces)[k]?.map fun p => .ofCells (k + 1) (JsonRecord.cells p.bytes) := by
      rw [RowStream.answer_stream, Format.rows, rows_arrayBytes gapLead gapInner gapTrail all,
        RowItem.getElem?_numbered, List.getElem?_map, Option.map_map]
      rfl
    refine ⟨fun k p here => ?_, fun k behind => ?_⟩
    · obtain ⟨q, cut, same⟩ := getElem?_cutOff here
      refine ⟨.ofCells (k + 1) (JsonRecord.cells q.bytes), ?_, same ▸ givesItem_cells q (k + 1)⟩
      rw [answer, cut, Option.map_some]
    · rw [answer, List.getElem?_eq_none (Nat.le_trans (Nat.le_of_eq (length_cutOff pieces)) behind), Option.map_none]
  · rw [RowStream.answer_stream, Format.rows, rows_of_parse h, RowItem.getElem?_numbered, List.getElem?_map,
      Option.map_map]
    rfl

/-- A bracket in a string, and an element that is broken, beside each other; and a document that is read whole. -/
theorem stream_elementwise_broken :
    let good : Piece := ⟨[0x20], Text.encode "\x7b\"a\": \"],\"\x7d", [], rfl, rfl⟩
    let broken : Piece := ⟨[], Text.encode "\x7b\"a\" 1\x7d", [0x0A], rfl, rfl⟩
    let reader := Format.json.stream (arrayBytes [0x20] [] [] [broken, good])
    let document := Text.encode "[\x7b\x7d, 2]"
    (∀ p ∈ [broken, good], IsElement p.text) ∧
      (∃ message, reader.answer 0 = some (.unreadable ⟨1, message⟩)) ∧
      (∃ cells, reader.answer 1 = some (.row ⟨2, cells⟩)) ∧ reader.answer 2 = none ∧
      Json.parse document = .ok (.arr [.obj [], .num (.whole 2)]) ∧ Balanced document ∧
      (Format.json.stream document).answer 0 = some (.row ⟨1, .ofList []⟩) := by
  intro good broken reader document
  obtain ⟨elements, balanced, texts, arrays⟩ := stream_elementwise
  have all : ∀ p ∈ [broken, good], IsElement p.text := by
    refine List.forall_mem_cons.mpr ⟨⟨by decide +kernel, _, _, rfl, by decide⟩, List.forall_mem_cons.mpr ⟨?_, nofun⟩⟩
    exact ⟨by decide +kernel, _, _, rfl, by decide⟩
  have parsed : Json.parse document = .ok (.arr [.obj [], .num (.whole 2)]) := by rfl
  obtain ⟨answers, ends⟩ := elements [0x20] [] [] [broken, good] rfl rfl rfl all
  refine ⟨all, ?_, ?_, ends 2 (by decide), parsed, balanced _ (texts _ _ parsed), arrays document _ parsed 0⟩
  · obtain ⟨item, answer, -, unreadable⟩ := answers 0 broken rfl
    have refused : Json.parse broken.text = .error .expectedColon := by rfl
    obtain ⟨message, rfl⟩ := unreadable fun members object => by cases refused.symm.trans object
    exact ⟨message, answer⟩
  · obtain ⟨item, answer, row, -⟩ := answers 1 good rfl
    have object : Json.parse good.text = .ok (.obj [("a", .str "],")]) := by rfl
    obtain ⟨cells, -, rfl⟩ := row _ object
    exact ⟨cells, answer⟩

end RecordGate.JsonArray
