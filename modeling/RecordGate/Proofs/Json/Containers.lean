import Mathlib.Data.List.Forall2
import RecordGate.Proofs.Json.Strings

/-!
# Reading arrays and objects

Given a reader of values, what is read as an array is texts with commas between them, each read by this reader
(`Json.items_sound`), and what is read as an object is names and such texts (`Json.members_sound`). The other way
round, texts that are read one by one are read as an array or an object (`Json.items_reads`,
`Json.members_reads`).
-/

namespace RecordGate.Json

variable {α : Type}

/-- A reader reads a text in one way, whatever follows it, if its fuel lasts for the text. -/
def Reads (read : Nat → Bytes → Except ParseError (α × Bytes)) (t : Bytes) (a : α) : Prop :=
  ∀ fuel after, t.length ≤ fuel → Stops after → read fuel (t ++ after) = .ok (a, after)

/-! ## Items of containers -/

/-- Texts behind each other with a comma before each, except for the first if nothing is before it. -/
def listedFrom (first : Bool) : List Bytes → Bytes
  | [] => []
  | t :: rest => (if first then t else 0x2C :: t) ++ listedFrom false rest

theorem listed_eq (texts : List Bytes) : listed texts = listedFrom true texts := by
  have behind (texts : List Bytes) : texts.flatMap (0x2C :: ·) = listedFrom false texts := by
    induction texts with
    | nil => rfl
    | cons t rest ih => rw [List.flatMap_cons, ih]; rfl
  cases texts with
  | nil => rfl
  | cons t rest =>
    rw [listed_cons, behind]
    rfl

theorem length_le_separated (first : Bool) (t : Bytes) : t.length ≤ (if first then t else 0x2C :: t).length := by
  cases first with
  | true => exact Nat.le_refl _
  | false => exact Nat.le_succ _

/-- What a reader of values takes off an input, after gaps, is a text that another reader reads in the same way. -/
def ReadsLike (Part : Bytes → Prop) (read read' : Nat → Bytes → Except ParseError (α × Bytes)) : Prop :=
  ∀ fuel input a rest, read fuel input = .ok (a, rest) →
    ∃ g t, IsGap g ∧ Part t ∧ Reads read' t a ∧ input = g ++ (t ++ rest)

/-- A text that an item may be: it starts with a visible byte that is not the end of an array. -/
def StartsItem (t : Bytes) : Prop := ∃ b rest, t = b :: rest ∧ 0x20 < b ∧ b ≠ 0x5D

section Items

variable {item item' : Nat → Bytes → Except ParseError (Json × Bytes)} {Part : Bytes → Prop} {first : Bool}
  {input rest : Bytes}

theorem nextItem_closed (h : nextItem first input = .ok (.closed rest)) :
    ∃ g, IsGap g ∧ input = g ++ 0x5D :: rest := by
  obtain ⟨g, gap, split⟩ := exists_gap input
  unfold nextItem at h
  split at h
  · cases h
  next b left front =>
  split at h
  · next closing =>
    cases h
    exact ⟨g, gap, by rw [split, front, beq_iff_eq.mp closing]⟩
  split at h
  · cases h
  split at h
  · split at h
    · cases h
    · split at h <;> cases h
  · cases h

theorem nextItem_found (h : nextItem first input = .ok (.found () rest)) :
    ∃ g g', IsGap g ∧ IsGap g' ∧ input = g ++ (if first then rest else 0x2C :: (g' ++ rest)) := by
  obtain ⟨g, gap, split⟩ := exists_gap input
  unfold nextItem at h
  split at h
  · cases h
  next b left front =>
  split at h
  · cases h
  split at h
  · next isFirst =>
    cases h
    exact ⟨g, [], gap, rfl, by rw [if_pos isFirst, ← front, ← split]⟩
  next isFirst =>
  split at h
  · next comma =>
    obtain ⟨g', gap', split'⟩ := exists_gap left
    split at h
    · cases h
    next c left' front' =>
    split at h
    · cases h
    · cases h
      refine ⟨g, g', gap, gap', ?_⟩
      rw [if_neg isFirst, split, front, beq_iff_eq.mp comma, split', front']
  · cases h

/-- The items that are read as an array are read one by one from texts of the array. -/
theorem items_sound (like : ReadsLike Part item item') {fuel : Nat} {done : List Json} {j : Json}
    (h : items item fuel done input = .ok (j, rest)) :
    ∃ (g : Bytes) (pieces : List Piece) (values : List Json), IsGap g ∧ (∀ p ∈ pieces, Part p.text) ∧
      List.Forall₂ (fun p v => Reads item' p.text v) pieces values ∧
      j = .arr (done.reverse ++ values) ∧
      input = g ++ (listedFrom done.isEmpty (pieces.map Piece.bytes) ++ 0x5D :: rest) := by
  induction fuel generalizing done input with
  | zero => cases h
  | succ fuel ih =>
    rw [items] at h
    split at h
    · cases h
    · next left next =>
      cases h
      obtain ⟨g, gap, rfl⟩ := nextItem_closed next
      exact ⟨g, [], [], gap, nofun, .nil, by rw [List.append_nil], rfl⟩
    · next left next =>
      obtain ⟨g, g', gap, gap', rfl⟩ := nextItem_found next
      split at h
      · cases h
      next value left' read =>
      obtain ⟨g'', t, gap'', part, reads, rfl⟩ := like _ _ _ _ read
      obtain ⟨after, pieces, values, gapAfter, parts, all, rfl, rfl⟩ := ih h
      by_cases isFirst : done.isEmpty
      · refine ⟨g, ⟨g'', t, after, gap'', gapAfter⟩ :: pieces, value :: values, gap,
          List.forall_mem_cons.mpr ⟨part, parts⟩, .cons reads all, ?_, ?_⟩
        · simp
        · simp [isFirst, listedFrom, Piece.bytes]
      · refine ⟨g, ⟨g' ++ g'', t, after, gap'.append gap'', gapAfter⟩ :: pieces, value :: values, gap,
          List.forall_mem_cons.mpr ⟨part, parts⟩, .cons reads all, ?_, ?_⟩
        · simp
        · simp [isFirst, listedFrom, Piece.bytes]

/-- What follows an item does not go on with a number. -/
theorem stops_behind {g : Bytes} (gap : IsGap g) {closing : UInt8} (closes : inNumber closing = false)
    (texts : List Bytes) (after : Bytes) : Stops (g ++ (listedFrom false texts ++ closing :: after)) := by
  cases g with
  | cons b rest => exact clear_cons.mpr (not_inNumber_of_isGap (Bool.and_eq_true_iff.mp gap).1)
  | nil =>
    cases texts with
    | nil => exact clear_cons.mpr closes
    | cons t texts => exact clear_cons.mpr rfl

theorem nextItem_closing {g : Bytes} (gap : IsGap g) (first : Bool) (after : Bytes) :
    nextItem first (g ++ 0x5D :: after) = .ok (.closed after) := by
  rw [nextItem, skipGaps_append gap, skipGaps_cons (by decide)]
  rfl

theorem nextItem_item {g g' t : Bytes} (gap : IsGap g) (gap' : IsGap g') (starts : StartsItem t) (first : Bool)
    (after : Bytes) :
    nextItem first (g ++ ((if first then g' ++ t else 0x2C :: (g' ++ t)) ++ after)) = .ok (.found () (t ++ after)) := by
  obtain ⟨b, rest, rfl, visible, notClosing⟩ := starts
  have notGap := notGap_of_visible visible
  have closing : ¬(b == 0x5D) = true := by simpa using notClosing
  cases first with
  | true =>
    rw [if_pos rfl, nextItem, skipGaps_append gap, List.append_assoc, skipGaps_append gap', List.cons_append,
      skipGaps_cons notGap]
    exact (if_neg closing).trans (if_pos rfl)
  | false =>
    have comma : skipGaps (g ++ (0x2C :: (g' ++ b :: rest) ++ after)) = 0x2C :: (g' ++ (b :: rest ++ after)) := by
      rw [skipGaps_append gap, List.cons_append, List.append_assoc]
      exact skipGaps_cons (by decide) _
    have item : skipGaps (g' ++ (b :: rest ++ after)) = b :: (rest ++ after) := by
      rw [skipGaps_append gap']
      exact skipGaps_cons notGap _
    have isComma : ((0x2C : UInt8) == 0x2C) = true := rfl
    rw [if_neg (by decide), nextItem, comma]
    dsimp only
    rw [if_neg (by decide), if_neg (by decide), if_pos isComma, item]
    exact if_neg closing

/-- An array whose items are read one by one is read. -/
theorem items_reads {pieces : List Piece} {values : List Json} (starts : ∀ p ∈ pieces, StartsItem p.text)
    (all : List.Forall₂ (fun p v => Reads item p.text v) pieces values) {g : Bytes} (gap : IsGap g) {fuel : Nat}
    (done : List Json) (after : Bytes)
    (le : (g ++ (listedFrom done.isEmpty (pieces.map Piece.bytes) ++ [0x5D])).length ≤ fuel) :
    items item fuel done (g ++ (listedFrom done.isEmpty (pieces.map Piece.bytes) ++ 0x5D :: after)) =
      .ok (.arr (done.reverse ++ values), after) := by
  induction all generalizing g fuel done with
  | nil =>
    rw [List.map_nil, listedFrom, List.nil_append, List.length_append, List.length_singleton] at le
    obtain ⟨fuel, rfl⟩ : ∃ more, fuel = more + 1 := Nat.exists_eq_add_one.mpr (by omega)
    rw [List.map_nil, listedFrom, List.nil_append, items, nextItem_closing gap, List.append_nil]
  | @cons p v pieces values reads all ih =>
    obtain ⟨starts, others⟩ := List.forall_mem_cons.mp starts
    let behind (after : Bytes) : Bytes := p.after ++ (listedFrom false (pieces.map Piece.bytes) ++ 0x5D :: after)
    have split (after : Bytes) : listedFrom done.isEmpty ((p :: pieces).map Piece.bytes) ++ 0x5D :: after =
        (if done.isEmpty then p.before ++ p.text else 0x2C :: (p.before ++ p.text)) ++ behind after := by
      cases done.isEmpty <;> simp [listedFrom, Piece.bytes, behind]
    rw [split, List.length_append, List.length_append] at le
    have some : 0 < p.text.length := by
      obtain ⟨b, rest, same, -⟩ := starts
      rw [same]
      exact Nat.succ_pos _
    have item_le := length_le_separated done.isEmpty (p.before ++ p.text)
    rw [List.length_append] at item_le
    have rest_pos : 0 < (behind []).length := by
      simp only [behind, List.length_append, List.length_singleton]
      omega
    obtain ⟨fuel, rfl⟩ : ∃ more, fuel = more + 1 := Nat.exists_eq_add_one.mpr (by omega)
    have stops : Stops (behind after) := stops_behind p.gapAfter rfl _ after
    rw [split, items, nextItem_item gap p.gapBefore starts]
    dsimp only
    rw [reads fuel (behind after) (by omega) stops]
    have rest := ih others p.gapAfter (v :: done) (by change (behind []).length ≤ fuel; omega)
    rw [List.reverse_cons, List.append_assoc] at rest
    exact rest

end Items

/-! ## Members of objects -/

/-- A member is read as a name and a value, whatever follows either. -/
structure ReadsMember (item : Nat → Bytes → Except ParseError (Json × Bytes)) (m : Member) (v : String × Json) :
    Prop where
  name : ∃ t, m.name.text = 0x22 :: t ∧ ∀ fuel after, t.length ≤ fuel → string fuel (t ++ after) = .ok (v.1, after)
  value : Reads item m.value.text v.2

section Members

variable {item item' : Nat → Bytes → Except ParseError (Json × Bytes)} {Part : Bytes → Prop} {first : Bool}
  {fuel : Nat} {input rest : Bytes} {name : String}

theorem nextName_closed (h : nextName first fuel input = .ok (.closed rest)) :
    ∃ g, IsGap g ∧ input = g ++ 0x7D :: rest := by
  obtain ⟨g, gap, split⟩ := exists_gap input
  unfold nextName at h
  split at h
  · cases h
  next b left front =>
  split at h
  · next closing =>
    cases h
    exact ⟨g, gap, by rw [split, front, beq_iff_eq.mp closing]⟩
  -- A name is never the end of an object.
  have named {left : Bytes} (h : (string fuel left).map (fun read => Next.found read.1 read.2) = .ok (.closed rest)) :
      False := by
    obtain ⟨read, -, same⟩ := map_eq_ok.mp h
    cases same
  dsimp only at h
  split at h
  · split at h
    · exact (named h).elim
    · cases h
  split at h
  · split at h
    · cases h
    split at h
    · exact (named h).elim
    · split at h <;> cases h
  · cases h

theorem nextName_found (h : nextName first fuel input = .ok (.found name rest)) :
    ∃ g g' left, IsGap g ∧ IsGap g' ∧ string fuel left = .ok (name, rest) ∧
      input = g ++ (if first then 0x22 :: left else 0x2C :: (g' ++ 0x22 :: left)) := by
  obtain ⟨g, gap, split⟩ := exists_gap input
  have named {left : Bytes} (h : (string fuel left).map (fun read => Next.found read.1 read.2) = .ok (.found name rest)) :
      string fuel left = .ok (name, rest) := by
    obtain ⟨read, ok, same⟩ := map_eq_ok.mp h
    cases same
    exact ok
  unfold nextName at h
  split at h
  · cases h
  next b left front =>
  split at h
  · cases h
  dsimp only at h
  split at h
  · next isFirst =>
    split at h
    · next quote =>
      exact ⟨g, [], left, gap, rfl, named h, by rw [if_pos isFirst, split, front, beq_iff_eq.mp quote]⟩
    · cases h
  next isFirst =>
  split at h
  · next comma =>
    obtain ⟨g', gap', split'⟩ := exists_gap left
    split at h
    · cases h
    next c left' front' =>
    split at h
    · next quote =>
      refine ⟨g, g', left', gap, gap', named h, ?_⟩
      rw [if_neg isFirst, split, front, beq_iff_eq.mp comma, split', front', beq_iff_eq.mp quote]
    · split at h <;> cases h
  · cases h

theorem colon_sound (h : colon input = .ok rest) : ∃ g, IsGap g ∧ input = g ++ 0x3A :: rest := by
  obtain ⟨g, gap, split⟩ := exists_gap input
  unfold colon at h
  split at h
  · cases h
  next b left front =>
  split at h
  · next isColon =>
    cases h
    exact ⟨g, gap, by rw [split, front, beq_iff_eq.mp isColon]⟩
  · cases h

/-- The members that are read as an object are read one by one from texts of the object. -/
theorem members_sound (like : ReadsLike Part item item') {done : List (String × Json)} {j : Json}
    (h : members item fuel done input = .ok (j, rest)) :
    ∃ (g : Bytes) (ms : List Member) (vs : List (String × Json)), IsGap g ∧
      (∀ m ∈ ms, IsString m.name.text ∧ Part m.value.text) ∧ List.Forall₂ (ReadsMember item') ms vs ∧
      j = ofMembers (done.reverse ++ vs) ∧
      input = g ++ (listedFrom done.isEmpty (ms.map Member.bytes) ++ 0x7D :: rest) := by
  induction fuel generalizing done input with
  | zero => cases h
  | succ fuel ih =>
    rw [members] at h
    split at h
    · cases h
    · next left next =>
      cases h
      obtain ⟨g, gap, rfl⟩ := nextName_closed next
      exact ⟨g, [], [], gap, nofun, .nil, by rw [List.append_nil], rfl⟩
    · next name left next =>
      obtain ⟨g, g', quoted, gap, gap', named, rfl⟩ := nextName_found next
      obtain ⟨t, isTail, rfl, readsName⟩ := string_sound named
      split at h
      · cases h
      next left' isColon =>
      obtain ⟨g₁, gap₁, rfl⟩ := colon_sound isColon
      split at h
      · cases h
      next value left'' read =>
      obtain ⟨g₂, u, gap₂, part, reads, rfl⟩ := like _ _ _ _ read
      obtain ⟨after, ms, vs, gapAfter, parts, all, rfl, rfl⟩ := ih h
      let m (before : Bytes) (isGap : IsGap before) : Member :=
        ⟨⟨before, 0x22 :: t, g₁, isGap, gap₁⟩, ⟨g₂, u, after, gap₂, gapAfter⟩⟩
      have member (before : Bytes) (isGap : IsGap before) : ReadsMember item' (m before isGap) (name, value) :=
        ⟨⟨t, rfl, readsName⟩, reads⟩
      have parts (before : Bytes) (isGap : IsGap before) :
          ∀ n ∈ m before isGap :: ms, IsString n.name.text ∧ Part n.value.text :=
        List.forall_mem_cons.mpr ⟨⟨⟨t, isTail, rfl⟩, part⟩, parts⟩
      by_cases isFirst : done.isEmpty
      · refine ⟨g, m [] rfl :: ms, (name, value) :: vs, gap, parts [] rfl, .cons (member [] rfl) all, ?_, ?_⟩
        · simp
        · simp [isFirst, listedFrom, Member.bytes, Piece.bytes, m]
      · refine ⟨g, m g' gap' :: ms, (name, value) :: vs, gap, parts g' gap', .cons (member g' gap') all, ?_, ?_⟩
        · simp
        · simp [isFirst, listedFrom, Member.bytes, Piece.bytes, m]

theorem nextName_closing {g : Bytes} (gap : IsGap g) (first : Bool) (fuel : Nat) (after : Bytes) :
    nextName first fuel (g ++ 0x7D :: after) = .ok (.closed after) := by
  rw [nextName, skipGaps_append gap, skipGaps_cons (by decide)]
  rfl

theorem nextName_name {g g' : Bytes} (gap : IsGap g) (gap' : IsGap g') (first : Bool) (left : Bytes)
    (h : string fuel left = .ok (name, rest)) :
    nextName first fuel (g ++ (if first then g' ++ 0x22 :: left else 0x2C :: (g' ++ 0x22 :: left))) =
      .ok (.found name rest) := by
  have quote : skipGaps (g' ++ 0x22 :: left) = 0x22 :: left := by
    rw [skipGaps_append gap']
    exact skipGaps_cons (by decide) _
  cases first with
  | true =>
    rw [if_pos rfl, nextName, skipGaps_append gap, quote]
    dsimp only
    rw [if_neg (by decide), if_pos rfl, h]
    rfl
  | false =>
    have comma : skipGaps (g ++ 0x2C :: (g' ++ 0x22 :: left)) = 0x2C :: (g' ++ 0x22 :: left) := by
      rw [skipGaps_append gap]
      exact skipGaps_cons (by decide) _
    have isComma : ((0x2C : UInt8) == 0x2C) = true := rfl
    have isQuote : ((0x22 : UInt8) == 0x22) = true := rfl
    rw [if_neg (by decide), nextName, comma]
    dsimp only
    rw [if_neg (by decide), if_neg (by decide), if_pos isComma, quote]
    dsimp only
    rw [if_pos isQuote, h]
    rfl

theorem colon_reads {g : Bytes} (gap : IsGap g) (after : Bytes) : colon (g ++ 0x3A :: after) = .ok after := by
  rw [colon, skipGaps_append gap, skipGaps_cons (by decide)]
  rfl

/-- A reader of values does not look at gaps before a value. -/
def SkipsGaps (item : Nat → Bytes → Except ParseError (Json × Bytes)) : Prop :=
  ∀ fuel g input, IsGap g → item fuel (g ++ input) = item fuel input

/-- An object whose members are read one by one is read. -/
theorem members_reads (skips : SkipsGaps item) {ms : List Member} {vs : List (String × Json)}
    (all : List.Forall₂ (ReadsMember item) ms vs) {g : Bytes} (gap : IsGap g) (done : List (String × Json))
    (after : Bytes) (le : (g ++ (listedFrom done.isEmpty (ms.map Member.bytes) ++ [0x7D])).length ≤ fuel) :
    members item fuel done (g ++ (listedFrom done.isEmpty (ms.map Member.bytes) ++ 0x7D :: after)) =
      .ok (ofMembers (done.reverse ++ vs), after) := by
  induction all generalizing g fuel done with
  | nil =>
    rw [List.map_nil, listedFrom, List.nil_append, List.length_append, List.length_singleton] at le
    obtain ⟨fuel, rfl⟩ : ∃ more, fuel = more + 1 := Nat.exists_eq_add_one.mpr (by omega)
    rw [List.map_nil, listedFrom, List.nil_append, members, nextName_closing gap, List.append_nil]
  | @cons m v ms vs first all ih =>
    obtain ⟨⟨t, quoted, readsName⟩, reads⟩ := first
    let behind (after : Bytes) : Bytes := m.value.after ++ (listedFrom false (ms.map Member.bytes) ++ 0x7D :: after)
    let value (after : Bytes) : Bytes := m.value.before ++ (m.value.text ++ behind after)
    let left (after : Bytes) : Bytes := t ++ (m.name.after ++ 0x3A :: value after)
    have split (after : Bytes) : listedFrom done.isEmpty ((m :: ms).map Member.bytes) ++ 0x7D :: after =
        if done.isEmpty then m.name.before ++ 0x22 :: left after
        else 0x2C :: (m.name.before ++ 0x22 :: left after) := by
      cases done.isEmpty <;> simp [listedFrom, Member.bytes, Piece.bytes, behind, value, left, quoted]
    have left_le := length_le_separated done.isEmpty (m.name.before ++ 0x22 :: left [])
    rw [List.length_append, List.length_cons] at left_le
    rw [split, List.length_append] at le
    obtain ⟨fuel, rfl⟩ : ∃ more, fuel = more + 1 := Nat.exists_eq_add_one.mpr (by omega)
    have parts : (left []).length = t.length + (m.name.after.length + (m.value.before.length +
        (m.value.text.length + (behind []).length) + 1)) := by
      simp [left, value]
    have stops : Stops (behind after) := stops_behind m.value.gapAfter rfl _ after
    rw [split, members, nextName_name gap m.name.gapBefore _ _ (readsName fuel _ (by omega))]
    dsimp only
    rw [colon_reads m.name.gapAfter]
    dsimp only
    rw [skips _ _ _ m.value.gapBefore, reads fuel (behind after) (by omega) stops]
    have rest := ih m.value.gapAfter (v :: done) (by change (behind []).length ≤ fuel; omega)
    rw [List.reverse_cons, List.append_assoc] at rest
    exact rest

end Members

end RecordGate.Json
