/-!
# Records

A record holds named entries in the order of their names, each name once. Rows of cells, rows of typed
values and tables of aliases are records.

Main definitions: `Record`, `Record.set`, `Record.get?`, `Record.ofList` (a later entry wins).
-/

namespace RecordGate

/-- Named entries in ascending order of their names. -/
structure Record (α : Type) where
  entries : List (String × α)
  ascending : entries.Pairwise fun a b => a.1 < b.1

namespace Record

variable {α β : Type}

/-- Puts an entry into ascending entries, in place of one of the same name. -/
def insertEntry (name : String) (value : α) : List (String × α) → List (String × α)
  | [] => [(name, value)]
  | e :: rest =>
    if name < e.1 then (name, value) :: e :: rest
    else if name = e.1 then (name, value) :: rest
    else e :: insertEntry name value rest

theorem mem_insertEntry {name : String} {value : α} {es : List (String × α)} {e : String × α}
    (h : e ∈ insertEntry name value es) : e = (name, value) ∨ e ∈ es := by
  induction es with
  | nil => simpa [insertEntry] using h
  | cons f rest ih =>
    unfold insertEntry at h
    split at h
    · simpa using h
    · split at h
      · rcases List.mem_cons.mp h with h | h
        · exact .inl h
        · exact .inr (List.mem_cons_of_mem _ h)
      · rcases List.mem_cons.mp h with h | h
        · exact .inr (h ▸ List.mem_cons_self)
        · exact (ih h).imp_right (List.mem_cons_of_mem _)

theorem pairwise_insertEntry {name : String} {value : α} {es : List (String × α)}
    (h : es.Pairwise fun a b => a.1 < b.1) :
    (insertEntry name value es).Pairwise fun a b => a.1 < b.1 := by
  induction es with
  | nil => simp [insertEntry]
  | cons f rest ih =>
    have ⟨first, others⟩ := List.pairwise_cons.mp h
    unfold insertEntry
    split
    · next lt =>
      refine List.pairwise_cons.mpr ⟨fun e he => ?_, h⟩
      rcases List.mem_cons.mp he with rfl | he
      · exact lt
      · exact String.lt_trans lt (first e he)
    · split
      · next eq => exact List.pairwise_cons.mpr ⟨fun e he => eq ▸ first e he, others⟩
      · next nlt ne =>
        refine List.pairwise_cons.mpr ⟨fun e he => ?_, ih others⟩
        rcases mem_insertEntry he with rfl | he
        · exact Decidable.byContradiction fun h' =>
            ne (String.le_antisymm (String.not_lt.mp h') (String.not_lt.mp nlt))
        · exact first e he

/-- No entries. -/
def empty : Record α := ⟨[], .nil⟩

instance : Inhabited (Record α) := ⟨empty⟩

instance [DecidableEq α] : DecidableEq (Record α) := fun a b =>
  match decEq a.entries b.entries with
  | .isTrue h => .isTrue (by cases a; cases b; cases h; rfl)
  | .isFalse h => .isFalse (fun e => h (e ▸ rfl))

/-- Puts an entry in, in place of one of the same name. -/
def set (r : Record α) (name : String) (value : α) : Record α :=
  ⟨insertEntry name value r.entries, pairwise_insertEntry r.ascending⟩

/-- The entry of the given name. -/
def get? (r : Record α) (name : String) : Option α :=
  (r.entries.find? (·.1 == name)).map (·.2)

/-- The names, in order. -/
def names (r : Record α) : List String := r.entries.map (·.1)

/-- The values, in the order of their names. -/
def values (r : Record α) : List α := r.entries.map (·.2)

def isEmpty (r : Record α) : Bool := r.entries.isEmpty

/-- The entries of a list; of entries with one name the last stays. -/
def ofList (entries : List (String × α)) : Record α :=
  entries.foldl (fun r e => r.set e.1 e.2) empty

/-- Changes every value. -/
def map (f : α → β) (r : Record α) : Record β :=
  ⟨r.entries.map fun e => (e.1, f e.2), List.pairwise_map.mpr r.ascending⟩

/-- Drops the entry of a name. -/
def erase (r : Record α) (name : String) : Record α :=
  ⟨r.entries.filter (·.1 != name), r.ascending.filter _⟩

end Record

end RecordGate
