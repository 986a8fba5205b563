import Mathlib.Data.List.Nodup
import RecordGate.Record

/-!
# Looking up what was put into a record

`Record.set` changes one name and no other (`Record.get?_set`), so a record that is filled item by item
holds every item under its name when the names are distinct (`Record.get?_fill`). Records that hold the same under
every name are the same (`Record.ext_get?`).
-/

namespace RecordGate.Record

variable {α : Type}

theorem find?_insertEntry (name wanted : String) (value : α) (es : List (String × α)) :
    (insertEntry name value es).find? (·.1 == wanted) =
      if name = wanted then some (name, value) else es.find? (·.1 == wanted) := by
  induction es with
  | nil =>
    rw [insertEntry, List.find?_singleton]
    simp only [beq_iff_eq, List.find?_nil]
  | cons e rest ih =>
    unfold insertEntry
    by_cases less : name < e.1
    · rw [if_pos less, List.find?_cons]
      by_cases same : name = wanted
      · rw [if_pos same, beq_iff_eq.mpr same]
      · rw [if_neg same, beq_false_of_ne same]
    · rw [if_neg less]
      by_cases replaced : name = e.1
      · rw [if_pos replaced, List.find?_cons, List.find?_cons, ← replaced]
        by_cases same : name = wanted
        · rw [if_pos same, beq_iff_eq.mpr same]
        · rw [if_neg same, beq_false_of_ne same]
      · rw [if_neg replaced, List.find?_cons, List.find?_cons, ih]
        by_cases found : e.1 = wanted
        · have other : name ≠ wanted := found ▸ replaced
          rw [if_neg other, if_neg other, beq_iff_eq.mpr found]
        · rw [beq_false_of_ne found]

/-- **A name holds what was put there last**, and the other names are as they were. -/
theorem get?_set (r : Record α) (name wanted : String) (value : α) :
    (r.set name value).get? wanted = if name = wanted then some value else r.get? wanted := by
  rw [get?, set, find?_insertEntry]
  split <;> rfl

theorem get?_set_self (r : Record α) (name : String) (value : α) : (r.set name value).get? name = some value := by
  rw [get?_set, if_pos rfl]

theorem get?_set_of_ne (r : Record α) {name wanted : String} (value : α) (h : name ≠ wanted) :
    (r.set name value).get? wanted = r.get? wanted := by
  rw [get?_set, if_neg h]

/-! ## The entries of a record -/

theorem nodup_names (r : Record α) : (r.entries.map Prod.fst).Nodup := by
  refine List.pairwise_map.mpr (r.ascending.imp fun {a b} less same => ?_)
  rw [same] at less
  exact String.lt_irrefl b.1 less

/-- Where no name stands twice, the entry of a name is the one that is there. -/
theorem find?_name_eq_some {es : List (String × α)} (distinct : (es.map Prod.fst).Nodup) {name : String}
    {e : String × α} : es.find? (·.1 == name) = some e ↔ e ∈ es ∧ e.1 = name := by
  have named {f : String × α} (found : es.find? (·.1 == name) = some f) : f.1 = name :=
    beq_iff_eq.mp (List.find?_some (p := fun f : String × α => f.1 == name) found)
  constructor
  · intro found
    exact ⟨List.mem_of_find?_eq_some found, named found⟩
  · rintro ⟨mem, same⟩
    cases found : es.find? (fun f => f.1 == name) with
    | none => exact absurd (beq_iff_eq.mpr same) (List.find?_eq_none.mp found _ mem)
    | some f =>
      rw [List.inj_on_of_nodup_map distinct (List.mem_of_find?_eq_some found) mem ((named found).trans same.symm)]

/-- An entry is what its name holds. -/
theorem mem_entries_iff {r : Record α} {name : String} {value : α} :
    (name, value) ∈ r.entries ↔ r.get? name = some value := by
  rw [get?, Option.map_eq_some_iff]
  constructor
  · intro mem
    exact ⟨(name, value), (find?_name_eq_some r.nodup_names).mpr ⟨mem, rfl⟩, rfl⟩
  · rintro ⟨e, found, rfl⟩
    obtain ⟨mem, rfl⟩ := (find?_name_eq_some r.nodup_names).mp found
    exact mem

theorem get?_erase (r : Record α) (name wanted : String) :
    (r.erase name).get? wanted = if name = wanted then none else r.get? wanted := by
  refine Option.ext fun value => ?_
  rw [← mem_entries_iff, erase, List.mem_filter, bne_iff_ne, mem_entries_iff]
  split
  · next same => exact ⟨fun h => absurd same.symm h.2, nofun⟩
  · next other => exact ⟨And.left, fun h => ⟨h, Ne.symm other⟩⟩

theorem get?_map {β : Type} (f : α → β) (r : Record α) (name : String) : (r.map f).get? name = (r.get? name).map f := by
  rw [get?, map, List.find?_map, Option.map_map, get?, Option.map_map]
  rfl

theorem mem_names_iff {r : Record α} {name : String} : name ∈ r.names ↔ ∃ value, r.get? name = some value := by
  rw [names, List.mem_map]
  constructor
  · rintro ⟨e, inside, rfl⟩
    exact ⟨e.2, mem_entries_iff.mp inside⟩
  · rintro ⟨value, found⟩
    exact ⟨(name, value), mem_entries_iff.mpr found, rfl⟩

/-- **A record is told by what its names hold.** -/
theorem ext_get? {r s : Record α} (same : ∀ name, r.get? name = s.get? name) : r = s := by
  have perm : r.entries.Perm s.entries := by
    refine (List.perm_ext_iff_of_nodup r.nodup_names.of_map s.nodup_names.of_map).mpr fun e => ?_
    rw [mem_entries_iff, mem_entries_iff, same]
  have entries : r.entries = s.entries := by
    refine perm.eq_of_pairwise (fun a b _ _ less more => ?_) r.ascending s.ascending
    exact absurd (String.lt_trans less more) (String.lt_irrefl _)
  cases r
  cases s
  cases entries
  rfl

/-! ## Filling a record -/

section Filling

variable {β : Type} {name : β → String} {value : β → α} {items : List β} {r : Record α}

theorem get?_fill_of_notMem {wanted : String} (h : wanted ∉ items.map name) :
    (items.foldl (fun r b => r.set (name b) (value b)) r).get? wanted = r.get? wanted := by
  induction items generalizing r with
  | nil => rfl
  | cons b rest ih =>
    have other : wanted ≠ name b := List.ne_of_not_mem_cons h
    rw [List.foldl_cons, ih (List.not_mem_of_not_mem_cons h), get?_set_of_ne r (value b) other.symm]

/-- Of items with distinct names each is found under its name. -/
theorem get?_fill (distinct : (items.map name).Nodup) {b : β} (hb : b ∈ items) :
    (items.foldl (fun r b => r.set (name b) (value b)) r).get? (name b) = some (value b) := by
  induction items generalizing r with
  | nil => exact absurd hb List.not_mem_nil
  | cons c rest ih =>
    obtain ⟨fresh, distinct⟩ := List.nodup_cons.mp distinct
    rw [List.foldl_cons]
    rcases List.mem_cons.mp hb with rfl | hb
    · rw [get?_fill_of_notMem fresh, get?_set_self]
    · exact ih distinct hb

end Filling

/-- Setting the entries of a record one by one gives what the record holds. -/
theorem get?_refill (r : Record α) (name : String) :
    (r.entries.foldl (fun s e => s.set e.1 e.2) empty).get? name = r.get? name := by
  cases found : r.get? name with
  | some value => exact get?_fill r.nodup_names (mem_entries_iff.mpr found)
  | none =>
    refine get?_fill_of_notMem fun mem => ?_
    obtain ⟨e, inside, rfl⟩ := List.mem_map.mp mem
    rw [mem_entries_iff.mp inside] at found
    cases found

/-- A record is made of its own entries. -/
theorem ofList_entries (r : Record α) : ofList r.entries = r := ext_get? (get?_refill r)

theorem map_map {β γ : Type} (f : α → β) (g : β → γ) (r : Record α) : (r.map f).map g = r.map fun a => g (f a) := by
  refine ext_get? fun name => ?_
  rw [get?_map, get?_map, get?_map, Option.map_map]
  rfl

end RecordGate.Record
