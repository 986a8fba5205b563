import RecordGate.Json.Contract
import RecordGate.Json.Document
import RecordGate.Proofs.Except
import RecordGate.Proofs.Record
import RecordGate.Proofs.Json.Arranging

/-!
# Documents that are admitted and read

A contract admits a document that breaks nothing of it (`Json.Contract.Admits`), which is shown keyword by keyword.
The members of a structure are read where each is well-formed, and are found under their names as in the document
(`Json.Members.read_obj`).
-/

namespace RecordGate.Json

/-! ## Contracts -/

namespace Contract

/-- The document breaks nothing of the contract, wherever it stands. -/
def Admits (c : Contract) (j : Json) : Prop := ∀ path, c.violations path j = []

variable {j : Json}

theorem violationsOfAll_eq (path : List String) (demands : List Contract) (j : Json) :
    violationsOfAll path demands j = demands.flatMap (violations path · j) := by
  induction demands with
  | nil => rfl
  | cons c rest ih => rw [violationsOfAll, ih, List.flatMap_cons]

theorem admits_all {demands : List Contract} (h : ∀ c ∈ demands, c.Admits j) : (all demands).Admits j := by
  intro path
  rw [violations, violationsOfAll_eq, List.flatMap_eq_nil_iff]
  exact fun c mem => h c mem path

theorem admits_type {types : List BasicType} {t : BasicType} (mem : t ∈ types) (h : t.accepts j = true) :
    (type types).Admits j := by
  intro path
  rw [violations, if_pos (List.any_eq_true.mpr ⟨t, mem, h⟩)]

theorem admits_enum {values : List Json} (mem : j ∈ values) : (enum values).Admits j := by
  intro path
  rw [violations, if_pos (List.any_eq_true.mpr ⟨j, mem, beq_self_eq_true j.compact⟩)]

theorem admits_properties {contracts : List (String × Contract)}
    (h : ∀ p ∈ contracts, ∀ v, j.get? p.1 = some v → p.2.Admits v) : (properties contracts).Admits j := by
  intro path
  rw [violations]
  induction contracts with
  | nil => rfl
  | cons p rest ih =>
    obtain ⟨first, others⟩ := List.forall_mem_cons.mp h
    rw [violationsOfMembers, ih others, List.append_nil]
    cases found : j.get? p.1 with
    | none => rfl
    | some v => exact first v found (path ++ [p.1])

theorem admits_required {names : List String} (h : ∀ name ∈ names, ∃ v, j.get? name = some v) :
    (required names).Admits j := by
  intro path
  cases j with
  | obj members =>
    rw [violations, List.map_eq_nil_iff, List.filter_eq_nil_iff]
    intro name mem absent
    obtain ⟨v, found⟩ := h name mem
    obtain ⟨m, there, -⟩ := Option.map_eq_some_iff.mp found
    have named : (m.1 == name) = true := List.find?_some (p := fun m : String × Json => m.1 == name) there
    rw [List.any_eq_true.mpr ⟨m, List.mem_of_find?_eq_some there, named⟩] at absent
    cases absent
  | null | bool | num | str | arr => rfl

theorem admits_items {c : Contract} {elements : List Json} (h : ∀ item ∈ elements, c.Admits item) :
    (items c).Admits (.arr elements) := by
  intro path
  rw [violations, List.flatMap_eq_nil_iff]
  exact fun item mem => h item.1 (List.fst_mem_of_mem_zipIdx mem) _

theorem admits_minimum {bound n : Number} (h : n.below bound = false) : (minimum bound).Admits (.num n) := by
  intro path
  rw [violations, if_neg (Bool.eq_false_iff.mp h)]

end Contract

/-! ## Members of structures -/

/-- What holds of the member that is there holds of every member of its name. -/
theorem of_found {j v : Json} {name : String} {P : Json → Prop} (found : j.get? name = some v) (h : P v) :
    ∀ w, j.get? name = some w → P w := by
  intro w same
  rwa [← Option.some.inj (found.symm.trans same)]

/-- The document is an object in which no name stands twice. -/
def IsStructure (j : Json) : Prop := ∃ members, j = .obj members ∧ (members.map Prod.fst).Nodup

theorem Arranges.isStructure {arrange : Json → Json} (h : Arranges arrange) {members : List (String × Json)}
    (distinct : (members.map Prod.fst).Nodup) : IsStructure (arrange (.obj members)) := by
  obtain ⟨arranged, form, perm⟩ := h.obj members distinct
  refine ⟨arranged, form, (perm.map _).nodup_iff.mpr ?_⟩
  rwa [List.map_map]

namespace Members

variable {type : String} {names : List String} {check : String → Json → Except Refusal Unit} {j : Json}

/-- Passing over members of other names loses none of a name that is looked for. -/
theorem find?_filter_names {name : String} (mem : name ∈ names) (members : List (String × Json)) :
    (members.filter fun m => names.contains m.1).find? (·.1 == name) = members.find? (·.1 == name) := by
  have same (m : String × Json) : decide (names.contains m.1 = true ∧ (m.1 == name) = true) = (m.1 == name) := by
    by_cases here : m.1 = name
    · simp [here, mem]
    · simp [here]
  rw [List.find?_filter, funext same]

/-- **A structure is read** where its members are well-formed, and they are found under their names. -/
theorem read_obj (structured : IsStructure j)
    (checks : ∀ name ∈ names, ∀ v, j.get? name = some v → check name v = .ok ()) :
    ∃ m, Members.read type names check j = .ok m ∧ ∀ name ∈ names, m.find? name = j.get? name := by
  obtain ⟨members, rfl, distinct⟩ := structured
  have checked : (members.filter fun m => names.contains m.1).forM (fun m => check m.1 m.2) = .ok () := by
    refine forM_eq_ok fun m mem => ?_
    obtain ⟨inside, named⟩ := List.mem_filter.mp mem
    refine checks m.1 (List.contains_iff_mem.mp named) m.2 ?_
    rw [get?, (Record.find?_name_eq_some distinct).mpr ⟨inside, rfl⟩]
    rfl
  refine ⟨⟨members.filter fun m => names.contains m.1, .missing⟩, ?_, fun name mem => ?_⟩
  · rw [Members.read, checked]
    rfl
  · rw [Members.find?, find?_filter_names mem, get?]

/-- What is read of a structure are its members, or what stands in their places. -/
theorem entries_of_read {m : Members} (h : Members.read type names check j = .ok m) :
    (∃ members, j = .obj members ∧ m.entries = members.filter fun m => names.contains m.1) ∨
      ∃ items, j = .arr items ∧ m.entries = names.zip items := by
  cases j with
  | obj members =>
    obtain ⟨-, -, same⟩ := bind_eq_ok.mp h
    cases same
    exact .inl ⟨members, rfl, rfl⟩
  | arr items =>
    obtain ⟨-, -, h⟩ := bind_eq_ok.mp h
    split at h
    · cases h
    · cases h
      exact .inr ⟨items, rfl, rfl⟩
  | null | bool | num | str => cases h

variable {α : Type} {m : Members} {name : String} {v : Json} {default : α} {read : Json → Except Refusal α}

/-- A member that is required has been found. -/
theorem found_of_required {a : α} (h : m.required name read = .ok a) : ∃ v, m.find? name = some v ∧ read v = .ok a := by
  rw [required] at h
  split at h
  · next v found => exact ⟨v, found, h⟩
  · cases h

theorem required_of_found (found : m.find? name = some v) : m.required name read = read v := by
  rw [required, found]

theorem defaulted_of_found (found : m.find? name = some v) : m.defaulted name default read = read v := by
  rw [defaulted, found]

theorem defaulted_of_absent (absent : m.find? name = none) : m.defaulted name default read = .ok default := by
  rw [defaulted, absent]

/-- A text that may be absent or null. -/
theorem optional_of_found {text : Option String} (found : m.find? name = text.map .str) :
    m.defaulted name none (readOption readString) = .ok text := by
  cases text with
  | none => exact defaulted_of_absent found
  | some text => exact defaulted_of_found found

end Members

end RecordGate.Json
