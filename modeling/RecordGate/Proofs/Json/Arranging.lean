import Mathlib.Data.List.Induction
import RecordGate.Json.Decode
import RecordGate.Proofs.Except
import RecordGate.Proofs.Json.RoundTrip
import RecordGate.Proofs.Record

/-!
# The order of members

A document is decoded as it was put together, or as it is read from its text, with the members of its objects in the
order of their names. What is shown of both is shown of any arrangement of the members (`Json.Arranges`): the members
of an object are found under their names whatever their order (`Json.Arranges.get?_obj`).
-/

namespace RecordGate.Json

variable {members : List (String × Json)} {name : String}

/-! ## Sorting -/

theorem insertMember_perm {value : Json} (fresh : name ∉ members.map Prod.fst) :
    (insertMember name value members).Perm ((name, value) :: members) := by
  induction members with
  | nil => exact .refl _
  | cons m rest ih =>
    have other : ¬(name == m.1) = true := fun same => List.ne_of_not_mem_cons fresh (beq_iff_eq.mp same)
    rw [insertMember, if_neg other]
    split
    · exact .refl _
    · exact ((ih (List.not_mem_of_not_mem_cons fresh)).cons m).trans (.swap ..)

/-- Members with distinct names are all kept. -/
theorem sortMembers_perm (distinct : (members.map Prod.fst).Nodup) : (sortMembers members).Perm members := by
  induction members using List.reverseRecOn with
  | nil => exact .refl _
  | append_singleton before m ih =>
    rw [List.map_append, List.map_singleton, List.nodup_append] at distinct
    obtain ⟨before_distinct, -, apart⟩ := distinct
    have kept := ih before_distinct
    have fresh : m.1 ∉ (sortMembers before).map Prod.fst := fun mem =>
      apart m.1 ((kept.map _).mem_iff.mp mem) m.1 List.mem_cons_self rfl
    rw [sortMembers, List.foldl_append, List.foldl_cons, List.foldl_nil]
    exact (insertMember_perm fresh).trans ((kept.cons m).trans (List.perm_append_singleton m before).symm)

/-! ## Arrangements -/

/-- The members of objects may be put into another order, except where they stand in the order of their names. -/
structure Arranges (arrange : Json → Json) : Prop where
  null : arrange .null = .null
  bool (b : Bool) : arrange (.bool b) = .bool b
  num (n : Number) : arrange (.num n) = .num n
  str (s : String) : arrange (.str s) = .str s
  arr (items : List Json) : arrange (.arr items) = .arr (items.map arrange)
  obj (members : List (String × Json)) (distinct : (members.map Prod.fst).Nodup) :
    ∃ arranged, arrange (.obj members) = .obj arranged ∧ arranged.Perm (members.map fun m => (m.1, arrange m.2))
  ascending (members : List (String × Json)) (sorted : members.Pairwise fun a b => a.1 < b.1) :
    arrange (.obj members) = .obj (members.map fun m => (m.1, arrange m.2))

/-- A document as it was put together. -/
theorem arranges_id : Arranges id where
  null := rfl
  bool _ := rfl
  num _ := rfl
  str _ := rfl
  arr items := by rw [List.map_id]; rfl
  obj members _ := ⟨members, rfl, .of_eq (List.map_id members).symm⟩
  ascending members _ := by rw [show members.map (fun m => (m.1, id m.2)) = members from List.map_id members]; rfl

/-- A document as it is read from its text. -/
theorem arranges_sorted : Arranges sorted where
  null := rfl
  bool _ := rfl
  num _ := rfl
  str _ := rfl
  arr := sorted_arr
  obj members distinct := by
    refine ⟨_, sorted_obj members, sortMembers_perm ?_⟩
    rwa [List.map_map]
  ascending members sorted := by
    rw [sorted_obj, ofMembers_of_sorted]
    exact List.pairwise_map.mpr sorted

/-! ## Members that are there, and members that are not -/

/-- The members of an object. -/
def entries : Json → List (String × Json)
  | .obj members => members
  | _ => []

theorem get?_eq_find? (j : Json) (name : String) : j.get? name = (j.entries.find? (·.1 == name)).map (·.2) := by
  cases j <;> rfl

section Members

variable {α : Type} {j v : Json} {value? : Json → Option α} {default : α}

theorem required?_of_found (found : j.get? name = some v) : j.required? name value? = value? v := by
  rw [required?, found, Option.bind_some]

theorem defaulted?_of_found (found : j.get? name = some v) : j.defaulted? name default value? = value? v := by
  rw [defaulted?, found]

theorem defaulted?_of_absent (absent : j.get? name = none) : j.defaulted? name default value? = some default := by
  rw [defaulted?, absent]

end Members

namespace Arranges

variable {arrange : Json → Json} {j : Json}

theorem nat?_ofNat (h : Arranges arrange) (n : Nat) : nat? (arrange (.ofNat n)) = some n := by
  rw [ofNat, h.num, nat?, if_neg (by omega), Int.toNat_natCast]

theorem string?_str (h : Arranges arrange) (s : String) : string? (arrange (.str s)) = some s := by
  rw [h.str, string?]

theorem comp_str (h : Arranges arrange) : arrange ∘ Json.str = Json.str := funext h.str

theorem bool?_bool (h : Arranges arrange) (b : Bool) : bool? (arrange (.bool b)) = some b := by
  rw [h.bool, bool?]

/-- **Members are found under their names**, wherever they stand. -/
theorem get?_entries (h : Arranges arrange) (distinct : (j.entries.map Prod.fst).Nodup) (name : String) :
    (arrange j).get? name = (j.get? name).map arrange := by
  cases j with
  | null => rw [h.null]; rfl
  | bool b => rw [h.bool]; rfl
  | num n => rw [h.num]; rfl
  | str s => rw [h.str]; rfl
  | arr items => rw [h.arr]; rfl
  | obj members =>
    obtain ⟨arranged, form, perm⟩ := h.obj members distinct
    have names : ((members.map fun m => (m.1, arrange m.2)).map Prod.fst).Nodup := by rwa [List.map_map]
    have same : arranged.find? (·.1 == name) = (members.map fun m => (m.1, arrange m.2)).find? (·.1 == name) := by
      refine Option.ext fun m => ?_
      rw [Record.find?_name_eq_some ((perm.map _).nodup_iff.mpr names), Record.find?_name_eq_some names, perm.mem_iff]
    rw [form, get?, same, List.find?_map, Option.map_map, get?, Option.map_map]
    rfl

theorem get?_of_mem (h : Arranges arrange) (distinct : (j.entries.map Prod.fst).Nodup) {m : String × Json}
    (mem : m ∈ j.entries) : (arrange j).get? m.1 = some (arrange m.2) := by
  rw [h.get?_entries distinct, get?_eq_find?, (Record.find?_name_eq_some distinct).mpr ⟨mem, rfl⟩]
  rfl

theorem get?_of_notMem (h : Arranges arrange) (distinct : (j.entries.map Prod.fst).Nodup)
    (absent : name ∉ j.entries.map Prod.fst) : (arrange j).get? name = none := by
  have none : j.entries.find? (·.1 == name) = none :=
    List.find?_eq_none.mpr fun m mem same => absent (List.mem_map.mpr ⟨m, mem, beq_iff_eq.mp same⟩)
  rw [h.get?_entries distinct, get?_eq_find?, none]
  rfl

/-- An object is still an object. -/
theorem asObject?_obj (h : Arranges arrange) (distinct : (members.map Prod.fst).Nodup) (names : List String) :
    (arrange (.obj members)).asObject? names = some (arrange (.obj members)) := by
  obtain ⟨arranged, form, -⟩ := h.obj members distinct
  rw [form, asObject?]

/-- A list is read item by item. -/
theorem list?_map (h : Arranges arrange) {α β : Type} {write : β → Json} {item? : Json → Option α} {read : β → α}
    {xs : List β} (items : ∀ x ∈ xs, item? (arrange (write x)) = some (read x)) :
    list? item? (arrange (.arr (xs.map write))) = some (xs.map read) := by
  rw [h.arr, list?, List.map_map, List.mapM_map]
  exact mapM_eq_pure items

end Arranges

end RecordGate.Json
