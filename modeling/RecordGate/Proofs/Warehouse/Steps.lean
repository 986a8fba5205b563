import RecordGate.Warehouse.Basic

/-!
# Calls of a warehouse, one after the other

The calls of several loads may come in any order. Each of them is a step (`LoadStep`); what the calls of a
history answer, and the state that they leave, is `Loader.run`.
-/

namespace RecordGate

/-- A call of a warehouse. -/
inductive LoadStep where
  | stage (load : LoadId) (table : String) (rows : List TableRow)
  | commit (load : LoadId) (table : String)
  | abort (load : LoadId) (table : String)

def LoadStep.load : LoadStep → LoadId
  | stage load _ _ => load
  | commit load _ => load
  | abort load _ => load

def LoadStep.table : LoadStep → String
  | stage _ table _ => table
  | commit _ table => table
  | abort _ table => table

/-- What a call answers: a number of rows, where it counts them. -/
abbrev StepAnswer := Except LoadError (Option Nat)

namespace Loader

variable {σ : Type}

/-- One call on a warehouse. -/
def answer (loader : Loader σ) : LoadStep → σ → StepAnswer × σ
  | .stage load table rows, w => ((loader.stage load table rows w).1.map some, (loader.stage load table rows w).2)
  | .commit load table, w => ((loader.commit load table w).1.map some, (loader.commit load table w).2)
  | .abort load table, w => ((loader.abort load table w).1.map fun _ => none, (loader.abort load table w).2)

/-- Call after call: the answers in order, and the state that is left. -/
def run (loader : Loader σ) : List LoadStep → σ → List StepAnswer × σ
  | [], w => ([], w)
  | step :: steps, w =>
    ((loader.answer step w).1 :: (loader.run steps (loader.answer step w).2).1,
      (loader.run steps (loader.answer step w).2).2)

variable {loader : Loader σ} {steps : List LoadStep} {step : LoadStep} {w : σ}

/-- Later calls find what the earlier ones leave. -/
theorem run_append (more : List LoadStep) : loader.run (steps ++ more) w =
    ((loader.run steps w).1 ++ (loader.run more (loader.run steps w).2).1,
      (loader.run more (loader.run steps w).2).2) := by
  induction steps generalizing w with
  | nil => rfl
  | cons first rest ih =>
    rw [List.cons_append, run, ih]
    rfl

/-- The last call finds what the others leave. -/
theorem run_concat : loader.run (steps ++ [step]) w =
    ((loader.run steps w).1 ++ [(loader.answer step (loader.run steps w).2).1],
      (loader.answer step (loader.run steps w).2).2) := run_append [step]

/-- Each call answers on the state that the calls before it leave. -/
theorem getElem?_run {k : Nat} (called : steps[k]? = some step) :
    (loader.run steps w).1[k]? = some (loader.answer step (loader.run (steps.take k) w).2).1 := by
  induction steps generalizing k w with
  | nil => cases called
  | cons first rest ih =>
    cases k with
    | zero =>
      cases called
      rfl
    | succ k => exact ih called

end Loader

/-! ## What is kept for a load and a table -/

section Lookup

variable {α β : Type} [BEq α]

/-- What is dropped leaves the keys distinct. -/
theorem nodup_filter_ne {es : List (α × β)} (distinct : (es.map Prod.fst).Nodup) (dropped : α) :
    ((es.filter (·.1 != dropped)).map Prod.fst).Nodup :=
  distinct.sublist (List.filter_sublist.map _)

variable [LawfulBEq α]

/-- What is added in place of something leaves the keys distinct. -/
theorem nodup_cons_filter_ne {es : List (α × β)} (distinct : (es.map Prod.fst).Nodup) (key : α) (value : β) :
    (((key, value) :: es.filter (·.1 != key)).map Prod.fst).Nodup := by
  refine List.nodup_cons.mpr ⟨fun mem => ?_, nodup_filter_ne distinct key⟩
  obtain ⟨e, he, same⟩ := List.mem_map.mp mem
  exact absurd same (bne_iff_ne.mp (List.mem_filter.mp he).2)

variable [DecidableEq α]

theorem lookup_cons_if (found : α × β) (es : List (α × β)) (key : α) :
    (found :: es).lookup key = if found.1 = key then some found.2 else es.lookup key := by
  rw [List.lookup_cons]
  by_cases same : found.1 = key
  · subst same
    simp
  · rw [if_neg same, beq_eq_false_iff_ne.mpr (Ne.symm same)]

theorem lookup_filter_ne (es : List (α × β)) (dropped key : α) :
    (es.filter (·.1 != dropped)).lookup key = if dropped = key then none else es.lookup key := by
  induction es with
  | nil => simp
  | cons e rest ih =>
    rw [List.filter_cons, lookup_cons_if]
    by_cases gone : e.1 = dropped
    · rw [if_neg (by simpa using gone), ih, gone]
      split <;> rfl
    · rw [if_pos (by simpa using gone), lookup_cons_if, ih]
      by_cases same : e.1 = key
      · rw [if_pos same, if_neg fun h => gone (same.trans h.symm), if_pos same]
      · rw [if_neg same, if_neg same]

end Lookup

end RecordGate
