import Mathlib.Data.List.DropRight
import RecordGate.Proofs.Sorting
import RecordGate.Proofs.Warehouse.Memory
import RecordGate.Proofs.Warehouse.Steps

/-!
# Loads that interleave

What a warehouse holds is told by the history of its calls alone. A row that is staged stays open until its load
is settled for its table: the next commit publishes it, the next abort drops it (`openRows`, `published`). Each
row is told by the call that staged it and by its place there (`StagedRow`), so that a row that came twice would
be seen. However the calls of several loads interleave, no row is lost, doubled or shown in another table
(`Warehouse.run_history`).
-/

namespace RecordGate

/-- A row, by the call that staged it and its place among the rows of that call. -/
structure StagedRow where
  step : Nat
  place : Nat
  row : TableRow

namespace LoadStep

/-- Whether the call commits or aborts a load of a table. -/
def settles (load : LoadId) (table : String) : LoadStep → Bool
  | stage .. => false
  | commit l t => (l, t) = (load, table)
  | abort l t => (l, t) = (load, table)

/-- The rows that a numbered call stages under a load for a table. -/
def stagedBy (load : LoadId) (table : String) : LoadStep × Nat → List StagedRow
  | (stage l t rows, number) =>
    if (l, t) = (load, table) then rows.zipIdx.map fun (row, place) => ⟨number, place, row⟩ else []
  | _ => []

end LoadStep

/-- The calls since a load of a table was settled, numbered from the beginning. -/
def sinceSettled (load : LoadId) (table : String) (history : List LoadStep) : List (LoadStep × Nat) :=
  history.zipIdx.rtakeWhile fun step => !step.1.settles load table

/-- The rows staged under a load for a table since it was settled. -/
def openRows (load : LoadId) (table : String) (history : List LoadStep) : List StagedRow :=
  (sinceSettled load table history).flatMap (LoadStep.stagedBy load table)

/-- A numbered call staged rows under a load for a table, and no call since has settled the load. -/
def OpenSince (load : LoadId) (table : String) (history : List LoadStep) (number : Nat) (rows : List TableRow) : Prop :=
  ∃ before between, history = before ++ LoadStep.stage load table rows :: between ∧ before.length = number ∧
    ∀ step ∈ between, step.settles load table = false

/-- Something is staged under a load for a table and not yet settled, be it no row. -/
def IsOpen (load : LoadId) (table : String) (history : List LoadStep) : Prop :=
  ∃ number rows, OpenSince load table history number rows

namespace LoadStep

/-- The rows that a call publishes in a table, after the given calls. -/
def publishes (table : String) (before : List LoadStep) : LoadStep → List StagedRow
  | commit load t => if t = table then openRows load table before else []
  | _ => []

/-- The number that a call answers, after the given calls. -/
def counts (before : List LoadStep) : LoadStep → Option Nat
  | stage _ _ rows => some rows.length
  | commit load table => some (openRows load table before).length
  | abort .. => none

end LoadStep

/-- What calls publish in a table, after the given ones. -/
def publishedFrom (table : String) (before : List LoadStep) : List LoadStep → List StagedRow
  | [] => []
  | step :: rest => step.publishes table before ++ publishedFrom table (before ++ [step]) rest

/-- The rows that a history publishes in a table, commit by commit. -/
def published (table : String) (history : List LoadStep) : List StagedRow := publishedFrom table [] history

variable {load : LoadId} {table : String} {history before : List LoadStep} {step : LoadStep} {r : StagedRow}

/-! ## One call more -/

theorem sinceSettled_concat : sinceSettled load table (history ++ [step]) =
    if step.settles load table then [] else sinceSettled load table history ++ [(step, history.length)] := by
  rw [sinceSettled, List.zipIdx_append, List.zipIdx_singleton, List.rtakeWhile_concat, Nat.zero_add]
  cases step.settles load table <;> rfl

theorem openRows_concat : openRows load table (history ++ [step]) =
    if step.settles load table then []
    else openRows load table history ++ LoadStep.stagedBy load table (step, history.length) := by
  rw [openRows, sinceSettled_concat]
  split
  · rfl
  · rw [List.flatMap_append, List.flatMap_singleton, openRows]

theorem publishedFrom_concat : publishedFrom table before (history ++ [step]) =
    publishedFrom table before history ++ step.publishes table (before ++ history) := by
  induction history generalizing before with
  | nil => simp [publishedFrom]
  | cons first rest ih => simp [publishedFrom, ih]

theorem published_concat : published table (history ++ [step]) =
    published table history ++ step.publishes table history := publishedFrom_concat

/-! ## Open rows -/

variable {number : Nat} {rows : List TableRow}

theorem openSince_concat : OpenSince load table (history ++ [step]) number rows ↔
    (step = .stage load table rows ∧ history.length = number) ∨
      (step.settles load table = false ∧ OpenSince load table history number rows) := by
  constructor
  · rintro ⟨before, between, split, place, unsettled⟩
    rcases List.eq_nil_or_concat between with rfl | ⟨between, last, rfl⟩
    · obtain ⟨rfl, same⟩ := List.append_inj' split rfl
      exact .inl ⟨(List.cons.inj same).1, place⟩
    · rw [List.concat_eq_append, ← List.cons_append, ← List.append_assoc] at split
      obtain ⟨rfl, same⟩ := List.append_inj' split rfl
      cases same
      rw [List.concat_eq_append, List.forall_mem_append] at unsettled
      exact .inr ⟨unsettled.2 step List.mem_cons_self, before, between, rfl, place, unsettled.1⟩
  · rintro (⟨rfl, place⟩ | ⟨unsettled, before, between, rfl, place, others⟩)
    · exact ⟨history, [], rfl, place, nofun⟩
    · refine ⟨before, between ++ [step], by simp, place, ?_⟩
      exact List.forall_mem_append.mpr ⟨others, by simpa using unsettled⟩

theorem isOpen_concat : IsOpen load table (history ++ [step]) ↔
    (∃ rows, step = .stage load table rows) ∨ (step.settles load table = false ∧ IsOpen load table history) := by
  constructor
  · rintro ⟨number, rows, since⟩
    rcases openSince_concat.mp since with ⟨now, -⟩ | ⟨unsettled, before⟩
    · exact .inl ⟨rows, now⟩
    · exact .inr ⟨unsettled, number, rows, before⟩
  · rintro (⟨rows, now⟩ | ⟨unsettled, number, rows, before⟩)
    · exact ⟨history.length, rows, openSince_concat.mpr (.inl ⟨now, rfl⟩)⟩
    · exact ⟨number, rows, openSince_concat.mpr (.inr ⟨unsettled, before⟩)⟩

namespace OpenSince

theorem getElem? (h : OpenSince load table history number rows) : history[number]? = some (.stage load table rows) := by
  obtain ⟨before, between, rfl, rfl, -⟩ := h
  rw [List.getElem?_append_right (Nat.le_refl _), Nat.sub_self]
  rfl

theorem lt (h : OpenSince load table history number rows) : number < history.length :=
  (List.getElem?_eq_some_iff.mp h.getElem?).1

/-- No later call has settled the load. -/
theorem unsettled {later : List LoadStep} (h : OpenSince load table (history ++ later) number rows)
    (early : number < history.length) : ∀ step ∈ later, step.settles load table = false := by
  induction later using List.reverseRecOn with
  | nil => exact nofun
  | append_singleton later last ih =>
    rw [← List.append_assoc, openSince_concat] at h
    rcases h with ⟨-, place⟩ | ⟨unsettled, h⟩
    · rw [List.length_append] at place
      omega
    · exact List.forall_mem_append.mpr ⟨ih h, by simpa using unsettled⟩

end OpenSince

theorem LoadStep.map_row_stagedBy (l : LoadId) (t : String) :
    (stagedBy load table (stage l t rows, number)).map (·.row) = if (l, t) = (load, table) then rows else [] := by
  rw [stagedBy]
  split
  · rw [List.map_map]
    exact List.zipIdx_map_fst 0 rows
  · rfl

theorem mem_stagedBy : r ∈ LoadStep.stagedBy load table (step, number) ↔
    ∃ rows, (step = .stage load table rows ∧ number = r.step) ∧ rows[r.place]? = some r.row := by
  cases step with
  | stage l t rows =>
    rw [LoadStep.stagedBy]
    constructor
    · intro mem
      split at mem
      · next same =>
        cases same
        obtain ⟨⟨row, place⟩, there, rfl⟩ := List.mem_map.mp mem
        exact ⟨rows, ⟨rfl, rfl⟩, List.mem_zipIdx_iff_getElem?.mp there⟩
      · cases mem
    · rintro ⟨_, ⟨⟨⟩, rfl⟩, there⟩
      rw [if_pos rfl]
      exact List.mem_map.mpr ⟨(r.row, r.place), List.mem_zipIdx_iff_getElem?.mpr there, rfl⟩
  | commit l t => exact ⟨nofun, fun ⟨_, ⟨wrong, _⟩, _⟩ => nomatch wrong⟩
  | abort l t => exact ⟨nofun, fun ⟨_, ⟨wrong, _⟩, _⟩ => nomatch wrong⟩

/-- **A row is open when a call staged it and the load was not settled since.** -/
theorem mem_openRows : r ∈ openRows load table history ↔
    ∃ rows, OpenSince load table history r.step rows ∧ rows[r.place]? = some r.row := by
  induction history using List.reverseRecOn with
  | nil =>
    constructor
    · exact nofun
    · rintro ⟨rows, open_, -⟩
      cases open_.getElem?
  | append_singleton history last ih =>
    rw [openRows_concat]
    simp only [openSince_concat]
    cases settled : last.settles load table with
    | true =>
      refine ⟨nofun, ?_⟩
      rintro ⟨rows, ⟨rfl, -⟩ | ⟨wrong, -⟩, -⟩
      · cases settled
      · cases wrong
    | false =>
      rw [if_neg Bool.false_ne_true, List.mem_append, ih, mem_stagedBy]
      constructor
      · rintro (⟨rows, open_, there⟩ | ⟨rows, added, there⟩)
        · exact ⟨rows, .inr ⟨rfl, open_⟩, there⟩
        · exact ⟨rows, .inl added, there⟩
      · rintro ⟨rows, added | ⟨-, open_⟩, there⟩
        · exact .inr ⟨rows, added, there⟩
        · exact .inl ⟨rows, open_, there⟩

theorem mem_publishes : r ∈ step.publishes table before ↔
    ∃ load, step = .commit load table ∧ r ∈ openRows load table before := by
  cases step with
  | commit l t =>
    rw [LoadStep.publishes]
    split
    · next same =>
      cases same
      exact ⟨fun mem => ⟨l, rfl, mem⟩, fun ⟨_, same, mem⟩ => (LoadStep.commit.inj same).1 ▸ mem⟩
    · next other => exact ⟨nofun, fun ⟨_, same, _⟩ => absurd (LoadStep.commit.inj same).2 other⟩
  | stage l t rows => exact ⟨nofun, fun ⟨_, wrong, _⟩ => nomatch wrong⟩
  | abort l t => exact ⟨nofun, fun ⟨_, wrong, _⟩ => nomatch wrong⟩

/-- **A row is published by the first call that settles its load, when this is a commit.** -/
theorem mem_published : r ∈ published table history ↔
    ∃ load before after rows, history = before ++ LoadStep.commit load table :: after ∧
      OpenSince load table before r.step rows ∧ rows[r.place]? = some r.row := by
  induction history using List.reverseRecOn with
  | nil =>
    constructor
    · exact nofun
    · rintro ⟨load, before, after, rows, split, -⟩
      simp at split
  | append_singleton history last ih =>
    rw [published_concat, List.mem_append, ih, mem_publishes]
    constructor
    · rintro (⟨load, before, after, rows, rfl, staged⟩ | ⟨load, rfl, now⟩)
      · exact ⟨load, before, after ++ [last], rows, by simp, staged⟩
      · obtain ⟨rows, staged⟩ := mem_openRows.mp now
        exact ⟨load, history, [], rows, rfl, staged⟩
    · rintro ⟨load, before, after, rows, split, staged⟩
      rcases List.eq_nil_or_concat after with rfl | ⟨after, l, rfl⟩
      · obtain ⟨rfl, same⟩ := List.append_inj' split rfl
        exact .inr ⟨load, (List.cons.inj same).1, mem_openRows.mpr ⟨rows, staged⟩⟩
      · rw [List.concat_eq_append, ← List.cons_append, ← List.append_assoc] at split
        obtain ⟨rfl, -⟩ := List.append_inj' split rfl
        exact .inl ⟨load, before, after, rows, rfl, staged⟩

/-- A row that is published was staged for its table. -/
theorem staged_of_published (mem : r ∈ published table history) :
    ∃ load rows, LoadStep.stage load table rows ∈ history ∧ r.row ∈ rows := by
  obtain ⟨load, before, after, rows, rfl, since, there⟩ := mem_published.mp mem
  exact ⟨load, rows, List.mem_append_left _ (List.mem_of_getElem? since.getElem?), List.mem_of_getElem? there⟩

/-- Something is published when some commit finds open rows. -/
theorem published_ne_nil : published table history ≠ [] ↔
    ∃ (k : Nat) (load : LoadId), history[k]? = some (.commit load table) ∧
      openRows load table (history.take k) ≠ [] := by
  constructor
  · intro some
    obtain ⟨r, mem⟩ := List.exists_mem_of_ne_nil _ some
    obtain ⟨load, before, after, rows, rfl, staged⟩ := mem_published.mp mem
    refine ⟨before.length, load, by simp, ?_⟩
    rw [List.take_left']
    · exact List.ne_nil_of_mem (mem_openRows.mpr ⟨rows, staged⟩)
    · rfl
  · rintro ⟨k, load, call, some⟩
    obtain ⟨r, mem⟩ := List.exists_mem_of_ne_nil _ some
    obtain ⟨rows, staged⟩ := mem_openRows.mp mem
    obtain ⟨inside, same⟩ := List.getElem?_eq_some_iff.mp call
    refine List.ne_nil_of_mem (mem_published.mpr ⟨load, history.take k, history.drop (k + 1), rows, ?_, staged⟩)
    rw [← same, List.getElem_cons_drop, List.take_append_drop]

/-! ## No row twice -/

/-- The rows were staged by different calls, or stand at different places. -/
def StagedRow.Apart (a b : StagedRow) : Prop := (a.step, a.place) ≠ (b.step, b.place)

theorem apart_stagedBy : (LoadStep.stagedBy load table (step, number)).Pairwise StagedRow.Apart := by
  cases step with
  | stage l t rows =>
    rw [LoadStep.stagedBy]
    split
    · refine List.pairwise_map.mpr ((ascending_zipIdx rows).imp fun less same => ?_)
      exact Nat.ne_of_lt less (Prod.mk.inj same).2
    · exact .nil
  | commit l t => exact .nil
  | abort l t => exact .nil

theorem apart_openRows : (openRows load table history).Pairwise StagedRow.Apart := by
  induction history using List.reverseRecOn with
  | nil => exact .nil
  | append_singleton history last ih =>
    rw [openRows_concat]
    split
    · exact .nil
    · refine List.pairwise_append.mpr ⟨ih, apart_stagedBy, fun a ha b hb same => ?_⟩
      obtain ⟨rows, open_, -⟩ := mem_openRows.mp ha
      obtain ⟨_, ⟨-, place⟩, -⟩ := mem_stagedBy.mp hb
      have early := open_.lt
      have later := (Prod.mk.inj same).1
      omega

theorem apart_publishes : (step.publishes table before).Pairwise StagedRow.Apart := by
  cases step with
  | commit l t =>
    rw [LoadStep.publishes]
    split
    · exact apart_openRows
    · exact .nil
  | stage l t rows => exact .nil
  | abort l t => exact .nil

/-- A row that is open has not been published. -/
theorem apart_of_published {a b : StagedRow} (ha : a ∈ published table history)
    (hb : b ∈ openRows load table history) : a.Apart b := by
  intro same
  obtain ⟨l, before, after, rows, rfl, staged, -⟩ := mem_published.mp ha
  obtain ⟨rows', open_, -⟩ := mem_openRows.mp hb
  rw [← (Prod.mk.inj same).1] at open_
  have early : a.step < before.length := staged.lt
  have call := open_.getElem?
  rw [List.getElem?_append_left early, staged.getElem?] at call
  cases call
  have unsettled := open_.unsettled early _ List.mem_cons_self
  simp [LoadStep.settles] at unsettled

/-- **No row is published twice.** -/
theorem apart_published : (published table history).Pairwise StagedRow.Apart := by
  induction history using List.reverseRecOn with
  | nil => exact .nil
  | append_singleton history last ih =>
    rw [published_concat]
    refine List.pairwise_append.mpr ⟨ih, apart_publishes, fun a ha b hb => ?_⟩
    obtain ⟨load, -, hb⟩ := mem_publishes.mp hb
    exact apart_of_published ha hb

/-! ## The warehouse -/

namespace Warehouse

variable {w : Warehouse}

variable (w : Warehouse) (l : LoadId) (t : String)

theorem lookup_unstage : (w.unstage l t).staged.lookup (load, table) =
    if (l, t) = (load, table) then none else w.staged.lookup (load, table) := lookup_filter_ne ..

theorem lookup_stage : (w.stage l t rows).staged.lookup (load, table) =
    if (l, t) = (load, table) then some (w.stagedRows load table ++ rows) else w.staged.lookup (load, table) := by
  change (((l, t), w.stagedRows l t ++ rows) :: (w.unstage l t).staged).lookup (load, table) = _
  rw [lookup_cons_if, lookup_unstage]
  split
  · next same =>
    cases same
    rfl
  · rfl

theorem stagedRows_stage : (w.stage l t rows).stagedRows load table =
    w.stagedRows load table ++ if (l, t) = (load, table) then rows else [] := by
  rw [stagedRows, lookup_stage]
  split
  · rfl
  · rw [List.append_nil]
    rfl

theorem stagedRows_unstage : (w.unstage l t).stagedRows load table =
    if (l, t) = (load, table) then [] else w.stagedRows load table := by
  rw [stagedRows, lookup_unstage]
  split <;> rfl

theorem isPending_stage : (w.stage l t rows).isPending load table = true ↔
    (l, t) = (load, table) ∨ w.isPending load table = true := by
  rw [isPending, lookup_stage]
  split <;> simp_all [isPending]

theorem isPending_unstage : (w.unstage l t).isPending load table = true ↔
    (l, t) ≠ (load, table) ∧ w.isPending load table = true := by
  rw [isPending, lookup_unstage]
  split <;> simp_all [isPending]

theorem rows_commit : (w.commit l t).2.rows table = w.rows table ++ if t = table then w.stagedRows l t else [] := by
  split
  · next same =>
    subst same
    exact rows_loaded (w.unstage l t) t _
  · next other =>
    rw [List.append_nil, rows, commit, Record.get?_set_of_ne _ _ other]
    rfl

/-- What a warehouse holds after a history of calls. -/
structure Holds (history : List LoadStep) (w : Warehouse) : Prop where
  rows : ∀ table, w.rows table = (published table history).map (·.row)
  staged : ∀ load table, w.stagedRows load table = (openRows load table history).map (·.row)
  pending : ∀ load table, w.isPending load table = true ↔ IsOpen load table history
  distinct : (w.staged.map Prod.fst).Nodup

theorem holds_empty : Holds [] .empty where
  rows _ := rfl
  staged _ _ := rfl
  pending load table := by
    refine ⟨nofun, ?_⟩
    rintro ⟨number, rows, since⟩
    cases since.getElem?
  distinct := .nil

variable {w l t}

/-- Rows that are staged are open, and nothing is published. -/
theorem Holds.stage (h : Holds history w) : Holds (history ++ [.stage l t rows]) (w.stage l t rows) where
  rows table := by
    rw [published_concat]
    exact (h.rows table).trans (congrArg _ (List.append_nil _).symm)
  staged load table := by
    rw [stagedRows_stage, h.staged, openRows_concat, LoadStep.settles, if_neg Bool.false_ne_true, List.map_append,
      LoadStep.map_row_stagedBy]
  pending load table := by
    rw [isPending_stage, h.pending, isOpen_concat]
    constructor
    · rintro (same | before)
      · cases same
        exact .inl ⟨rows, rfl⟩
      · exact .inr ⟨rfl, before⟩
    · rintro (⟨_, ⟨⟩⟩ | ⟨-, before⟩)
      · exact .inl rfl
      · exact .inr before
  distinct := nodup_cons_filter_ne h.distinct _ _

/-- A load that is settled has no open rows. -/
theorem Holds.settle (h : Holds history w) {next : Warehouse} (settling : step = .commit l t ∨ step = .abort l t)
    (staged : next.staged = (w.unstage l t).staged)
    (rows : ∀ table, next.rows table = w.rows table ++ (step.publishes table history).map (·.row)) :
    Holds (history ++ [step]) next := by
  have settles (load : LoadId) (table : String) : step.settles load table = decide ((l, t) = (load, table)) := by
    rcases settling with rfl | rfl <;> rfl
  have unstaging (load : LoadId) (table : String) (number : Nat) :
      LoadStep.stagedBy load table (step, number) = [] := by
    rcases settling with rfl | rfl <;> rfl
  constructor
  case rows =>
    intro table
    rw [rows, h.rows, published_concat, List.map_append]
  case staged =>
    intro load table
    have kept : next.stagedRows load table = (w.unstage l t).stagedRows load table := by
      rw [stagedRows, staged, stagedRows]
    rw [kept, stagedRows_unstage, h.staged, openRows_concat, settles, unstaging, List.append_nil]
    by_cases same : (l, t) = (load, table)
    · rw [if_pos same, if_pos (decide_eq_true same), List.map_nil]
    · rw [if_neg same, if_neg (by simpa using same)]
  case pending =>
    intro load table
    have kept : next.isPending load table = (w.unstage l t).isPending load table := by
      rw [isPending, staged, isPending]
    rw [kept, isPending_unstage, h.pending, isOpen_concat, settles, decide_eq_false_iff_not]
    refine ⟨.inr, ?_⟩
    rintro (⟨rows, rfl⟩ | open_)
    · rcases settling with wrong | wrong <;> cases wrong
    · exact open_
  case distinct =>
    rw [staged]
    exact nodup_filter_ne h.distinct _

/-- **One call keeps a warehouse in step with its history**, and answers the number that the history tells. -/
theorem Holds.answer (h : Holds history w) (step : LoadStep) :
    (loader.answer step w).1 = .ok (step.counts history) ∧ Holds (history ++ [step]) (loader.answer step w).2 := by
  cases step with
  | stage l t rows => exact ⟨rfl, h.stage⟩
  | commit l t =>
    constructor
    · change Except.ok (some (w.stagedRows l t).length) = _
      rw [h.staged, List.length_map]
      rfl
    · refine h.settle (.inl rfl) rfl fun table => ?_
      change (w.commit l t).2.rows table = _
      rw [rows_commit, LoadStep.publishes]
      split
      · next same => rw [h.staged, same]
      · rfl
  | abort l t => exact ⟨rfl, h.settle (.inr rfl) rfl fun table => (List.append_nil _).symm⟩

/-- **The warehouse is in step with the history of its calls.** -/
theorem holds_run (history : List LoadStep) : Holds history (loader.run history .empty).2 := by
  induction history using List.reverseRecOn with
  | nil => exact holds_empty
  | append_singleton history step ih =>
    rw [Loader.run_concat]
    exact (ih.answer step).2

/--
**Loads that interleave never mix.** After any calls, in any order, of any loads on any tables:

* A table shows the rows that its commits have published, commit by commit. A commit publishes the rows staged
  under its load for its table since the pair was last settled, in the order of staging, and counts them; staging
  counts the rows that it is given.
* A row shows up if and only if the first call to settle its load and table is a commit. A row is told by the
  call that staged it and its place there, and no row shows up twice.
* A load is pending for a table if and only if something was staged since it was last settled. What it holds are
  the rows staged since, and the warehouse counts the pending pairs.
-/
theorem run_history (history : List LoadStep) :
    let w := (loader.run history .empty).2
    (∀ table, w.rows table = (published table history).map (·.row)) ∧
    (∀ (k : Nat) (step : LoadStep), history[k]? = some step →
      (loader.run history .empty).1[k]? = some (Except.ok (step.counts (history.take k)))) ∧
    (∀ table r, r ∈ published table history ↔
      ∃ load before after rows, history = before ++ LoadStep.commit load table :: after ∧
        OpenSince load table before r.step rows ∧ rows[r.place]? = some r.row) ∧
    (∀ table, (published table history).Pairwise StagedRow.Apart) ∧
    (∀ load table, w.isPending load table = true ↔ IsOpen load table history) ∧
    (∀ load table, w.stagedRows load table = (openRows load table history).map (·.row)) ∧
    ∃ pairs : List (LoadId × String), pairs.Nodup ∧ (∀ pair, pair ∈ pairs ↔ IsOpen pair.1 pair.2 history) ∧
      w.pending = pairs.length := by
  intro w
  have holds : Holds history w := holds_run history
  refine ⟨holds.rows, fun k step called => ?_, fun table r => mem_published, fun table => apart_published,
    holds.pending, holds.staged, w.staged.map Prod.fst, holds.distinct, fun pair => ?_, (List.length_map _).symm⟩
  · rw [Loader.getElem?_run called, ((holds_run (history.take k)).answer step).1]
  · rw [← holds.pending, isPending, List.lookup_isSome_iff, List.mem_map]
    refine exists_congr fun e => and_congr_right fun _ => ?_
    rw [beq_iff_eq, eq_comm]

end Warehouse

end RecordGate
