import RecordGate.Proofs.Except
import RecordGate.Proofs.Warehouse.Mirroring

/-!
# What was left in a directory

The file of staged rows is opened for appending, and its name is that of a load, whose number may have been used before
the warehouse was opened. So what an earlier process left in the file stays there, in front of the rows that are staged
now, until a call removes the file (`leftover`, `TableFiles.Traced`). A commit publishes both and counts the rows only
(`TableFiles.commit_publishes`).

Rows get into the file in another way as well: two names may lead to it, be it that of a table or that of other staged
rows. The calls in front of a commit have to keep off its file, and `TableFiles.leftover_published` tells what happens
when they do not.
-/

namespace RecordGate

/-! ## What is told by the calls -/

/-- The rows staged under a load for a table since it was settled, as they were given. -/
def openTableRows (load : LoadId) (table : String) (history : List LoadStep) : List TableRow :=
  (openRows load table history).map (·.row)

/-- The rows staged for a table, under any load. -/
def stagedIn (table : String) (history : List LoadStep) : List TableRow :=
  (history.filter (·.table = table)).flatMap LoadStep.rows

/-- The columns of a table after some calls: those that are registered, or else the fields of the first staged row. -/
def columnsAfter? (registered : Record (List String)) (table : String) (history : List LoadStep) :
    Option (List String) :=
  (registered.get? table).or ((stagedIn table history).head?.map Record.names)

/-- The columns, as far as they are known. -/
def columnsAfter (registered : Record (List String)) (table : String) (history : List LoadStep) : List String :=
  (columnsAfter? registered table history).getD []

/-- Whether a call after the given ones removes the file of staged rows. A commit does so if it has rows to publish. -/
def LoadStep.clears (load : LoadId) (table : String) (before : List LoadStep) : LoadStep → Bool
  | stage .. => false
  | commit l t => (l, t) = (load, table) && !(openRows load table before).isEmpty
  | abort l t => (l, t) = (load, table)

/-- Whether one of some calls removes the file of staged rows, after the given calls. -/
def clearedFrom (load : LoadId) (table : String) (before : List LoadStep) : List LoadStep → Bool
  | [] => false
  | step :: rest => step.clears load table before || clearedFrom load table (before ++ [step]) rest

/-- What the file of staged rows held at the beginning and still holds after some calls. -/
def leftover (d : Directory) (files : Record Bytes) (load : LoadId) (table : String) (history : List LoadStep) :
    Bytes :=
  if clearedFrom load table [] history then []
  else (TableFiles.ofFiles files).content d (TableFiles.stagedName load table)

variable {d : Directory} {load : LoadId} {table : String} {history before : List LoadStep} {step : LoadStep}
  {registered : Record (List String)} {files : Record Bytes} {columns : List String}

theorem LoadStep.rows_stagedBy (step : LoadStep) (number : Nat) :
    (stagedBy load table (step, number)).map (·.row) =
      if (step.load, step.table) = (load, table) then step.rows else [] := by
  cases step with
  | stage l t rows => exact map_row_stagedBy l t
  | commit l t => exact (ite_self _).symm
  | abort l t => exact (ite_self _).symm

theorem openTableRows_concat : openTableRows load table (history ++ [step]) =
    if step.settles load table then []
    else openTableRows load table history ++ if (step.load, step.table) = (load, table) then step.rows else [] := by
  rw [openTableRows, openRows_concat]
  split
  · rfl
  · rw [List.map_append, LoadStep.rows_stagedBy, openTableRows]

theorem openTableRows_stage (l : LoadId) (t : String) (rows : List TableRow) :
    openTableRows load table (history ++ [.stage l t rows]) =
      openTableRows load table history ++ if (l, t) = (load, table) then rows else [] :=
  openTableRows_concat.trans (if_neg Bool.false_ne_true)

/-- A call that settles a load of a table leaves no rows of it open. -/
theorem openTableRows_settle {l : LoadId} {t : String} (settling : step = .commit l t ∨ step = .abort l t) :
    openTableRows load table (history ++ [step]) =
      if (l, t) = (load, table) then [] else openTableRows load table history := by
  rw [openTableRows_concat]
  rcases settling with rfl | rfl <;> by_cases same : (l, t) = (load, table) <;>
    simp [LoadStep.settles, LoadStep.rows, same]

theorem stagedIn_concat : stagedIn table (history ++ [step]) =
    stagedIn table history ++ if step.table = table then step.rows else [] := by
  rw [stagedIn, List.filter_append, List.flatMap_append, stagedIn]
  by_cases same : step.table = table <;> simp [same]

theorem columnsAfter?_concat : columnsAfter? registered table (history ++ [step]) =
    (columnsAfter? registered table history).or
      (if step.table = table then step.rows.head?.map Record.names else none) := by
  rw [columnsAfter?, stagedIn_concat, List.head?_append, Option.map_or, ← Option.or_assoc, columnsAfter?]
  split <;> rfl

/-- A call without rows decides no columns. -/
theorem columnsAfter?_of_no_rows (none : step.rows = []) :
    columnsAfter? registered table (history ++ [step]) = columnsAfter? registered table history := by
  rw [columnsAfter?_concat, none]
  split <;> exact Option.or_none

/-- Columns that are known stay. -/
theorem columnsAfter_concat (known : columnsAfter? registered table history = some columns) :
    columnsAfter registered table (history ++ [step]) = columnsAfter registered table history := by
  rw [columnsAfter, columnsAfter, columnsAfter?_concat, known, Option.some_or]

/-- Rows that are open were staged by a call. -/
theorem staged_of_open (some : openTableRows load table history ≠ []) :
    ∃ rows, LoadStep.stage load table rows ∈ history ∧ rows ≠ [] := by
  obtain ⟨row, mem⟩ := List.exists_mem_of_ne_nil _ some
  obtain ⟨r, open_, rfl⟩ := List.mem_map.mp mem
  obtain ⟨rows, since, there⟩ := mem_openRows.mp open_
  exact ⟨rows, List.mem_of_getElem? since.getElem?, List.ne_nil_of_mem (List.mem_of_getElem? there)⟩

/-- The columns of a table are known when rows are open for it. -/
theorem known_of_open (registered : Record (List String)) (some : openTableRows load table history ≠ []) :
    ∃ columns, columnsAfter? registered table history = .some columns := by
  obtain ⟨rows, called, filled⟩ := staged_of_open some
  obtain ⟨row, mem⟩ := List.exists_mem_of_ne_nil _ filled
  have staged : row ∈ stagedIn table history :=
    List.mem_flatMap.mpr ⟨_, List.mem_filter.mpr ⟨called, decide_eq_true rfl⟩, mem⟩
  rw [columnsAfter?]
  cases registered.get? table with
  | some columns => exact ⟨columns, rfl⟩
  | none =>
    obtain ⟨first, rest, form⟩ := List.exists_cons_of_ne_nil (List.ne_nil_of_mem staged)
    exact ⟨first.names, by rw [form]; rfl⟩

theorem clearedFrom_concat : clearedFrom load table before (history ++ [step]) =
    (clearedFrom load table before history || step.clears load table (before ++ history)) := by
  induction history generalizing before with
  | nil => simp [clearedFrom]
  | cons first rest ih => simp [clearedFrom, ih, Bool.or_assoc]

theorem leftover_concat : leftover d files load table (history ++ [step]) =
    if step.clears load table history then [] else leftover d files load table history := by
  rw [leftover, clearedFrom_concat, List.nil_append, leftover]
  cases step.clears load table history <;> simp

namespace TableFiles

/-- A warehouse that finds some files, with the columns of some tables registered. -/
def opened (files : Record Bytes) (registered : Record (List String)) : TableFiles :=
  { ofFiles files with columns := registered }

variable {w : TableFiles} {rows : List TableRow} {shown lain : String}

/-! ## One call -/

/-- What a warehouse knows after some calls. -/
structure Told (registered : Record (List String)) (history : List LoadStep) (w : TableFiles) : Prop where
  columns : ∀ table, w.columns.get? table = columnsAfter? registered table history
  count : ∀ load table, w.stagedCount load table = (openTableRows load table history).length

/-- Rows that are staged without a failure come behind those in their file. -/
theorem stage_fine (fine : (TableFiles.stage d load table rows w).1.isOk = true) :
    rows = [] ∧ (TableFiles.stage d load table rows w).2 = w ∨
      rows ≠ [] ∧ ∃ lain, d.place? (stagedName load table) = .ok lain ∧
        (TableFiles.stage d load table rows w).2 = w.lay (w.columnsFor table rows) load table lain rows := by
  by_cases filled : rows = []
  · subst filled
    exact .inl ⟨rfl, congrArg Prod.snd (if_pos rfl : TableFiles.stage d load table [] w = (.ok 0, w))⟩
  · cases lies : d.place? (stagedName load table) with
    | ok lain => exact .inr ⟨filled, lain, rfl, congrArg Prod.snd (stage_of_placed filled lies)⟩
    | error fault =>
      rw [TableFiles.stage, if_neg (by simpa using filled)] at fine
      simp only [lies] at fine
      cases fine

/-- A commit of nothing leaves the files as they are. -/
theorem commit_of_none (none : w.stagedCount load table = 0) :
    TableFiles.commit d load table w = (.ok 0, w.unstage load table) := by
  rw [TableFiles.commit, none]
  rfl

/--
A commit of staged rows that does not fail finds both files, removes that of the rows and at most changes that of the
table.
-/
theorem commit_fine (filled : w.stagedCount load table ≠ 0) {columns : List String}
    (known : w.columns.get? table = some columns) (fine : (TableFiles.commit d load table w).1.isOk = true) :
    let after := (TableFiles.commit d load table w).2
    after.columns = w.columns ∧ after.staged = (w.unstage load table).staged ∧
      ∃ shown lain, d.place? (tableName table) = .ok shown ∧ d.place? (stagedName load table) = .ok lain ∧
        (shown ≠ lain → (w.files.get? lain).isSome = true) ∧ after.files.get? lain = none ∧
        ∀ place, place ≠ shown → place ≠ lain → after.files.get? place = w.files.get? place := by
  have chosen : (w.unstage load table).columnsFor table [] = columns := columnsFor_of_known known []
  have kept : (w.unstage load table).withColumns table columns = w.unstage load table := withColumns_of_known known
  intro after
  cases placed : d.place? (tableName table) with
  | error fault =>
    rw [TableFiles.commit] at fine
    simp only [if_neg filled, placed] at fine
    cases fine
  | ok shown =>
    obtain ⟨header, written⟩ : ∃ header, header =
        if ((w.unstage load table).contentAt shown).isEmpty then Csv.writtenRecord (columns.map Text.encode) else [] :=
      ⟨_, rfl⟩
    cases found : ((w.unstage load table).append shown header).open? d (stagedName load table) with
    | error fault =>
      rw [TableFiles.commit] at fine
      simp only [if_neg filled, chosen, kept, placed, ← written, found] at fine
      cases fine
    | ok file =>
      obtain ⟨lain, bytes⟩ := file
      obtain ⟨lies, there⟩ := open?_eq_ok.mp found
      have settled : after = { (((w.unstage load table).append shown header).append shown bytes).remove lain with
          bytesWritten := w.bytesWritten + (header.length + bytes.length) } := by
        change (TableFiles.commit d load table w).2 = _
        rw [TableFiles.commit]
        simp only [if_neg filled, chosen, kept, placed, ← written, found]
        rfl
      rw [settled]
      refine ⟨rfl, rfl, shown, lain, rfl, lies, fun apart => ?_, ?_, fun place other noStaged => ?_⟩
      · rw [← Record.get?_set_of_ne w.files _ apart]
        exact Option.isSome_iff_exists.mpr ⟨bytes, there⟩
      · exact (Record.get?_erase ..).trans (if_pos rfl)
      · refine (Record.get?_erase ..).trans ((if_neg noStaged.symm).trans ?_)
        exact (Record.get?_set_of_ne _ _ other.symm).trans (Record.get?_set_of_ne _ _ other.symm)

/-- The file of staged rows is removed when they are dropped, if there can be such a file. -/
theorem abort_fine (fine : (TableFiles.abort d load table w).1.isOk = true) :
    let after := (TableFiles.abort d load table w).2
    after.columns = w.columns ∧ after.staged = (w.unstage load table).staged ∧
      ∀ place, after.files.get? place =
        if d.place? (stagedName load table) = .ok place then none else w.files.get? place := by
  intro after
  cases lies : d.place? (stagedName load table) with
  | ok lain =>
    have dropped : after = (w.unstage load table).remove lain := congrArg Prod.snd (abort_of_placed lies)
    rw [dropped]
    refine ⟨rfl, rfl, fun place => (Record.get?_erase ..).trans ?_⟩
    simp only [Except.ok.injEq]
    rfl
  | error fault =>
    -- Only a file that is missing is no failure, as there is nothing to remove then.
    have nothing : (w.unstage load table).open? d (stagedName load table) = .error .missing := by
      cases found : (w.unstage load table).open? d (stagedName load table) with
      | ok file => cases lies.symm.trans (open?_eq_ok.mp found).1
      | error why =>
        rw [TableFiles.abort] at fine
        cases why with
        | missing => rfl
        | notDirectory | refused =>
          simp only [found] at fine
          cases fine
    have unchanged : after = w.unstage load table := by
      change (TableFiles.abort d load table w).2 = _
      rw [TableFiles.abort]
      simp only [nothing]
    rw [unchanged]
    exact ⟨rfl, rfl, fun place => (if_neg (by simp)).symm⟩

namespace Told

/-- Rows are staged in the books when they are open. -/
theorem count_eq_zero_iff (h : Told registered history w) :
    w.stagedCount load table = 0 ↔ openTableRows load table history = [] := by
  rw [h.count, List.length_eq_zero_iff]

/-- The columns of staged rows are known. -/
theorem known (h : Told registered history w) (some : openTableRows load table history ≠ []) :
    w.columns.get? table = .some (columnsAfter registered table history) := by
  obtain ⟨columns, known⟩ := known_of_open registered some
  rw [h.columns, columnsAfter, known, Option.getD_some]

theorem stage (h : Told registered history w) (fine : (TableFiles.stage d load table rows w).1.isOk = true) :
    Told registered (history ++ [.stage load table rows]) (TableFiles.stage d load table rows w).2 := by
  rcases stage_fine fine with ⟨rfl, form⟩ | ⟨filled, lain, -, form⟩
  · rw [form]
    constructor
    case columns => exact fun t => (h.columns t).trans (columnsAfter?_of_no_rows rfl).symm
    case count =>
      intro l t
      rw [openTableRows_stage, ite_self, List.append_nil, h.count]
  · rw [form]
    constructor
    case columns =>
      intro t
      rw [columnsAfter?_concat, ← h.columns]
      change (w.columns.set table _).get? t = _
      rw [Record.get?_set]
      by_cases same : table = t
      · subst same
        -- The first row decides the columns, unless they are known.
        obtain ⟨row, rest, rfl⟩ := List.exists_cons_of_ne_nil filled
        rw [if_pos rfl, columnsFor]
        cases w.columns.get? table with
        | none => exact (if_pos rfl).symm
        | some columns => rfl
      · rw [if_neg same]
        exact ((congrArg _ (if_neg same)).trans Option.or_none).symm
    case count =>
      intro l t
      rw [stagedCount_lay, openTableRows_stage, List.length_append, h.count]
      split <;> rfl

/-- A load that is settled for a table has no rows there. -/
theorem settle {w' : TableFiles} (h : Told registered history w)
    (settling : step = .commit load table ∨ step = .abort load table) (columns : w'.columns = w.columns)
    (staged : w'.staged = (w.unstage load table).staged) :
    Told registered (history ++ [step]) w' := by
  constructor
  case columns =>
    intro t
    have none : step.rows = [] := by rcases settling with rfl | rfl <;> rfl
    rw [columns, h.columns, columnsAfter?_of_no_rows none]
  case count =>
    intro l t
    rw [openTableRows_settle settling, stagedCount, staged, unstage, lookup_filter_ne]
    split
    · rfl
    · exact h.count l t

/-- **What a warehouse knows is told by the calls**, if they do not fail. -/
theorem answer (h : Told registered history w) (fine : ((loader d).answer step w).1.isOk = true) :
    Told registered (history ++ [step]) ((loader d).answer step w).2 := by
  cases step with
  | stage load table rows =>
    rw [answer_stage] at fine ⊢
    exact h.stage ((isOk_map ..).symm.trans fine)
  | commit load table =>
    rw [answer_commit] at fine ⊢
    by_cases idle : openTableRows load table history = []
    · rw [commit_of_none (h.count_eq_zero_iff.mpr idle)]
      exact h.settle (.inl rfl) rfl rfl
    · obtain ⟨columns, staged, -⟩ :=
        commit_fine (mt h.count_eq_zero_iff.mp idle) (h.known idle) ((isOk_map ..).symm.trans fine)
      exact h.settle (.inl rfl) columns staged
  | abort load table =>
    rw [answer_abort] at fine ⊢
    obtain ⟨columns, staged, -⟩ := abort_fine ((isOk_map ..).symm.trans fine)
    exact h.settle (.inr rfl) columns staged

end Told

/-! ## The file of staged rows -/

/-- The records of the rows that are open under a load for a table. -/
def openRecords (registered : Record (List String)) (load : LoadId) (table : String) (history : List LoadStep) :
    Bytes :=
  Csv.written ((openTableRows load table history).map (recordOf (columnsAfter registered table history)))

/-- The columns that rows bring along have no say in the records that are open already. -/
theorem written_open_concat : Csv.written ((openTableRows load table history).map
    (recordOf (columnsAfter registered table (history ++ [step])))) = openRecords registered load table history := by
  rw [openRecords]
  by_cases idle : openTableRows load table history = []
  · rw [idle]
    rfl
  · obtain ⟨columns, known⟩ := known_of_open registered idle
    rw [columnsAfter_concat known]

theorem openRecords_of_same
    (same : openTableRows load table (history ++ [step]) = openTableRows load table history) :
    openRecords registered load table (history ++ [step]) = openRecords registered load table history := by
  rw [openRecords, same, written_open_concat]

theorem openRecords_stage : openRecords registered load table (history ++ [.stage load table rows]) =
    openRecords registered load table history ++
      Csv.written (rows.map (recordOf (columnsAfter registered table (history ++ [.stage load table rows])))) := by
  rw [openRecords, openTableRows_stage, if_pos rfl, List.map_append, written_append, written_open_concat]

/-- The file of staged rows, at its place, holds what was left in it and the records that are open. -/
structure Traced (d : Directory) (files : Record Bytes) (registered : Record (List String)) (load : LoadId)
    (table lain : String) (history : List LoadStep) (w : TableFiles) : Prop where
  told : Told registered history w
  staged : w.contentAt lain = leftover d files load table history ++ openRecords registered load table history

theorem told_opened : Told registered [] (opened files registered) :=
  ⟨fun _ => (Option.or_none).symm, fun _ _ => rfl⟩

theorem traced_opened (lies : d.place? (stagedName load table) = .ok lain) :
    Traced d files registered load table lain [] (opened files registered) where
  told := told_opened
  staged := by
    have content : leftover d files load table [] = (ofFiles files).contentAt lain := content_of_place lies
    rw [content]
    exact (List.append_nil _).symm

/-- A call keeps off the file of staged rows: it has no table there, and no rows of another load or another table. -/
structure KeepsOff (d : Directory) (load : LoadId) (table : String) (step : LoadStep) : Prop where
  shown : ¬d.Same (tableName step.table) (stagedName load table)
  staged : d.Same (stagedName step.load step.table) (stagedName load table) → (step.load, step.table) = (load, table)

instance (step : LoadStep) : Decidable (KeepsOff d load table step) :=
  decidable_of_iff (¬d.Same (tableName step.table) (stagedName load table) ∧
      (d.Same (stagedName step.load step.table) (stagedName load table) →
        (step.load, step.table) = (load, table)))
    ⟨fun h => ⟨h.1, h.2⟩, fun h => ⟨h.shown, h.staged⟩⟩

namespace Traced

/-- A call that does not touch the file leaves what stands there. -/
theorem keep {w' : TableFiles} (h : Traced d files registered load table lain history w)
    (told : Told registered (history ++ [step]) w') (kept : w'.files.get? lain = w.files.get? lain)
    (clears : step.clears load table history = false)
    (same : openTableRows load table (history ++ [step]) = openTableRows load table history) :
    Traced d files registered load table lain (history ++ [step]) w' where
  told := told
  staged := by
    rw [leftover_concat, clears, if_neg Bool.false_ne_true, openRecords_of_same same, ← h.staged, contentAt, kept,
      contentAt]

/-- A call that removes the file leaves nothing. -/
theorem clear {w' : TableFiles} (told : Told registered (history ++ [step]) w')
    (gone : w'.files.get? lain = none) (clears : step.clears load table history = true)
    (settling : step = .commit load table ∨ step = .abort load table) :
    Traced d files registered load table lain (history ++ [step]) w' where
  told := told
  staged := by
    rw [leftover_concat, clears, if_pos rfl, openRecords, openTableRows_settle settling, if_pos rfl, contentAt, gone]
    rfl

theorem stage {l : LoadId} {t : String} (h : Traced d files registered load table lain history w)
    (lies : d.place? (stagedName load table) = .ok lain) (off : KeepsOff d load table (.stage l t rows))
    (fine : (TableFiles.stage d l t rows w).1.isOk = true) :
    Traced d files registered load table lain (history ++ [.stage l t rows]) (TableFiles.stage d l t rows w).2 := by
  have told := h.told.stage fine
  by_cases same : (l, t) = (load, table)
  · cases same
    refine ⟨told, ?_⟩
    rcases stage_fine fine with ⟨rfl, form⟩ | ⟨filled, place, there, form⟩
    · rw [form, leftover_concat, LoadStep.clears, if_neg Bool.false_ne_true, openRecords_stage, h.staged]
      exact congrArg _ (List.append_nil _).symm
    · cases lies.symm.trans there
      have chosen : w.columnsFor table rows = columnsAfter registered table (history ++ [.stage load table rows]) := by
        rw [columnsAfter, columnsAfter?_concat, ← h.told.columns, columnsFor]
        cases w.columns.get? table with
        | none => exact congrArg (Option.getD · []) (if_pos rfl).symm
        | some columns => rfl
      rw [form, contentAt, get?_lay, if_pos rfl, h.staged, leftover_concat, LoadStep.clears,
        if_neg Bool.false_ne_true, openRecords_stage, chosen]
      exact List.append_assoc ..
  · have unmoved : openTableRows load table (history ++ [.stage l t rows]) = openTableRows load table history := by
      rw [openTableRows_stage, if_neg same, List.append_nil]
    refine h.keep told ?_ rfl unmoved
    rcases stage_fine fine with ⟨-, form⟩ | ⟨-, place, there, form⟩
    · rw [form]
    · have other : place ≠ lain := by
        rintro rfl
        exact same (off.staged ⟨_, there, lies⟩)
      rw [form, get?_lay, if_neg other]

theorem commit {l : LoadId} {t : String} (h : Traced d files registered load table lain history w)
    (lies : d.place? (stagedName load table) = .ok lain) (off : KeepsOff d load table (.commit l t))
    (told : Told registered (history ++ [.commit l t]) (TableFiles.commit d l t w).2)
    (fine : (TableFiles.commit d l t w).1.isOk = true) :
    Traced d files registered load table lain (history ++ [.commit l t]) (TableFiles.commit d l t w).2 := by
  by_cases idle : openTableRows l t history = []
  · -- With no rows to publish the file is not even opened, so what was left stays.
    have none : openRows l t history = [] := List.map_eq_nil_iff.mp idle
    have kept : (TableFiles.commit d l t w).2.files = w.files :=
      congrArg (·.2.files) (commit_of_none (h.told.count_eq_zero_iff.mpr idle))
    refine h.keep told (by rw [kept]) ?_ ?_
    · rw [LoadStep.clears]
      by_cases same : (l, t) = (load, table)
      · cases same
        rw [none, List.isEmpty_nil, Bool.not_true, Bool.and_false]
      · rw [decide_eq_false same, Bool.false_and]
    · rw [openTableRows_settle (.inl rfl)]
      split
      · next same =>
        cases same
        exact idle.symm
      · rfl
  · obtain ⟨-, -, shown, place, placed, there, -, gone, others⟩ :=
      commit_fine (mt h.told.count_eq_zero_iff.mp idle) (h.told.known idle) fine
    by_cases same : (l, t) = (load, table)
    · cases same
      cases lies.symm.trans there
      have some : openRows load table history ≠ [] := fun none => idle (List.map_eq_nil_iff.mpr none)
      exact clear told gone (by simpa [LoadStep.clears] using some) (.inl rfl)
    · have noTable : lain ≠ shown := by
        rintro rfl
        exact off.shown ⟨_, placed, lies⟩
      have noRows : lain ≠ place := by
        rintro rfl
        exact same (off.staged ⟨_, there, lies⟩)
      refine h.keep told (others lain noTable noRows) ?_ ?_
      · rw [LoadStep.clears, decide_eq_false same, Bool.false_and]
      · rw [openTableRows_settle (.inl rfl), if_neg same]

theorem abort {l : LoadId} {t : String} (h : Traced d files registered load table lain history w)
    (lies : d.place? (stagedName load table) = .ok lain) (off : KeepsOff d load table (.abort l t))
    (told : Told registered (history ++ [.abort l t]) (TableFiles.abort d l t w).2)
    (fine : (TableFiles.abort d l t w).1.isOk = true) :
    Traced d files registered load table lain (history ++ [.abort l t]) (TableFiles.abort d l t w).2 := by
  obtain ⟨-, -, left⟩ := abort_fine fine
  by_cases same : (l, t) = (load, table)
  · cases same
    exact clear told ((left lain).trans (if_pos lies)) (decide_eq_true rfl) (.inr rfl)
  · have other : ¬d.place? (stagedName l t) = .ok lain := fun there => same (off.staged ⟨_, there, lies⟩)
    refine h.keep told ((left lain).trans (if_neg other)) (decide_eq_false same) ?_
    rw [openTableRows_settle (.inr rfl), if_neg same]

/-- **One call keeps the file of staged rows as it is told**, if it keeps off the file otherwise. -/
theorem answer (h : Traced d files registered load table lain history w)
    (lies : d.place? (stagedName load table) = .ok lain) (off : KeepsOff d load table step)
    (fine : ((loader d).answer step w).1.isOk = true) :
    Traced d files registered load table lain (history ++ [step]) ((loader d).answer step w).2 := by
  have told := h.told.answer fine
  cases step with
  | stage l t rows =>
    rw [answer_stage] at fine ⊢
    exact h.stage lies off ((isOk_map ..).symm.trans fine)
  | commit l t =>
    rw [answer_commit] at fine told ⊢
    exact h.commit lies off told ((isOk_map ..).symm.trans fine)
  | abort l t =>
    rw [answer_abort] at fine told ⊢
    exact h.abort lies off told ((isOk_map ..).symm.trans fine)

end Traced

/-- What a warehouse knows is told by any number of calls that do not fail. -/
theorem told_run (fine : ∀ answer ∈ ((loader d).run history (opened files registered)).1, answer.isOk = true) :
    Told registered history ((loader d).run history (opened files registered)).2 := by
  induction history using List.reverseRecOn with
  | nil => exact told_opened
  | append_singleton history last ih =>
    rw [Loader.run_concat] at fine ⊢
    obtain ⟨before, now⟩ := List.forall_mem_append.mp fine
    exact (ih before).answer (now _ List.mem_cons_self)

/-- **Any number of calls keeps the file of staged rows as it is told.** -/
theorem traced_run (lies : d.place? (stagedName load table) = .ok lain)
    (fine : ∀ answer ∈ ((loader d).run history (opened files registered)).1, answer.isOk = true)
    (off : ∀ step ∈ history, KeepsOff d load table step) :
    Traced d files registered load table lain history ((loader d).run history (opened files registered)).2 := by
  induction history using List.reverseRecOn with
  | nil => exact traced_opened lies
  | append_singleton history last ih =>
    rw [Loader.run_concat] at fine ⊢
    obtain ⟨before, now⟩ := List.forall_mem_append.mp fine
    obtain ⟨others, own⟩ := List.forall_mem_append.mp off
    exact (ih before others).answer lies (own _ List.mem_cons_self) (now _ List.mem_cons_self)

/--
**A commit publishes what was left in the file of staged rows, and the rows behind it**, and counts the rows: those
staged under the load for the table since it was settled last. Names may lead to any files, which may hold anything at
the beginning, and the calls may be any that do not fail; those before the commit keep off the file of its rows. When
rows are published, the table grows by a header if it is empty, by what was left, and by the records of the rows; the
file of staged rows is removed; and no other file changes.
-/
theorem commit_publishes {calls : List LoadStep} {k : Nat}
    (fine : ∀ answer ∈ ((loader d).run calls (opened files registered)).1, answer.isOk = true)
    (called : calls[k]? = some (.commit load table))
    (off : ∀ step ∈ calls.take k, KeepsOff d load table step) :
    let history := calls.take k
    let before := ((loader d).run history (opened files registered)).2
    let after := ((loader d).run (calls.take (k + 1)) (opened files registered)).2
    let rows := openTableRows load table history
    let columns := columnsAfter registered table history
    let stood := before.content d (tableName table)
    let header := if stood.isEmpty then Csv.writtenRecord (columns.map Text.encode) else []
    ((loader d).run calls (opened files registered)).1[k]? = some (.ok (some rows.length)) ∧
      (rows = [] → after.files = before.files) ∧
      (rows ≠ [] → ∃ shown lain, d.place? (tableName table) = .ok shown ∧ d.place? (stagedName load table) = .ok lain ∧
        ∀ place, after.files.get? place =
          if place = lain then none
          else if place = shown then
            some (stood ++ (header ++
              (leftover d files load table history ++ Csv.written (rows.map (recordOf columns)))))
          else before.files.get? place) := by
  intro history before after rows columns stood header
  have fineBefore : ∀ answer ∈ ((loader d).run history (opened files registered)).1, answer.isOk = true := by
    intro answer mem
    refine fine answer ?_
    rw [← List.take_append_drop k calls, Loader.run_append]
    exact List.mem_append_left _ mem
  have told : Told registered history before := told_run fineBefore
  have last : after = (TableFiles.commit d load table before).2 := by
    change ((loader d).run (calls.take (k + 1)) _).2 = _
    rw [List.take_add_one, called, Option.toList_some, Loader.run_concat]
    rfl
  have answered : ((loader d).run calls (opened files registered)).1[k]? =
      some ((TableFiles.commit d load table before).1.map some) := Loader.getElem?_run called
  rw [answered, last]
  by_cases idle : rows = []
  · rw [commit_of_none (told.count_eq_zero_iff.mpr idle), idle]
    exact ⟨rfl, fun _ => rfl, fun filled => absurd rfl filled⟩
  · have counted : before.stagedCount load table ≠ 0 := mt told.count_eq_zero_iff.mp idle
    have known : before.columns.get? table = some columns := told.known idle
    have fineNow : (TableFiles.commit d load table before).1.isOk = true :=
      (isOk_map ..).symm.trans (fine _ (List.mem_of_getElem? answered))
    obtain ⟨-, -, shown, lain, placed, lies, there, -⟩ := commit_fine counted known fineNow
    have traced : Traced d files registered load table lain history before := traced_run lies fineBefore off
    have apart : shown ≠ lain := by
      obtain ⟨staged, mem, -⟩ := staged_of_open idle
      rintro rfl
      exact (off _ mem).shown ⟨_, placed, lies⟩
    have same : stood = before.contentAt shown := content_of_place placed
    rw [commit_of_placed known counted placed lies apart (there apart), told.count]
    refine ⟨rfl, fun none => absurd none idle, fun _ => ⟨shown, lain, placed, lies, fun place => ?_⟩⟩
    rw [get?_publish, added, traced.staged]
    simp only [eq_comm (a := lain), eq_comm (a := shown), header, same]
    rfl

/-- A load with the number of one that an earlier process left, of a table that has a row already. -/
theorem commit_publishes_behind_leftover :
    let d : Directory := .inTree ["tmp", "tables"] []
    let start := opened (.ofList [("t.csv", Text.encode "c\nw\n"), ("t.load-1.staged.csv", Text.encode "y\n")])
      (.ofList [("t", ["c"])])
    let calls : List LoadStep := [.stage 1 "t" [.ofList [("c", .text "x")]], .commit 1 "t"]
    (∀ answer ∈ ((loader d).run calls start).1, answer.isOk = true) ∧ calls[1]? = some (.commit 1 "t") ∧
      (∀ step ∈ calls.take 1, KeepsOff d 1 "t" step) ∧
      ((loader d).run calls start).1[1]? = some (.ok (some 1)) ∧
      ((loader d).run calls start).2.files.get? "t.csv" = some (Text.encode "c\nw\ny\nx\n") := by
  intro d start calls
  have fine : ∀ answer ∈ ((loader d).run calls start).1, answer.isOk = true := by decide +kernel
  have off : ∀ step ∈ calls.take 1, KeepsOff d 1 "t" step := by decide +kernel
  have placed : d.place? (tableName "t") = .ok "t.csv" := by decide +kernel
  have lies : d.place? (stagedName 1 "t") = .ok "t.load-1.staged.csv" := by decide +kernel
  obtain ⟨count, -, grown⟩ := commit_publishes (k := 1) fine rfl off
  obtain ⟨shown, lain, placed', lies', files⟩ := grown (by decide +kernel)
  cases placed.symm.trans placed'
  cases lies.symm.trans lies'
  have whole : calls.take (1 + 1) = calls := rfl
  rw [whole] at files
  exact ⟨fine, rfl, off, count, (files "t.csv").trans (by decide +kernel)⟩

/--
Rows are published that were not staged under the load: of a file that an earlier process has left, of a table that is
named like the file, and of another table that leads to the file. Each time the commit counts one row, which is the one
that was staged.
-/
theorem leftover_published :
    let d : Directory := .inTree ["tmp", "tables"] []
    let row (text : String) : TableRow := .ofList [("c", .text text)]
    let staging : List LoadStep := [.stage 1 "t" [row "x"], .commit 1 "t"]
    let naming : List LoadStep := [.stage 1 "t.load-1.staged" [row "y"], .commit 1 "t.load-1.staged"]
    let leading : List LoadStep := [.stage 1 "./t" [row "y"]]
    let left := (loader d).run staging (opened (.ofList [("t.load-1.staged.csv", Text.encode "y\n")]) .empty)
    let named := (loader d).run (naming ++ staging) (opened .empty .empty)
    let led := (loader d).run (leading ++ staging) (opened .empty .empty)
    openTableRows 1 "t" (staging.take 1) = [row "x"] ∧ openTableRows 1 "t" (naming ++ staging.take 1) = [row "x"] ∧
      openTableRows 1 "t" (leading ++ staging.take 1) = [row "x"] ∧
      left.1 = [.ok (some 1), .ok (some 1)] ∧ left.2.files.get? "t.csv" = some (Text.encode "c\ny\nx\n") ∧
      named.1 = [.ok (some 1), .ok (some 1), .ok (some 1), .ok (some 1)] ∧
      named.2.files.get? "t.csv" = some (Text.encode "c\nc\ny\nx\n") ∧
      led.1 = [.ok (some 1), .ok (some 1), .ok (some 1)] ∧
      led.2.files.get? "t.csv" = some (Text.encode "c\ny\nx\n") := by
  decide +kernel

end TableFiles

end RecordGate
