import RecordGate.Proofs.Schema.Checking
import RecordGate.Proofs.Text.Lowercase

/-!
# Which column a field takes its cell from

A column stands for a field by its own name, in any case and with blanks around it, or by an alias. Of the columns of
a row a field takes the last that has its own name, in the order of names, and if there is none the first that is
aliased to it (`Schema.get?_resolve_eq_columnFor?`), whatever the aliases are.

Main statement: a field that is direct, so that its name is spelled as columns are and no alias leads the name to
another field, is always reached under its own name (`Schema.check_reaches`). A name that an alias leads elsewhere
is passed over (`Schema.own_name_passed_over`).
-/

namespace RecordGate.Schema

/-! ## Names of columns -/

/-- The name of a column is spelled as it is. -/
theorem columnName_columnName (column : String) : columnName (columnName column) = columnName column := by
  have trimmed : Text.trim (Text.lowercase (Text.trim column)) = Text.lowercase (Text.trim column) :=
    Text.trim_lowercase (Text.trim_trim column)
  rw [columnName, columnName, trimmed, Text.lowercase_lowercase]

variable {schema : Schema} {column name : String}

theorem canonical_columnName : schema.canonical (columnName column) = schema.canonical column := by
  simp only [canonical, columnName_columnName]

/-- The column stands for the field of its name. -/
def Direct (schema : Schema) (column : String) : Prop := columnName column = column ∧ schema.canonical column = column

instance (schema : Schema) (column : String) : Decidable (schema.Direct column) := inferInstanceAs (Decidable (_ ∧ _))

/-- The column has the name, up to case and blanks around it. -/
def SameName (column name : String) : Prop := columnName column = columnName name

/-- An alias leads the column to the field of the name. -/
def LeadsTo (schema : Schema) (column name : String) : Prop := schema.aliases.get? (columnName column) = some name

theorem canonical_of_leadsTo (h : schema.LeadsTo column name) : schema.canonical column = name := by
  rw [LeadsTo] at h
  simp only [canonical, h, Option.getD_some]

theorem leadsTo_of_canonical (h : schema.canonical column = name) (other : columnName column ≠ name) :
    schema.LeadsTo column name := by
  simp only [canonical] at h
  cases found : schema.aliases.get? (columnName column) with
  | none =>
    rw [found, Option.getD_none] at h
    exact absurd h other
  | some target =>
    rw [found, Option.getD_some] at h
    rw [LeadsTo, found, h]

/-! ## The column of a field -/

/-- The column stands for the field under the field's own name. -/
def isOwn (schema : Schema) (name : String) (column : String × Cell) : Bool :=
  columnName column.1 == name && schema.canonical column.1 == name

/-- The column stands for the field under another name. -/
def isAliased (schema : Schema) (name : String) (column : String × Cell) : Bool :=
  columnName column.1 != name && schema.canonical column.1 == name

/-- Of columns in order, the last under the field's own name, or else the first that is aliased to the field. -/
def columnFor? (schema : Schema) (name : String) (columns : List (String × Cell)) : Option (String × Cell) :=
  (columns.filter (schema.isOwn name)).getLast?.or (columns.find? (schema.isAliased name))

variable {columns : List (String × Cell)} {c : String × Cell}

theorem columnFor?_concat_of_own (h : schema.isOwn name c = true) :
    schema.columnFor? name (columns ++ [c]) = some c := by
  rw [columnFor?, List.filter_append, List.filter_singleton, h, cond_true, List.getLast?_concat, Option.some_or]

theorem columnFor?_concat_of_not_own (h : schema.isOwn name c = false) :
    schema.columnFor? name (columns ++ [c]) =
      (schema.columnFor? name columns).or (if schema.isAliased name c then some c else none) := by
  rw [columnFor?, columnFor?, List.filter_append, List.filter_singleton, h, cond_false, List.append_nil,
    List.find?_append, List.find?_singleton, Option.or_assoc]

/-- Fields found under their own names have a cell. -/
def Resolved.Holds (r : Resolved) (name : String) : Prop := name ∈ r.direct → r.cells.get? name ≠ none

variable {r : Resolved}

theorem holds_resolveColumn (holds : r.Holds name) (c : String × Cell) : (schema.resolveColumn r c).Holds name := by
  simp only [Resolved.Holds, resolveColumn, canonical_columnName, beq_iff_eq]
  generalize schema.canonical c.1 = target
  split
  · intro mem
    rw [Record.get?_set]
    split
    · exact Option.some_ne_none _
    · next other => exact holds ((List.mem_cons.mp mem).resolve_left (Ne.symm other))
  · split
    · exact holds
    · intro mem
      rw [Record.get?_set]
      split
      · exact Option.some_ne_none _
      · exact holds mem

/-- **What one column changes.** Under the field's own name it is taken, under another it fills a gap. -/
theorem get?_resolveColumn (holds : r.Holds name) (c : String × Cell) :
    (schema.resolveColumn r c).cells.get? name =
      if schema.isOwn name c then some c.2
      else (r.cells.get? name).or (if schema.isAliased name c then some c.2 else none) := by
  simp only [resolveColumn, canonical_columnName, isOwn, isAliased, Bool.and_eq_true, beq_iff_eq, bne_iff_ne]
  generalize schema.canonical c.1 = target
  generalize columnName c.1 = own
  by_cases here : target = name
  · subst here
    by_cases same : target = own
    · subst same
      simp [Record.get?_set_self]
    · have foreign : own ≠ target := Ne.symm same
      rw [if_neg same]
      cases found : r.cells.get? target with
      | none =>
        have fresh : target ∉ r.direct := fun mem => holds mem found
        simp [fresh, foreign, Record.get?_set_self]
      | some cell => simp [foreign, found]
  · have kept (cell : Cell) : (r.cells.set target cell).get? name = r.cells.get? name :=
      Record.get?_set_of_ne r.cells cell here
    simp only [here, and_false, if_false, Option.or_none]
    split
    · exact kept c.2
    · split
      · rfl
      · exact kept c.2

/-- After some columns a field has the cell of its column among them. -/
theorem get?_foldl_resolveColumn (schema : Schema) (name : String) (columns : List (String × Cell)) :
    (columns.foldl schema.resolveColumn ⟨.empty, []⟩).Holds name ∧
      (columns.foldl schema.resolveColumn ⟨.empty, []⟩).cells.get? name =
        (schema.columnFor? name columns).map Prod.snd := by
  induction columns using List.reverseRecOn with
  | nil => exact ⟨nofun, rfl⟩
  | append_singleton columns c ih =>
    obtain ⟨holds, cells⟩ := ih
    rw [List.foldl_append, List.foldl_cons, List.foldl_nil]
    refine ⟨holds_resolveColumn holds c, ?_⟩
    rw [get?_resolveColumn holds, cells]
    cases own : schema.isOwn name c with
    | true => rw [columnFor?_concat_of_own own, if_pos rfl, Option.map_some]
    | false =>
      rw [columnFor?_concat_of_not_own own, if_neg Bool.false_ne_true, Option.map_or]
      split <;> rfl

/-- **Which cell a field gets** from a row, whatever the aliases and the names of the columns. -/
theorem get?_resolve_eq_columnFor? (schema : Schema) (row : RawRow) (name : String) :
    (schema.resolve row).get? name = (schema.columnFor? name row.cells.entries).map Prod.snd :=
  (get?_foldl_resolveColumn schema name row.cells.entries).2

/-! ## Fields under their own names -/

variable {engine : Pattern.Engine} {row : RawRow} {asOf : Date} {f : Field}

/-- The columns that have the name of a direct field are its own. -/
theorem isOwn_iff_sameName (direct : schema.Direct name) : schema.isOwn name c = true ↔ SameName c.1 name := by
  simp only [isOwn, SameName, Bool.and_eq_true, beq_iff_eq, direct.1]
  refine ⟨And.left, fun same => ⟨same, ?_⟩⟩
  rw [← canonical_columnName, same, direct.2]

/-- A field with a column of its own takes its cell from the last of these. -/
theorem columnFor?_of_own (own : ∃ c ∈ columns, schema.isOwn name c = true) :
    ∃ c ∈ columns, schema.isOwn name c = true ∧ schema.columnFor? name columns = some c := by
  obtain ⟨c, inside, holds⟩ := own
  have filled : columns.filter (schema.isOwn name) ≠ [] := List.ne_nil_of_mem (List.mem_filter.mpr ⟨inside, holds⟩)
  have last := List.mem_filter.mp (List.getLast_mem filled)
  refine ⟨_, last.1, last.2, ?_⟩
  rw [columnFor?, List.getLast?_eq_getLast_of_ne_nil filled, Option.some_or]

/-- A field without a column of its own takes its cell from the first that is aliased to it. -/
theorem columnFor?_of_aliased (foreign : ∀ c ∈ columns, ¬SameName c.1 name)
    (aliased : ∃ c ∈ columns, schema.LeadsTo c.1 name) :
    ∃ c ∈ columns, schema.LeadsTo c.1 name ∧ schema.columnFor? name columns = some c := by
  have other (c : String × Cell) (inside : c ∈ columns) : columnName c.1 ≠ name := by
    rintro rfl
    exact foreign c inside (columnName_columnName c.1).symm
  have noneOwn : columns.filter (schema.isOwn name) = [] := by
    refine List.filter_eq_nil_iff.mpr fun c inside own => ?_
    rw [isOwn, Bool.and_eq_true, beq_iff_eq] at own
    exact other c inside own.1
  obtain ⟨c, inside, leads⟩ := aliased
  have stands : schema.isAliased name c = true := by
    rw [isAliased, Bool.and_eq_true, bne_iff_ne, beq_iff_eq]
    exact ⟨other c inside, canonical_of_leadsTo leads⟩
  obtain ⟨first, found⟩ : ∃ first, columns.find? (schema.isAliased name) = some first :=
    Option.isSome_iff_exists.mp (List.find?_isSome.mpr ⟨c, inside, stands⟩)
  have holds := List.find?_some found
  rw [isAliased, Bool.and_eq_true, bne_iff_ne, beq_iff_eq] at holds
  refine ⟨first, List.mem_of_find?_eq_some found, leadsTo_of_canonical holds.2 holds.1, ?_⟩
  rw [columnFor?, noneOwn, List.getLast?_nil, Option.none_or, found]

/-- What a declared field takes from a row. -/
structure Reaches (engine : Pattern.Engine) (schema : Schema) (row : RawRow) (asOf : Date) (f : Field) : Prop where
  /-- The value and the errors of the field are those of the cell that is found for it. -/
  checked : (schema.check engine row asOf).values.get? f.name =
      some (f.check engine row.index asOf ((schema.resolve row).get? f.name)).1 ∧
    (schema.check engine row asOf).errors.filter (·.field == f.name) =
      (f.check engine row.index asOf ((schema.resolve row).get? f.name)).2
  /-- The cell is that of the last column under the field's own name, or else of the first aliased column. -/
  found : (schema.resolve row).get? f.name = (schema.columnFor? f.name row.cells.entries).map Prod.snd
  /-- A direct field takes the cell of a column of its name if there is one, whatever is aliased to it. -/
  own : schema.Direct f.name → (∃ c ∈ row.cells.entries, SameName c.1 f.name) →
    ∃ c ∈ row.cells.entries, SameName c.1 f.name ∧ (schema.resolve row).get? f.name = some c.2
  /-- It is not missing where such columns are there and none of them is blank. -/
  present : schema.Direct f.name → (∃ c ∈ row.cells.entries, SameName c.1 f.name) →
    (∀ c ∈ row.cells.entries, SameName c.1 f.name → c.2.isEmpty = false) →
    ∀ e ∈ (schema.check engine row asOf).errors, e.field = f.name → e.code ≠ .required
  /-- Where no column has the name of the field, it takes the cell of a column that is aliased to it. -/
  aliased : (∀ c ∈ row.cells.entries, ¬SameName c.1 f.name) →
    (∃ c ∈ row.cells.entries, schema.LeadsTo c.1 f.name) →
    ∃ c ∈ row.cells.entries, schema.LeadsTo c.1 f.name ∧ (schema.resolve row).get? f.name = some c.2

/-- The errors of a row that name a field are the errors of the field. -/
theorem filter_errors (consistent : schema.consistent? engine = .ok ()) (row : RawRow) (asOf : Date)
    (declared : f ∈ schema.fields) :
    (schema.check engine row asOf).errors.filter (·.field == f.name) =
      (f.check engine row.index asOf ((schema.resolve row).get? f.name)).2 := by
  let errors (g : Field) : List FieldError := (g.check engine row.index asOf ((schema.resolve row).get? g.name)).2
  have names (g : Field) (mem : g ∈ schema.fields) (e : FieldError) (inside : e ∈ errors g) : e.field = g.name :=
    ((g.check_callsFor (suits_of_consistent consistent g mem) ..).about inside).1
  obtain ⟨before, after, form⟩ := List.append_of_mem declared
  have distinct := nodup_of_consistent consistent
  rw [fieldNames, form, List.map_append, List.map_cons, List.nodup_middle, List.nodup_cons] at distinct
  have none (fields : List Field) (sub : ∀ g ∈ fields, g ∈ before ++ after) :
      (fields.flatMap errors).filter (·.field == f.name) = [] := by
    refine List.filter_eq_nil_iff.mpr fun e inside same => distinct.1 ?_
    obtain ⟨g, mem, reported⟩ := List.mem_flatMap.mp inside
    have listed : g ∈ schema.fields := by
      rw [form]
      exact List.perm_middle.mem_iff.mpr (List.mem_cons_of_mem _ (sub g mem))
    rw [← beq_iff_eq.mp same, names g listed e reported, ← List.map_append]
    exact List.mem_map_of_mem (sub g mem)
  have own : (errors f).filter (·.field == f.name) = errors f :=
    List.filter_eq_self.mpr fun e inside => beq_iff_eq.mpr (names f declared e inside)
  change (schema.check engine row asOf).errors.filter (·.field == f.name) = errors f
  rw [check_errors, form, List.flatMap_append, List.flatMap_cons, List.filter_append, List.filter_append]
  change (before.flatMap errors).filter _ ++ ((errors f).filter _ ++ (after.flatMap errors).filter _) = _
  rw [none before fun g mem => List.mem_append_left _ mem, none after fun g mem => List.mem_append_right _ mem, own,
    List.nil_append, List.append_nil]

/-- **A direct field is reached under its own name**, and every field under its aliases where its name is missing. -/
theorem check_reaches (consistent : schema.consistent? engine = .ok ()) (row : RawRow) (asOf : Date)
    (declared : f ∈ schema.fields) : Reaches engine schema row asOf f := by
  have distinct := nodup_of_consistent consistent
  have found := get?_resolve_eq_columnFor? schema row f.name
  have errors := filter_errors consistent row asOf declared
  have own (direct : schema.Direct f.name) (column : ∃ c ∈ row.cells.entries, SameName c.1 f.name) :
      ∃ c ∈ row.cells.entries, SameName c.1 f.name ∧ (schema.resolve row).get? f.name = some c.2 := by
    obtain ⟨c, inside, same⟩ := column
    obtain ⟨last, mem, holds, taken⟩ := columnFor?_of_own ⟨c, inside, (isOwn_iff_sameName direct).mpr same⟩
    exact ⟨last, mem, (isOwn_iff_sameName direct).mp holds, by rw [found, taken, Option.map_some]⟩
  refine ⟨⟨get?_values distinct row asOf declared, errors⟩, found, own, ?_, ?_⟩
  · intro direct column filled e reported name required
    obtain ⟨c, inside, same, taken⟩ := own direct column
    have mine : e ∈ (schema.check engine row asOf).errors.filter (·.field == f.name) :=
      List.mem_filter.mpr ⟨reported, beq_iff_eq.mpr name⟩
    rw [errors] at mine
    have blank := ((f.check_callsFor (suits_of_consistent consistent f declared) ..).about mine).2 required
    exact Bool.false_ne_true ((filled c inside same).symm.trans (blank c.2 taken))
  · intro foreign column
    obtain ⟨c, inside, leads, taken⟩ := columnFor?_of_aliased foreign column
    exact ⟨c, inside, leads, by rw [found, taken, Option.map_some]⟩

/--
Two columns have the name of the amount, a third is aliased to it and comes first by its name; the total has no column
of its own.
-/
theorem check_reaches_two_spellings :
    let engine : Pattern.Engine := .common
    let schema : Schema := ⟨.sales, [⟨"amount", .decimal, true, []⟩, ⟨"total", .text, true, []⟩],
      .ofList [("cost", "amount"), ("a", "amount"), ("sum", "total")]⟩
    let row : RawRow := ⟨1, .ofList [("A", .text "1"), (" AMOUNT ", .text "2"), ("Amount", .text "3"),
      ("COST", .text "4"), ("Sum", .text "5")]⟩
    schema.consistent? engine = .ok () ∧ schema.Direct "amount" ∧ ⟨"amount", .decimal, true, []⟩ ∈ schema.fields ∧
      (schema.resolve row).get? "amount" = some (.text "3") ∧ (schema.resolve row).get? "total" = some (.text "5") ∧
      Reaches engine schema row .epoch ⟨"amount", .decimal, true, []⟩ := by
  intro engine schema row
  have consistent : schema.consistent? engine = .ok () := rfl
  have declared : ⟨"amount", .decimal, true, []⟩ ∈ schema.fields := List.mem_cons_self
  have amount : (schema.resolve row).get? "amount" = some (.text "3") := by
    rw [get?_resolve_eq_columnFor?]
    decide +kernel
  have total : (schema.resolve row).get? "total" = some (.text "5") := by
    rw [get?_resolve_eq_columnFor?]
    decide +kernel
  exact ⟨consistent, by decide +kernel, declared, amount, total, check_reaches consistent row .epoch declared⟩

/--
A name that an alias leads to another field is not its field's own any more: the row has an amount, and it is missing.
A name with a capital letter is not spelled as columns are, and is not found either.
-/
theorem own_name_passed_over :
    let engine : Pattern.Engine := .common
    let redirected : Schema := ⟨.sales, [⟨"amount", .decimal, true, []⟩, ⟨"total", .decimal, false, []⟩],
      .ofList [("amount", "total")]⟩
    let capital : Schema := ⟨.sales, [⟨"Amount", .decimal, true, []⟩], .empty⟩
    let both : RawRow := ⟨1, .ofList [("amount", .text "5"), ("total", .text "7")]⟩
    let single : RawRow := ⟨1, .ofList [("Amount", .text "5")]⟩
    (redirected.consistent? engine = .ok () ∧ SameName "amount" "amount" ∧
        (redirected.resolve both).get? "amount" = none ∧
        (redirected.check engine both .epoch).errors.map (fun e => (e.field, e.code)) = [("amount", .required)]) ∧
      capital.consistent? engine = .ok () ∧ SameName "Amount" "Amount" ∧ (capital.resolve single).get? "Amount" = none ∧
        (capital.check engine single .epoch).errors.map (fun e => (e.field, e.code)) = [("Amount", .required)] := by
  intro engine redirected capital both single
  exact ⟨⟨rfl, rfl, by decide +kernel, by decide +kernel⟩, rfl, rfl, by decide +kernel, by decide +kernel⟩

end RecordGate.Schema
