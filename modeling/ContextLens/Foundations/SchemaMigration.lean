import Mathlib.Data.List.Forall2
import Mathlib.Logic.Function.Basic

/-!
# Schema migrations over stored rows

A migration is a list of operations, and each acts on the schema and on the rows.  A row is
a function from column names to values, with `none` for `NULL` and for a column that the table
does not have, so that rows are compared with `=`.

What the operations do to the schema is computed and fails where the statement would; what they
do to the rows fails where a row is in the way: a `NOT NULL` column is added without a default, or
a column with a `NULL` is made `NOT NULL`.

* `run_isSome`: a migration that fills a column before it makes it `NOT NULL` goes through on
  all rows.
* `Fits.run`, `Fits.exec`: the rows go on fitting the schema, under a migration and under a
  statement.
* `undo_run`: the inverses in reverse order bring back the rows, up to the `NULL`s that were
  filled.
-/

namespace Foundations

namespace Migration

universe u v

/- `L` are the literals of the operations, and `V` the stored values. -/
variable {L : Type u} {V : Type v}

/-! ## Schemas and rows -/

/-- A column, and the value that a row without one gets. -/
structure Column (L : Type u) where
  name : String
  notNull : Bool
  default : Option L
deriving DecidableEq

/-- A table: its columns, its foreign keys as columns with the tables they refer to, and its
indexes. -/
structure Table (L : Type u) where
  name : String
  columns : List (Column L)
  foreignKeys : List (String × String)
  indexes : List (String × List String)
deriving DecidableEq

abbrev Schema (L : Type u) := List (Table L)

abbrev Row (V : Type v) := String → Option V

/-- The rows of each table. -/
abbrev Rows (V : Type v) := String → List (Row V)

def Table.columnNames (table : Table L) : List String := table.columns.map Column.name

/-- The table with a name. -/
def Schema.lookup (S : Schema L) (name : String) : Option (Table L) :=
  S.find? fun table => table.name = name

/-- The table with a name is changed. -/
def Schema.modify (S : Schema L) (name : String) (f : Table L → Table L) : Schema L :=
  S.map fun table => if table.name = name then f table else table

/-! ## Operations -/

inductive Op (L : Type u)
  | createTable (table : String) (columns : List (Column L)) (foreignKeys : List (String × String))
  | dropTable (table : String)
  | createIndex (index table : String) (columns : List String)
  | dropIndex (index table : String)
  | addColumn (table : String) (column : Column L)
  | dropColumn (table column : String)
  | renameColumn (table old new : String)
  | setNotNull (table column : String)
  | dropNotNull (table column : String)
  | fillNull (table column : String) (value : L)
deriving DecidableEq

namespace Op

/-- The table that an operation is about. -/
def table : Op L → String
  | createTable table _ _ | dropTable table | createIndex _ table _ | dropIndex _ table
  | addColumn table _ | dropColumn table _ | renameColumn table _ _ | setNotNull table _
  | dropNotNull table _ | fillNull table _ _ => table

/-- A name with one replaced. -/
def renamed (old new name : String) : String := if name = old then new else name

/-- The change of its table by an operation on columns or indexes, when it is allowed. -/
def onTable : Op L → Table L → Option (Table L)
  | createIndex index _ columns, table =>
      if columns.all fun column => decide (column ∈ table.columnNames) then
        some { table with indexes := table.indexes ++ [(index, columns)] }
      else none
  | dropIndex index _, table =>
      if table.indexes.any fun other => decide (other.1 = index) then
        some { table with indexes := table.indexes.filter fun other => other.1 ≠ index }
      else none
  | addColumn _ column, table =>
      if column.name ∈ table.columnNames then none
      else some { table with columns := table.columns ++ [column] }
  | dropColumn _ column, table =>
      -- What refers to the column goes with it.
      if column ∈ table.columnNames then
        some
          { table with
            columns := table.columns.filter fun other => other.name ≠ column
            foreignKeys := table.foreignKeys.filter fun key => key.1 ≠ column
            indexes := table.indexes.filter fun index => column ∉ index.2 }
      else none
  | renameColumn _ old new, table =>
      if old ∈ table.columnNames ∧ new ∉ table.columnNames then
        some
          { table with
            columns := table.columns.map fun column =>
              { column with name := renamed old new column.name }
            foreignKeys := table.foreignKeys.map fun key => (renamed old new key.1, key.2)
            indexes := table.indexes.map fun index => (index.1, index.2.map (renamed old new)) }
      else none
  | setNotNull _ column, table =>
      if column ∈ table.columnNames then
        some { table with columns := table.columns.map fun other =>
          if other.name = column then { other with notNull := true } else other }
      else none
  | dropNotNull _ column, table =>
      if column ∈ table.columnNames then
        some { table with columns := table.columns.map fun other =>
          if other.name = column then { other with notNull := false } else other }
      else none
  | fillNull _ column _, table => if column ∈ table.columnNames then some table else none
  | createTable _ _ _, _ | dropTable _, _ => none

/-- The name that an operation gives to a new index. -/
def newIndex : Op L → Option String
  | createIndex index _ _ => some index
  | _ => none

/-- The schema with the table of an operation changed.  The names of indexes are global. -/
def changeTable (op : Op L) (S : Schema L) : Option (Schema L) :=
  if ∀ index ∈ op.newIndex, ∀ other ∈ S, ∀ known ∈ other.indexes, known.1 ≠ index then
    (S.lookup op.table).bind fun table =>
      (op.onTable table).map fun changed => S.modify op.table fun _ => changed
  else none

/-- What an operation makes of the schema.  A table that another one refers to is not dropped. -/
def onSchema (op : Op L) (S : Schema L) : Option (Schema L) :=
  match op with
  | createTable table columns foreignKeys =>
      if S.lookup table = none ∧ ∀ key ∈ foreignKeys, (S.lookup key.2).isSome = true then
        some (S ++ [⟨table, columns, foreignKeys, []⟩])
      else none
  | dropTable table =>
      if (S.lookup table).isSome = true ∧
          ∀ other ∈ S, other.name = table ∨ ∀ key ∈ other.foreignKeys, key.2 ≠ table then
        some (S.filter fun other => other.name ≠ table)
      else none
  | op => op.changeTable S

/-- What an operation makes of a row of its table. -/
def onRow (eval : L → V) : Op L → Row V → Row V
  | addColumn _ column, row => Function.update row column.name (column.default.map eval)
  | dropColumn _ column, row => Function.update row column none
  | renameColumn _ old new, row => Function.update (Function.update row new (row old)) old none
  | fillNull _ column value, row => Function.update row column (row column <|> some (eval value))
  | _, row => row

/-- Whether a row lets an operation through: no column becomes `NOT NULL` while it has a
`NULL`. -/
def admits : Op L → Row V → Bool
  | addColumn _ column, _ => !column.notNull || column.default.isSome
  | setNotNull _ column, row => (row column).isSome
  | _, _ => true

/-- The rows of its table changed one by one, when all let it through. -/
def mapRows (eval : L → V) (op : Op L) (rows : Rows V) : Option (Rows V) :=
  if (rows op.table).all op.admits then
    some (Function.update rows op.table ((rows op.table).map (op.onRow eval)))
  else none

/-- What an operation makes of the rows. -/
def onRows (eval : L → V) (op : Op L) (rows : Rows V) : Option (Rows V) :=
  match op with
  | createTable table _ _ | dropTable table => some (Function.update rows table [])
  | op => op.mapRows eval rows

end Op

/-- A list of operations on the schema. -/
def runSchema : List (Op L) → Schema L → Option (Schema L)
  | [], S => some S
  | op :: ops, S => (op.onSchema S).bind (runSchema ops)

/-- A list of operations on the rows. -/
def run (eval : L → V) : List (Op L) → Rows V → Option (Rows V)
  | [], rows => some rows
  | op :: ops, rows => (op.onRows eval rows).bind (run eval ops)

theorem run_append (eval : L → V) (first second : List (Op L)) (rows : Rows V) :
    run eval (first ++ second) rows = (run eval first rows).bind (run eval second) := by
  induction first generalizing rows with
  | nil => rfl
  | cons op first ih =>
      rw [List.cons_append, run, run, Option.bind_assoc]
      exact congrArg _ (funext ih)

/-! ## Statements -/

/-- What is run on the rows between the migrations. -/
inductive Statement (V : Type v)
  | insert (table : String) (values : List (String × Option V))
  | update (table : String) (change : Row V → List (String × Option V)) (which : Row V → Bool)
  | delete (table : String) (which : Row V → Bool)

/-- The values of a new row that are not given. -/
def Table.defaults (eval : L → V) (table : Table L) : Row V := fun name =>
  (table.columns.find? fun column => column.name = name).bind fun column => column.default.map eval

/-- A row with some of its values given anew. -/
def assign (row : Row V) (values : List (String × Option V)) : Row V := fun name =>
  (values.lookup name).getD (row name)

/-- Whether a table takes a row with these values: it has the columns, and what is `NOT NULL` has
a value. -/
def Table.takes (table : Table L) (row : Row V) (values : List (String × Option V)) : Bool :=
  (values.all fun value => decide (value.1 ∈ table.columnNames)) &&
    table.columns.all fun column => !column.notNull || (assign row values column.name).isSome

/-- The rows after a statement. -/
def Statement.exec (eval : L → V) (S : Schema L) : Statement V → Rows V → Option (Rows V)
  | .insert name values, rows => (S.lookup name).bind fun table =>
      if table.takes (table.defaults eval) values then
        some (Function.update rows name (rows name ++ [assign (table.defaults eval) values]))
      else none
  | .update name change which, rows => (S.lookup name).bind fun table =>
      if (rows name).all fun row => !which row || table.takes row (change row) then
        some (Function.update rows name
          ((rows name).map fun row => if which row then assign row (change row) else row))
      else none
  | .delete name which, rows => (S.lookup name).map fun _ =>
      Function.update rows name ((rows name).filter fun row => !which row)

/-! ## Going through -/

namespace Op

/-- Whether an operation goes through on all rows that have a value in the known columns. -/
def ready (known : List (String × String)) : Op L → Bool
  | addColumn _ column => !column.notNull || column.default.isSome
  | setNotNull table column => decide ((table, column) ∈ known)
  | _ => true

/-- The columns that then have a value in every row. -/
def knows (known : List (String × String)) : Op L → List (String × String)
  | fillNull table column _ => (table, column) :: known
  | addColumn table column => known.filter fun place => place ≠ (table, column.name)
  | dropColumn table column => known.filter fun place => place ≠ (table, column)
  | renameColumn table old new =>
      known.filter fun place => place ≠ (table, old) ∧ place ≠ (table, new)
  | _ => known

end Op

/-- Every row has a value in the known columns. -/
def Known (known : List (String × String)) (rows : Rows V) : Prop :=
  ∀ place ∈ known, ∀ row ∈ rows place.1, (row place.2).isSome = true

/-- A list of operations that fills columns before it makes them `NOT NULL`. -/
def ready : List (String × String) → List (Op L) → Bool
  | _, [] => true
  | known, op :: ops => op.ready known && ready (op.knows known) ops

section

variable {known : List (String × String)} {rows rows' : Rows V} {op : Op L} {ops : List (Op L)}
  {eval : L → V}

theorem Known.admits (hknown : Known known rows) (hready : op.ready known = true) :
    (rows op.table).all op.admits = true := by
  rw [List.all_eq_true]
  intro row hrow
  cases op with
  | addColumn table column => exact hready
  | setNotNull table column => exact hknown _ (of_decide_eq_true hready) row hrow
  | _ => rfl

/-- An operation that is ready goes through. -/
theorem Known.onRows_isSome (hknown : Known known rows) (hready : op.ready known = true) :
    ∃ rows', op.onRows eval rows = some rows' := by
  have hadmits := hknown.admits hready
  cases op with
  | createTable table columns foreignKeys => exact ⟨_, rfl⟩
  | dropTable table => exact ⟨_, rfl⟩
  | _ => exact ⟨_, if_pos hadmits⟩

/-- The rows after an operation: those of its table are changed, the others stay. -/
theorem Op.mem_onRows (hrows : op.onRows eval rows = some rows') {name : String} {row : Row V}
    (hrow : row ∈ rows' name) :
    (name = op.table ∧
        ∃ before ∈ rows op.table, op.admits before = true ∧ row = op.onRow eval before) ∨
      name ≠ op.table ∧ row ∈ rows name := by
  have hcleared : ∀ table, some (Function.update rows table []) = some rows' →
      name ≠ table ∧ row ∈ rows name := by
    intro table hupdate
    rw [← Option.some.inj hupdate, Function.update_apply] at hrow
    split_ifs at hrow with hname
    · cases hrow
    · exact ⟨hname, hrow⟩
  have hmapped : op.mapRows eval rows = some rows' →
      (name = op.table ∧
          ∃ before ∈ rows op.table, op.admits before = true ∧ row = op.onRow eval before) ∨
        name ≠ op.table ∧ row ∈ rows name := by
    intro hupdate
    rw [Op.mapRows] at hupdate
    split_ifs at hupdate with hadmits
    rw [← Option.some.inj hupdate, Function.update_apply] at hrow
    split_ifs at hrow with hname
    · obtain ⟨before, hbefore, rfl⟩ := List.mem_map.mp hrow
      exact Or.inl ⟨hname, before, hbefore, List.all_eq_true.mp hadmits before hbefore, rfl⟩
    · exact Or.inr ⟨hname, hrow⟩
  cases op with
  | createTable table columns foreignKeys => exact Or.inr (hcleared table hrows)
  | dropTable table => exact Or.inr (hcleared table hrows)
  | _ => exact hmapped hrows

/-- What is known goes with the rows. -/
theorem Known.onRows (hknown : Known known rows) (hrows : op.onRows eval rows = some rows') :
    Known (op.knows known) rows' := by
  intro place hplace row hrow
  rcases Op.mem_onRows hrows hrow with ⟨hname, before, hbefore, -, rfl⟩ | ⟨hname, hrow⟩
  · have hold : place ∈ known → (before place.2).isSome = true :=
      fun hin => hknown place hin before (hname ▸ hbefore)
    obtain ⟨table, column⟩ := place
    cases op with
    | fillNull table' column' value =>
        rw [Op.onRow, Function.update_apply]
        split_ifs with hcolumn
        · cases before column' <;> rfl
        · rcases List.mem_cons.mp hplace with heq | hin
          · exact absurd (congrArg Prod.snd heq) hcolumn
          · exact hold hin
    | addColumn table' column' =>
        obtain ⟨hin, hne⟩ := List.mem_filter.mp hplace
        obtain rfl : table = table' := hname
        rw [Op.onRow, Function.update_of_ne fun heq => of_decide_eq_true hne (by rw [← heq])]
        exact hold hin
    | dropColumn table' column' =>
        obtain ⟨hin, hne⟩ := List.mem_filter.mp hplace
        obtain rfl : table = table' := hname
        rw [Op.onRow, Function.update_of_ne fun heq => of_decide_eq_true hne (by rw [← heq])]
        exact hold hin
    | renameColumn table' old new =>
        obtain ⟨hin, hne⟩ := List.mem_filter.mp hplace
        obtain rfl : table = table' := hname
        obtain ⟨hold', hnew⟩ := of_decide_eq_true hne
        rw [Op.onRow, Function.update_of_ne fun heq => hold' (by rw [← heq]),
          Function.update_of_ne fun heq => hnew (by rw [← heq])]
        exact hold hin
    | _ => exact hold hplace
  · -- Nothing new is known of another table.
    have hin : place ∈ known := by
      cases op with
      | fillNull table' column' value =>
          rcases List.mem_cons.mp hplace with rfl | hin
          · exact absurd rfl hname
          · exact hin
      | addColumn | dropColumn | renameColumn => exact List.mem_of_mem_filter hplace
      | _ => exact hplace
    exact hknown place hin row hrow

/-- **A migration that is ready goes through** on all rows. -/
theorem run_isSome (hknown : Known known rows) (hready : ready known ops = true) :
    ∃ rows', run eval ops rows = some rows' := by
  induction ops generalizing known rows with
  | nil => exact ⟨rows, rfl⟩
  | cons op ops ih =>
      obtain ⟨hop, hops⟩ := Bool.and_eq_true_iff.mp hready
      obtain ⟨next, hnext⟩ := hknown.onRows_isSome hop
      obtain ⟨rows', hrun⟩ := ih (hknown.onRows hnext) hops
      exact ⟨rows', by rw [run, hnext]; exact hrun⟩

end

/-! ## Rows that fit the schema -/

/-- A row has values in the columns of its table only, and in each that is `NOT NULL`. -/
structure Table.FitsRow (table : Table L) (row : Row V) : Prop where
  absent : ∀ column, column ∉ table.columnNames → row column = none
  notNull : ∀ column ∈ table.columns, column.notNull = true → (row column.name).isSome = true

/-- Every row fits its table, and there are none of tables that the schema does not have. -/
structure Fits (S : Schema L) (rows : Rows V) : Prop where
  unknown : ∀ name, S.lookup name = none → rows name = []
  known : ∀ name table, S.lookup name = some table → ∀ row ∈ rows name, table.FitsRow row

section

variable {S S' : Schema L} {rows rows' : Rows V} {op : Op L} {ops : List (Op L)}
  {table changed : Table L} {eval : L → V}

/-- Setting whether columns are `NOT NULL` leaves their names. -/
theorem columnNames_map_notNull (columns : List (Column L)) (column : String) (notNull : Bool) :
    (columns.map fun other =>
      if other.name = column then { other with notNull := notNull } else other).map Column.name =
        columns.map Column.name := by
  rw [List.map_map]
  refine List.map_congr_left fun other _ => ?_
  rw [Function.comp_apply]
  split_ifs <;> rfl

theorem Op.onTable_name (h : op.onTable table = some changed) : changed.name = table.name := by
  cases op <;> simp only [Op.onTable] at h <;> (try split_ifs at h) <;> cases h <;> rfl

/-- A row that is let through fits the changed table. -/
theorem Table.FitsRow.onTable {row : Row V} (hrow : table.FitsRow row)
    (hchanged : op.onTable table = some changed) (hadmits : op.admits row = true) :
    changed.FitsRow (op.onRow eval row) := by
  cases op with
  | createTable => cases hchanged
  | dropTable => cases hchanged
  | createIndex index name columns =>
      rw [Op.onTable] at hchanged
      split_ifs at hchanged
      obtain rfl := Option.some.inj hchanged
      exact ⟨hrow.absent, hrow.notNull⟩
  | dropIndex index name =>
      rw [Op.onTable] at hchanged
      split_ifs at hchanged
      obtain rfl := Option.some.inj hchanged
      exact ⟨hrow.absent, hrow.notNull⟩
  | addColumn name column =>
      rw [Op.onTable] at hchanged
      split_ifs at hchanged with hfresh
      obtain rfl := Option.some.inj hchanged
      constructor
      · intro other hother
        rw [Table.columnNames, List.map_append, List.mem_append, not_or] at hother
        have hne : other ≠ column.name := fun heq => hother.2 (List.mem_singleton.mpr heq)
        rw [Op.onRow, Function.update_of_ne hne]
        exact hrow.absent other hother.1
      · intro other hother hnotNull
        rcases List.mem_append.mp hother with hold | hnew
        · have hne : other.name ≠ column.name :=
            fun heq => hfresh (heq ▸ List.mem_map_of_mem hold)
          rw [Op.onRow, Function.update_of_ne hne]
          exact hrow.notNull other hold hnotNull
        · obtain rfl := List.mem_singleton.mp hnew
          rw [Op.onRow, Function.update_self]
          rw [Op.admits, hnotNull] at hadmits
          rw [Option.isSome_map]
          exact hadmits
  | dropColumn name column =>
      rw [Op.onTable] at hchanged
      split_ifs at hchanged
      obtain rfl := Option.some.inj hchanged
      constructor
      · intro other hother
        rw [Op.onRow, Function.update_apply]
        split_ifs with heq
        · rfl
        · refine hrow.absent other fun hin => hother ?_
          obtain ⟨known, hknown, rfl⟩ := List.mem_map.mp hin
          exact List.mem_map_of_mem (List.mem_filter.mpr ⟨hknown, decide_eq_true heq⟩)
      · intro other hother hnotNull
        obtain ⟨hold, hne⟩ := List.mem_filter.mp hother
        rw [Op.onRow, Function.update_of_ne (of_decide_eq_true hne)]
        exact hrow.notNull other hold hnotNull
  | renameColumn name old new =>
      rw [Op.onTable] at hchanged
      split_ifs at hchanged with hnames
      obtain ⟨hold, hnew⟩ := hnames
      obtain rfl := Option.some.inj hchanged
      have hne : new ≠ old := fun heq => hnew (heq ▸ hold)
      constructor
      · intro other hother
        rw [Op.onRow, Function.update_apply]
        split_ifs with hother'
        · rfl
        · have hmem : ∀ {column : Column L}, column ∈ table.columns →
              Op.renamed old new column.name ≠ other := by
            intro column hcolumn heq
            refine hother (List.mem_map.mpr ⟨_, List.mem_map_of_mem hcolumn, heq⟩)
          have hother'' : other ≠ new := by
            obtain ⟨column, hcolumn, hname⟩ := List.mem_map.mp hold
            have hrenamed := hmem hcolumn
            rw [Op.renamed, if_pos hname] at hrenamed
            exact hrenamed.symm
          rw [Function.update_of_ne hother'']
          refine hrow.absent other fun hin => ?_
          obtain ⟨column, hcolumn, rfl⟩ := List.mem_map.mp hin
          exact hmem hcolumn (if_neg hother')
      · intro other hother hnotNull
        obtain ⟨column, hcolumn, rfl⟩ := List.mem_map.mp hother
        have hvalue := hrow.notNull column hcolumn hnotNull
        show (Function.update (Function.update row new (row old)) old none
          (Op.renamed old new column.name)).isSome = true
        rw [Op.renamed]
        split_ifs with heq
        · rw [Function.update_of_ne hne, Function.update_self, ← heq]
          exact hvalue
        · have hother' : column.name ≠ new := fun h => hnew (h ▸ List.mem_map_of_mem hcolumn)
          rw [Function.update_of_ne heq, Function.update_of_ne hother']
          exact hvalue
  | setNotNull name column =>
      rw [Op.onTable] at hchanged
      split_ifs at hchanged
      obtain rfl := Option.some.inj hchanged
      refine ⟨fun other hother => hrow.absent other fun hin => hother ?_, ?_⟩
      · rwa [Table.columnNames, columnNames_map_notNull]
      · intro other hother hnotNull
        obtain ⟨known, hknown, rfl⟩ := List.mem_map.mp hother
        split_ifs at hnotNull ⊢ with heq
        · rw [heq]
          exact hadmits
        · exact hrow.notNull known hknown hnotNull
  | dropNotNull name column =>
      rw [Op.onTable] at hchanged
      split_ifs at hchanged
      obtain rfl := Option.some.inj hchanged
      refine ⟨fun other hother => hrow.absent other fun hin => hother ?_, ?_⟩
      · rwa [Table.columnNames, columnNames_map_notNull]
      · intro other hother hnotNull
        obtain ⟨known, hknown, rfl⟩ := List.mem_map.mp hother
        split_ifs at hnotNull ⊢ with heq
        exact hrow.notNull known hknown hnotNull
  | fillNull name column value =>
      rw [Op.onTable] at hchanged
      split_ifs at hchanged with hin
      obtain rfl := Option.some.inj hchanged
      constructor
      · intro other hother
        have hne : other ≠ column := fun heq => hother (heq ▸ hin)
        rw [Op.onRow, Function.update_of_ne hne]
        exact hrow.absent other hother
      · intro other hother hnotNull
        have hvalue := hrow.notNull other hother hnotNull
        rw [Op.onRow, Function.update_apply]
        split_ifs with heq
        · rw [← heq]
          cases hold : row other.name with
          | none =>
              rw [hold] at hvalue
              cases hvalue
          | some value => rfl
        · exact hvalue

/-! ### The schema behind the rows -/

theorem Schema.lookup_modify {name : String} (hname : changed.name = name) (other : String) :
    (S.modify name fun _ => changed).lookup other =
      if other = name then (S.lookup name).map fun _ => changed else S.lookup other := by
  induction S with
  | nil => simp [Schema.modify, Schema.lookup]
  | cons first S ih =>
      simp only [Schema.modify, Schema.lookup, List.map_cons, List.find?_cons] at ih ⊢
      rw [ih]
      by_cases hfirst : first.name = name
      · by_cases hother : other = name
        · simp [hfirst, hother, hname]
        · simp [hfirst, hother, hname, Ne.symm hother]
      · by_cases hother : other = name
        · simp [hfirst, hother]
        · simp [hfirst, hother]

theorem Schema.lookup_append (other : String) :
    Schema.lookup (S ++ [table]) other =
      (S.lookup other).or (if table.name = other then some table else none) := by
  rw [Schema.lookup, List.find?_append, List.find?_cons, List.find?_nil]
  by_cases hname : table.name = other <;> simp [hname, Schema.lookup]

theorem Schema.lookup_filter (name other : String) :
    Schema.lookup (S.filter fun table => table.name ≠ name) other =
      if other = name then none else S.lookup other := by
  rw [Schema.lookup, Schema.lookup, List.find?_filter]
  split_ifs with hother
  · rw [List.find?_eq_none]
    intro table _
    simp [hother]
  · congr 1
    funext table
    by_cases hname : table.name = other <;> simp [hname, hother]

/-- What an operation does to the schema, in three cases. -/
theorem Op.onSchema_cases (h : op.onSchema S = some S') :
    (∃ table changed, S.lookup op.table = some table ∧ op.onTable table = some changed ∧
        S' = S.modify op.table fun _ => changed) ∨
      (∃ columns foreignKeys, op = .createTable op.table columns foreignKeys ∧
        S.lookup op.table = none ∧ S' = S ++ [⟨op.table, columns, foreignKeys, []⟩]) ∨
      (op = .dropTable op.table ∧ S' = S.filter fun table => table.name ≠ op.table) := by
  have htable : op.changeTable S = some S' →
      ∃ table changed, S.lookup op.table = some table ∧ op.onTable table = some changed ∧
        S' = S.modify op.table fun _ => changed := by
    intro h
    rw [Op.changeTable] at h
    split_ifs at h
    obtain ⟨table, hlookup, hmap⟩ := Option.bind_eq_some_iff.mp h
    obtain ⟨changed, hchanged, rfl⟩ := Option.map_eq_some_iff.mp hmap
    exact ⟨table, changed, hlookup, hchanged, rfl⟩
  cases op with
  | createTable name columns foreignKeys =>
      rw [Op.onSchema] at h
      split_ifs at h with hfresh
      exact Or.inr (Or.inl ⟨columns, foreignKeys, rfl, hfresh.1, (Option.some.inj h).symm⟩)
  | dropTable name =>
      rw [Op.onSchema] at h
      split_ifs at h
      exact Or.inr (Or.inr ⟨rfl, (Option.some.inj h).symm⟩)
  | _ => exact Or.inl (htable h)

/-- **One operation**: the rows go on fitting the schema. -/
theorem Fits.onRows (h : Fits S rows) (hschema : op.onSchema S = some S')
    (hrows : op.onRows eval rows = some rows') : Fits S' rows' := by
  -- The rows of the other tables are as they were, and so are their tables.
  have hothers : (∀ name, name ≠ op.table → S'.lookup name = S.lookup name) →
      (∀ table, S'.lookup op.table = some table → ∀ row ∈ rows' op.table, table.FitsRow row) →
      (S'.lookup op.table = none → rows' op.table = []) → Fits S' rows' := by
    intro hlookup hown hgone
    constructor
    · intro name hnone
      by_cases hname : name = op.table
      · exact hname ▸ hgone (hname ▸ hnone)
      · rw [hlookup name hname] at hnone
        refine List.eq_nil_iff_forall_not_mem.mpr fun row hrow => ?_
        rcases Op.mem_onRows hrows hrow with ⟨hsame, -⟩ | ⟨-, hold⟩
        · exact hname hsame
        · rw [h.unknown name hnone] at hold
          cases hold
    · intro name table hsome row hrow
      by_cases hname : name = op.table
      · exact hown table (hname ▸ hsome) row (hname ▸ hrow)
      · rw [hlookup name hname] at hsome
        rcases Op.mem_onRows hrows hrow with ⟨hsame, -⟩ | ⟨-, hold⟩
        · exact absurd hsame hname
        · exact h.known name table hsome row hold
  rcases Op.onSchema_cases hschema with
    ⟨table, changed, hlookup, hchanged, rfl⟩ | ⟨columns, foreignKeys, hop, hfresh, rfl⟩ |
    ⟨hop, rfl⟩
  · have hfound := h.known op.table table hlookup
    have hname : changed.name = op.table := by
      rw [Op.onTable_name hchanged]
      simpa using List.find?_some hlookup
    have hself : (S.modify op.table fun _ => changed).lookup op.table = some changed := by
      rw [Schema.lookup_modify hname, if_pos rfl, hlookup, Option.map_some]
    refine hothers (fun name hne => by rw [Schema.lookup_modify hname, if_neg hne]) ?_ ?_
    · intro table' hsome row hrow
      obtain rfl := Option.some.inj (hself.symm.trans hsome)
      rcases Op.mem_onRows hrows hrow with ⟨-, before, hbefore, hadmits, rfl⟩ | ⟨hne, -⟩
      · exact (hfound before hbefore).onTable hchanged hadmits
      · exact absurd rfl hne
    · intro hnone
      rw [hself] at hnone
      cases hnone
  · have hempty : rows' op.table = [] := by
      rw [hop] at hrows
      rw [← Option.some.inj hrows]
      exact Function.update_self ..
    refine hothers (fun name hne => ?_) ?_ fun _ => hempty
    · rw [Schema.lookup_append, if_neg (Ne.symm hne), Option.or_none]
    · intro table _ row hrow
      rw [hempty] at hrow
      cases hrow
  · have hempty : rows' op.table = [] := by
      rw [hop] at hrows
      rw [← Option.some.inj hrows]
      exact Function.update_self ..
    refine hothers (fun name hne => by rw [Schema.lookup_filter, if_neg hne]) ?_ fun _ => hempty
    intro table _ row hrow
    rw [hempty] at hrow
    cases hrow

/-- **The rows go on fitting the schema.** -/
theorem Fits.run (h : Fits S rows) (hschema : runSchema ops S = some S')
    (hrun : Migration.run eval ops rows = some rows') : Fits S' rows' := by
  induction ops generalizing S rows with
  | nil =>
      obtain rfl := Option.some.inj hschema
      obtain rfl := Option.some.inj hrun
      exact h
  | cons op ops ih =>
      obtain ⟨nextSchema, hnextSchema, hrestSchema⟩ := Option.bind_eq_some_iff.mp hschema
      obtain ⟨next, hnext, hrest⟩ := Option.bind_eq_some_iff.mp hrun
      exact ih (h.onRows hnextSchema hnext) hrestSchema hrest

theorem Table.defaults_absent (eval : L → V) (table : Table L) {column : String}
    (hcolumn : column ∉ table.columnNames) : table.defaults eval column = none := by
  have hnone : (table.columns.find? fun other => other.name = column) = none := by
    rw [List.find?_eq_none]
    intro other hother heq
    have hname : other.name = column := of_decide_eq_true heq
    exact hcolumn (hname ▸ List.mem_map_of_mem hother)
  rw [Table.defaults, hnone, Option.bind_none]

/-- A row that its table takes fits it. -/
theorem Table.FitsRow.of_takes {row : Row V} {values : List (String × Option V)}
    (habsent : ∀ column, column ∉ table.columnNames → row column = none)
    (htakes : table.takes row values = true) : table.FitsRow (assign row values) := by
  obtain ⟨hnames, hvalues⟩ := Bool.and_eq_true_iff.mp htakes
  constructor
  · intro column hcolumn
    have hlookup : values.lookup column = none := by
      rw [List.lookup_eq_none_iff]
      intro value hvalue
      have hknown := of_decide_eq_true (List.all_eq_true.mp hnames value hvalue)
      exact bne_iff_ne.mpr fun heq : column = value.1 => hcolumn (heq ▸ hknown)
    rw [assign, hlookup]
    exact habsent column hcolumn
  · intro column hcolumn hnotNull
    have hvalue := List.all_eq_true.mp hvalues column hcolumn
    rw [hnotNull] at hvalue
    exact hvalue

/-- The rows of one table exchanged for rows that fit it. -/
theorem Fits.update {name : String} {new : List (Row V)} (h : Fits S rows)
    (hlookup : S.lookup name = some table) (hnew : ∀ row ∈ new, table.FitsRow row) :
    Fits S (Function.update rows name new) := by
  constructor
  · intro other hother
    have hne : other ≠ name := by
      rintro rfl
      rw [hlookup] at hother
      cases hother
    rw [Function.update_of_ne hne]
    exact h.unknown other hother
  · intro other table' hother row hrow
    by_cases hname : other = name
    · obtain rfl := hname
      obtain rfl := Option.some.inj (hlookup.symm.trans hother)
      rw [Function.update_self] at hrow
      exact hnew row hrow
    · rw [Function.update_of_ne hname] at hrow
      exact h.known other table' hother row hrow

/-- **One statement**: the rows go on fitting the schema. -/
theorem Fits.exec {statement : Statement V} (h : Fits S rows)
    (hexec : statement.exec eval S rows = some rows') : Fits S rows' := by
  cases statement with
  | insert name values =>
      obtain ⟨table, hlookup, hinsert⟩ := Option.bind_eq_some_iff.mp hexec
      split_ifs at hinsert with htakes
      obtain rfl := Option.some.inj hinsert
      refine h.update hlookup fun row hrow => ?_
      rcases List.mem_append.mp hrow with hold | hnew
      · exact h.known name table hlookup row hold
      · obtain rfl := List.mem_singleton.mp hnew
        exact .of_takes (fun _ => table.defaults_absent eval) htakes
  | update name change which =>
      obtain ⟨table, hlookup, hupdate⟩ := Option.bind_eq_some_iff.mp hexec
      split_ifs at hupdate with htakes
      obtain rfl := Option.some.inj hupdate
      refine h.update hlookup fun row hrow => ?_
      obtain ⟨before, hbefore, rfl⟩ := List.mem_map.mp hrow
      have hfits := h.known name table hlookup before hbefore
      split_ifs with hwhich
      · have hrowTakes := List.all_eq_true.mp htakes before hbefore
        rw [hwhich] at hrowTakes
        exact .of_takes hfits.absent hrowTakes
      · exact hfits
  | delete name which =>
      obtain ⟨table, hlookup, rfl⟩ := Option.map_eq_some_iff.mp hexec
      refine h.update hlookup fun row hrow => ?_
      exact h.known name table hlookup row (List.mem_of_mem_filter hrow)

/-! ### Schemas that take the same rows -/

/-- What matters of a column to a row. -/
def Column.kind (column : Column L) : String × Bool := (column.name, column.notNull)

/-- Tables of one name with the same columns in any order. -/
def Table.Alike (table other : Table L) : Prop :=
  table.name = other.name ∧ (table.columns.map Column.kind).Perm (other.columns.map Column.kind)

instance (table other : Table L) : Decidable (table.Alike other) :=
  inferInstanceAs (Decidable (_ ∧ _))

theorem Table.Alike.mem {other : Table L} (h : table.Alike other) {name : String} {notNull : Bool} :
    (∃ column ∈ other.columns, column.name = name ∧ column.notNull = notNull) ↔
      ∃ column ∈ table.columns, column.name = name ∧ column.notNull = notNull := by
  have hmem := h.2.mem_iff (a := (name, notNull))
  simpa [Column.kind] using hmem.symm

theorem Table.FitsRow.alike {other : Table L} {row : Row V} (hrow : table.FitsRow row)
    (h : table.Alike other) : other.FitsRow row := by
  constructor
  · intro column hcolumn
    refine hrow.absent column fun hin => hcolumn ?_
    obtain ⟨known, hknown, rfl⟩ := List.mem_map.mp hin
    obtain ⟨same, hsame, hname, -⟩ := h.mem.mpr ⟨known, hknown, rfl, rfl⟩
    exact hname ▸ List.mem_map_of_mem hsame
  · intro column hcolumn hnotNull
    obtain ⟨same, hsame, hname, hnotNull'⟩ := h.mem.mp ⟨column, hcolumn, rfl, rfl⟩
    exact hname ▸ hrow.notNull same hsame (hnotNull'.trans hnotNull)

/-- Rows that fit a schema fit another of the same tables. -/
theorem Fits.alike {T : Schema L} (h : Fits S rows) (halike : List.Forall₂ Table.Alike S T) :
    Fits T rows := by
  have hlookup : ∀ name, Option.Rel Table.Alike (S.lookup name) (T.lookup name) := by
    intro name
    clear h
    induction halike with
    | nil => exact .none
    | cons hhead _ ih =>
        rw [Schema.lookup, Schema.lookup, List.find?_cons, List.find?_cons, hhead.1]
        split
        · exact .some hhead
        · exact ih
  constructor
  · intro name hnone
    have hrel := hlookup name
    rw [hnone] at hrel
    cases hS : S.lookup name with
    | none => exact h.unknown name hS
    | some table =>
        rw [hS] at hrel
        cases hrel
  · intro name table hsome row hrow
    have hrel := hlookup name
    rw [hsome] at hrel
    cases hS : S.lookup name with
    | none =>
        rw [hS] at hrel
        cases hrel
    | some other =>
        rw [hS] at hrel
        cases hrel with
        | some halike' => exact (h.known name other hS row hrow).alike halike'

end

/-! ## Going back -/

namespace Op

/-- The operation that takes it back. -/
def inverse : Op L → Option (Op L)
  | createTable table _ _ => some (dropTable table)
  | createIndex index table _ => some (dropIndex index table)
  | addColumn table column => some (dropColumn table column.name)
  | renameColumn table old new => some (renameColumn table new old)
  | setNotNull table column => some (dropNotNull table column)
  | _ => none

/-- Whether no value is lost. -/
def undoable : Op L → Bool
  | createTable _ _ _ | createIndex _ _ _ | addColumn _ _ | renameColumn _ _ _ | setNotNull _ _
  | fillNull _ _ _ => true
  | _ => false

/-- What taking it back makes of a row. -/
def undoRow (eval : L → V) (op : Op L) : Row V → Row V := op.inverse.elim id (onRow eval)

end Op

/-- The inverses in reverse order. -/
def undo (ops : List (Op L)) : List (Op L) := (ops.filterMap Op.inverse).reverse

theorem undo_cons (op : Op L) (ops : List (Op L)) :
    undo (op :: ops) = undo ops ++ op.inverse.toList := by
  rw [undo, undo, List.filterMap_cons]
  cases op.inverse <;> simp

/-- The values that may stand where a `NULL` was: a table, a column, a value. -/
abbrev Fills (V : Type v) := String → String → V → Prop

/-- What was filled, in the names before an operation. -/
def Op.pull (eval : L → V) : Op L → Fills V → Fills V
  | .createTable table _ _, F => fun name column value => name ≠ table ∧ F name column value
  | .addColumn table added, F => fun name column value =>
      ¬(name = table ∧ column = added.name) ∧ F name column value
  | .renameColumn table old new, F => fun name column value =>
      F name column value ∨ name = table ∧ column = old ∧ F table new value
  | .fillNull table filled value, F => fun name column other =>
      name = table ∧ column = filled ∧ other = eval value ∨ F name column other
  | _, F => F

/-- What a list of operations fills, and what is filled after it. -/
def filledBy (eval : L → V) (ops : List (Op L)) (F : Fills V) : Fills V :=
  ops.foldr (Op.pull eval) F

/-- Whether an operation leaves it at what is filled after it. -/
def Op.fillsNothing : Op L → Bool
  | .renameColumn _ _ _ | .fillNull _ _ _ => false
  | _ => true

theorem filledBy_of_fillsNothing {eval : L → V} {ops : List (Op L)} {F : Fills V}
    (h : ops.all Op.fillsNothing = true) {name column : String} {value : V}
    (hfilled : filledBy eval ops F name column value) : F name column value := by
  induction ops with
  | nil => exact hfilled
  | cons op ops ih =>
      obtain ⟨hop, hops⟩ := Bool.and_eq_true_iff.mp h
      refine ih hops ?_
      cases op with
      | createTable => exact hfilled.2
      | addColumn => exact hfilled.2
      | renameColumn => cases hop
      | fillNull => cases hop
      | _ => exact hfilled

/-- A row that has some of the `NULL`s of another filled. -/
def RefilledRow (F : String → V → Prop) (row row' : Row V) : Prop :=
  ∀ column, row' column = row column ∨
    row column = none ∧ ∃ value, F column value ∧ row' column = some value

/-- The same rows up to what was filled. -/
def Refilled (F : Fills V) (rows rows' : Rows V) : Prop :=
  ∀ name, List.Forall₂ (RefilledRow (F name)) (rows name) (rows' name)

section

variable {S S' : Schema L} {rows rows' mid mid' : Rows V} {op : Op L} {ops : List (Op L)}
  {table changed : Table L} {eval eval' : L → V} {F : Fills V}

theorem RefilledRow.refl (F : String → V → Prop) (row : Row V) : RefilledRow F row row :=
  fun _ => Or.inl rfl

theorem RefilledRow.mono {F G : String → V → Prop} {row row' : Row V} (h : RefilledRow F row row')
    (hle : ∀ column value, F column value → G column value) : RefilledRow G row row' := by
  intro column
  rcases h column with hsame | ⟨hnone, value, hfilled, hsome⟩
  · exact Or.inl hsame
  · exact Or.inr ⟨hnone, value, hle column value hfilled, hsome⟩

/-- An operation on columns or indexes changes the rows of its table one by one. -/
theorem Op.onRows_of_onTable {rows rows' : Rows V} (hchanged : op.onTable table = some changed)
    (hrows : op.onRows eval rows = some rows') :
    rows' = Function.update rows op.table ((rows op.table).map (op.onRow eval)) := by
  have hdone : op.mapRows eval rows = some rows' →
      rows' = Function.update rows op.table ((rows op.table).map (op.onRow eval)) := by
    intro h
    rw [Op.mapRows] at h
    split_ifs at h
    exact (Option.some.inj h).symm
  cases op with
  | createTable => cases hchanged
  | dropTable => cases hchanged
  | _ => exact hdone hrows

/-- Taking an operation back brings back a row of its table, up to what was filled. -/
theorem RefilledRow.undo {row row' : Row V} (hrow : table.FitsRow row)
    (hchanged : op.onTable table = some changed) (hundoable : op.undoable = true)
    (h : RefilledRow (F op.table) (op.onRow eval row) row') :
    RefilledRow (op.pull eval F op.table) row (op.undoRow eval' row') := by
  intro column
  have hcolumn := h column
  cases op with
  | createTable => cases hchanged
  | createIndex => exact hcolumn
  | setNotNull => exact hcolumn
  | addColumn name added =>
      rw [Op.onTable] at hchanged
      split_ifs at hchanged with hfresh
      by_cases hsame : column = added.name
      · left
        show Function.update row' added.name none column = row column
        rw [hsame, Function.update_self, hrow.absent _ hfresh]
      · rw [Op.onRow, Function.update_of_ne hsame] at hcolumn
        show Function.update row' added.name none column = row column ∨ row column = none ∧
          ∃ value, (¬(name = name ∧ column = added.name) ∧ F name column value) ∧
            Function.update row' added.name none column = some value
        rw [Function.update_of_ne hsame]
        rcases hcolumn with heq | ⟨hnone, value, hfilled, hsome⟩
        · exact Or.inl heq
        · exact Or.inr ⟨hnone, value, ⟨fun hand => hsame hand.2, hfilled⟩, hsome⟩
  | renameColumn name old new =>
      rw [Op.onTable] at hchanged
      split_ifs at hchanged with hnames
      have hne : new ≠ old := fun heq => hnames.2 (heq ▸ hnames.1)
      show Function.update (Function.update row' old (row' new)) new none column = row column ∨
        row column = none ∧ ∃ value, (F name column value ∨
          name = name ∧ column = old ∧ F name new value) ∧
            Function.update (Function.update row' old (row' new)) new none column = some value
      by_cases hnew : column = new
      · left
        rw [hnew, Function.update_self, hrow.absent new hnames.2]
      · rw [Function.update_of_ne hnew]
        by_cases hold : column = old
        · have hmoved := h new
          rw [Op.onRow, Function.update_of_ne hne, Function.update_self] at hmoved
          rw [hold, Function.update_self]
          rcases hmoved with heq | ⟨hnone, value, hfilled, hsome⟩
          · exact Or.inl heq
          · exact Or.inr ⟨hnone, value, Or.inr ⟨rfl, rfl, hfilled⟩, hsome⟩
        · rw [Op.onRow, Function.update_of_ne hold, Function.update_of_ne hnew] at hcolumn
          rw [Function.update_of_ne hold]
          rcases hcolumn with heq | ⟨hnone, value, hfilled, hsome⟩
          · exact Or.inl heq
          · exact Or.inr ⟨hnone, value, Or.inl hfilled, hsome⟩
  | fillNull name filled value =>
      show row' column = row column ∨ row column = none ∧ ∃ other,
        (name = name ∧ column = filled ∧ other = eval value ∨ F name column other) ∧
          row' column = some other
      by_cases hsame : column = filled
      · rw [Op.onRow, hsame, Function.update_self] at hcolumn
        rw [hsame]
        cases hold : row filled with
        | none =>
            rw [hold] at hcolumn
            rcases hcolumn with heq | ⟨hnone, -⟩
            · exact Or.inr ⟨rfl, eval value, Or.inl ⟨rfl, rfl, rfl⟩, heq⟩
            · cases hnone
        | some known =>
            rw [hold] at hcolumn
            rcases hcolumn with heq | ⟨hnone, -⟩
            · exact Or.inl heq
            · cases hnone
      · rw [Op.onRow, Function.update_of_ne hsame] at hcolumn
        rcases hcolumn with heq | ⟨hnone, other, hfilled, hsome⟩
        · exact Or.inl heq
        · exact Or.inr ⟨hnone, other, Or.inr hfilled, hsome⟩
  | _ => cases hundoable

theorem Op.pull_of_ne {name : String} (hname : name ≠ op.table) {column : String} {value : V}
    (h : F name column value) : op.pull eval F name column value := by
  cases op with
  | createTable => exact ⟨hname, h⟩
  | addColumn => exact ⟨fun hand => hname hand.1, h⟩
  | renameColumn => exact Or.inl h
  | fillNull => exact Or.inr h
  | _ => exact h

/-- The inverse of a change of one table goes through on all rows. -/
theorem run_inverse (hchanged : op.onTable table = some changed) (hundoable : op.undoable = true)
    (mid : Rows V) :
    run eval' op.inverse.toList mid =
      some (Function.update mid op.table ((mid op.table).map (op.undoRow eval'))) := by
  have hdone : ∀ inverse : Op L, inverse.table = op.table →
      inverse.onRow eval' = op.undoRow eval' →
      inverse.onRows eval' mid = inverse.mapRows eval' mid →
      (∀ row : Row V, inverse.admits row = true) → run eval' [inverse] mid =
        some (Function.update mid op.table ((mid op.table).map (op.undoRow eval'))) := by
    intro inverse htable honRow honRows hadmits
    have hall : (mid inverse.table).all inverse.admits = true :=
      List.all_eq_true.mpr fun row _ => hadmits row
    rw [run, honRows, Op.mapRows, if_pos hall, htable, honRow]
    rfl
  cases op with
  | createTable => cases hchanged
  | createIndex => exact hdone _ rfl rfl rfl fun _ => rfl
  | addColumn => exact hdone _ rfl rfl rfl fun _ => rfl
  | renameColumn => exact hdone _ rfl rfl rfl fun _ => rfl
  | setNotNull => exact hdone _ rfl rfl rfl fun _ => rfl
  | fillNull name =>
      show some mid = some (Function.update mid name ((mid name).map id))
      rw [List.map_id, Function.update_eq_self]
  | _ => cases hundoable

/-- **One operation taken back**, on rows that have more `NULL`s filled than it made. -/
theorem undo_onRows (hfits : Fits S rows) (hschema : op.onSchema S = some S')
    (hundoable : op.undoable = true) (hrows : op.onRows eval rows = some mid)
    (hrefilled : Refilled F mid mid') :
    ∃ back, run eval' op.inverse.toList mid' = some back ∧ Refilled (op.pull eval F) rows back := by
  -- The rows of the other tables are as they were.
  have hothers : ∀ name, name ≠ op.table → mid name = rows name →
      List.Forall₂ (RefilledRow (op.pull eval F name)) (rows name) (mid' name) := by
    intro name hname hsame
    have h := hrefilled name
    rw [hsame] at h
    exact h.imp fun _ _ hrow => hrow.mono fun _ _ => Op.pull_of_ne hname
  rcases Op.onSchema_cases hschema with
    ⟨table, changed, hlookup, hchanged, -⟩ | ⟨columns, foreignKeys, hop, hfresh, -⟩ | ⟨hop, -⟩
  · have hmid : mid = Function.update rows op.table ((rows op.table).map (op.onRow eval)) :=
      Op.onRows_of_onTable hchanged hrows
    refine ⟨_, run_inverse hchanged hundoable mid', fun name => ?_⟩
    by_cases hname : name = op.table
    · have h := hrefilled op.table
      rw [hmid, Function.update_self, List.forall₂_map_left_iff] at h
      rw [hname, Function.update_self, List.forall₂_map_right_iff]
      have hfitting := (List.forall₂_and_left _ _).mpr ⟨hfits.known op.table table hlookup, h⟩
      exact hfitting.imp fun row row' hboth => RefilledRow.undo hboth.1 hchanged hundoable hboth.2
    · rw [Function.update_of_ne hname]
      exact hothers name hname (by rw [hmid, Function.update_of_ne hname])
  · have hmid : mid = Function.update rows op.table [] := by
      rw [hop] at hrows
      exact (Option.some.inj hrows).symm
    refine ⟨Function.update mid' op.table [], by rw [hop]; rfl, fun name => ?_⟩
    by_cases hname : name = op.table
    · rw [hname, Function.update_self, hfits.unknown op.table hfresh]
      exact List.Forall₂.nil
    · rw [Function.update_of_ne hname]
      exact hothers name hname (by rw [hmid, Function.update_of_ne hname])
  · rw [hop] at hundoable
    cases hundoable

/-- The same rows are the same rows up to nothing filled. -/
theorem Refilled.refl (F : Fills V) (rows : Rows V) : Refilled F rows rows :=
  fun name => List.forall₂_same.mpr fun row _ => RefilledRow.refl (F name) row

/-- **A migration taken back**: the inverses in reverse order go through on the rows that it left,
also when more of their `NULL`s were filled, and bring back the rows it was run on, up to what was
filled. -/
theorem undo_run (hfits : Fits S rows) (hschema : runSchema ops S = some S')
    (hundoable : ops.all Op.undoable = true) (hrun : run eval ops rows = some rows')
    (hrefilled : Refilled F rows' mid') :
    ∃ back, run eval' (undo ops) mid' = some back ∧ Refilled (filledBy eval ops F) rows back := by
  induction ops generalizing S rows with
  | nil =>
      obtain rfl := Option.some.inj hrun
      exact ⟨mid', rfl, hrefilled⟩
  | cons op ops ih =>
      obtain ⟨nextSchema, hnextSchema, hrestSchema⟩ := Option.bind_eq_some_iff.mp hschema
      obtain ⟨next, hnext, hrest⟩ := Option.bind_eq_some_iff.mp hrun
      obtain ⟨hop, hops⟩ := Bool.and_eq_true_iff.mp hundoable
      obtain ⟨middle, hmiddle, hmiddleRows⟩ :=
        ih (hfits.onRows hnextSchema hnext) hrestSchema hops hrest
      obtain ⟨back, hback, hrows⟩ := undo_onRows hfits hnextSchema hop hnext hmiddleRows
      refine ⟨back, ?_, hrows⟩
      rw [undo_cons, run_append, hmiddle]
      exact hback

end

end Migration

end Foundations
