import Mathlib.Data.List.Nodup

/-!
The database migration `a1b2c3d4e5f6`, "add inspection rule owner and public". `upgrade` adds
the nullable `owner` column and an index on it, adds `public`, sets it to false in the rows
where it is NULL, and then makes it NOT NULL with a server default of false. Each
`alembic.op` call is the change the database makes for the statement it emits, with the
checks the database makes, on SQLite, PostgreSQL or MySQL. The `default=False` of `sa.Column`
is applied by SQLAlchemy to the rows it inserts itself, never by the database, so it plays no
part in the migration.
-/

namespace Ironic

/-- A value in a column. -/
inductive SqlValue where
  | null
  | bool (b : Bool)
  | text (s : String)
  | int (n : Int)
  deriving DecidableEq, Repr

/-- A column as the database knows it: its name, whether it may hold NULL, and the value the
server fills in when a statement gives none. -/
structure Column where
  name : String
  nullable : Bool
  serverDefault : Option SqlValue
  deriving DecidableEq, Repr

/-- An index: its name, its columns, and whether it is unique. -/
structure Index where
  name : String
  columns : List String
  unique : Bool
  deriving DecidableEq, Repr

/-- A row: its value in each column, by column name. -/
abbrev Row := List (String × SqlValue)

/-- A table: its columns in order, its indexes, and its rows. -/
structure Table where
  columns : List Column
  indexes : List Index
  rows : List Row
  deriving DecidableEq, Repr

/-- The tables of the schema, by name: the database keeps one table per name. -/
structure Database where
  tables : List (String × Table)
  distinct : (tables.map Prod.fst).Nodup

/-- The database systems the migration runs on. -/
inductive Dialect where
  | sqlite
  | postgresql
  | mysql
  deriving DecidableEq, Repr

/-- Why the database refuses a statement. -/
inductive DdlError where
  | noSuchTable (table : String)
  | noSuchColumn (table column : String)
  | duplicateColumn (table column : String)
  | duplicateIndex (name : String)
  | notNullViolation (table column : String)
  | syntaxError (near : String)
  deriving DecidableEq, Repr

def Database.lookup (db : Database) (name : String) : Option Table := db.tables.lookup name

/-- The entry of the table `name` with `table` in its place. -/
def replaceTable (name : String) (table : Table) (entry : String × Table) : String × Table :=
  if entry.1 = name then (name, table) else entry

theorem map_fst_replaceTable (name : String) (table : Table) (tables : List (String × Table)) :
    (tables.map (replaceTable name table)).map Prod.fst = tables.map Prod.fst := by
  rw [List.map_map]
  refine List.map_congr_left fun entry _ => ?_
  by_cases named : entry.1 = name <;> simp [replaceTable, named]

theorem replaceTable_self (name : String) (table old : Table) :
    replaceTable name table (name, old) = (name, table) := by
  simp [replaceTable]

theorem replaceTable_of_ne {name key : String} (differs : key ≠ name) (table old : Table) :
    replaceTable name table (key, old) = (key, old) := by
  simp [replaceTable, differs]

def Database.setTable (db : Database) (name : String) (table : Table) : Database where
  tables := db.tables.map (replaceTable name table)
  distinct := by rw [map_fst_replaceTable]; exact db.distinct

/-- Whether the table has a column of this name. -/
def Table.hasColumn (table : Table) (name : String) : Bool :=
  table.columns.any fun column => column.name == name

/-- What a row holds in a column; a row without the column holds NULL there. -/
def cell (row : Row) (column : String) : SqlValue := (row.lookup column).getD .null

/-- A statement on the table `name`, which the database refuses when there is no such table. -/
def alterTable (name : String) (change : Table → Except DdlError Table) (db : Database) :
    Except DdlError Database :=
  match db.lookup name with
  | none => .error (.noSuchTable name)
  | some table => db.setTable name <$> change table

/-! ## The operations of `alembic.op` -/

/-- `op.add_column(table, column)`, `ALTER TABLE ... ADD COLUMN`: every row gets the column's
server default, or NULL when it has none. The database refuses a name the table already has,
and a NOT NULL column without a default while the table has rows. -/
def addColumn (tableName : String) (column : Column) : Database → Except DdlError Database :=
  alterTable tableName fun table =>
    if table.hasColumn column.name then .error (.duplicateColumn tableName column.name)
    else if !column.nullable && column.serverDefault.isNone && !table.rows.isEmpty then
      .error (.notNullViolation tableName column.name)
    else .ok { table with
      columns := table.columns ++ [column]
      rows := table.rows.map fun row => row ++ [(column.name, column.serverDefault.getD .null)] }

/-- Whether a new index on `tableName` may not be called `name`: MySQL keeps the index names of
each table apart, while SQLite and PostgreSQL give the tables and indexes of a schema one
namespace. -/
def indexNameTaken (dialect : Dialect) (db : Database) (tableName name : String) : Bool :=
  match dialect with
  | .mysql => (db.lookup tableName).any fun table =>
      table.indexes.any fun index => index.name == name
  | .sqlite | .postgresql => db.tables.any fun entry =>
      entry.1 == name || entry.2.indexes.any fun index => index.name == name

/-- `op.create_index(name, table, columns, unique)`, `CREATE INDEX`: the database refuses a name
`indexNameTaken` finds and a column the table does not have. -/
def createIndex (dialect : Dialect) (indexName tableName : String) (columns : List String)
    (unique : Bool) (db : Database) : Except DdlError Database :=
  alterTable tableName (fun table =>
    if indexNameTaken dialect db tableName indexName then .error (.duplicateIndex indexName)
    else match columns.find? fun column => !table.hasColumn column with
      | some missing => .error (.noSuchColumn tableName missing)
      | none => .ok { table with indexes := table.indexes ++ [⟨indexName, columns, unique⟩] }) db

/-- `SET column = value WHERE column IS NULL`, on one entry of a row. -/
def fillNull (column : String) (value : SqlValue) (entry : String × SqlValue) : String × SqlValue :=
  if entry.1 = column ∧ entry.2 = .null then (column, value) else entry

/-- `op.execute("UPDATE table SET column = value WHERE column IS NULL")`. -/
def setWhereNull (tableName column : String) (value : SqlValue) :
    Database → Except DdlError Database :=
  alterTable tableName fun table =>
    if table.hasColumn column then
      .ok { table with rows := table.rows.map fun row => row.map (fillNull column value) }
    else .error (.noSuchColumn tableName column)

/-- `op.alter_column(table, column, nullable, server_default)` outside batch mode emits
`ALTER TABLE ... ALTER COLUMN`, which SQLite does not parse; elsewhere the database refuses NOT
NULL while a row holds NULL in the column. -/
def alterColumn (dialect : Dialect) (tableName column : String) (nullable : Bool)
    (serverDefault : Option SqlValue) (db : Database) : Except DdlError Database :=
  if dialect = .sqlite then .error (.syntaxError "ALTER")
  else alterTable tableName (fun table =>
    if !table.hasColumn column then .error (.noSuchColumn tableName column)
    else if !nullable && table.rows.any fun row => cell row column == .null then
      .error (.notNullViolation tableName column)
    else .ok { table with columns := table.columns.map fun known =>
      if known.name = column then
        { known with nullable := nullable, serverDefault := serverDefault }
      else known }) db

/-- `upgrade()`. -/
def upgrade (dialect : Dialect) (db : Database) : Except DdlError Database := do
  let db ← addColumn "inspection_rules" ⟨"owner", true, none⟩ db
  let db ← createIndex dialect "inspection_rule_owner_idx" "inspection_rules" ["owner"] false db
  let db ← addColumn "inspection_rules" ⟨"public", true, none⟩ db
  let db ← setWhereNull "inspection_rules" "public" (.bool false) db
  alterColumn dialect "inspection_rules" "public" false (some (.bool false)) db

/-! ## What `upgrade` does -/

/-- What the database keeps true of every table: each row holds exactly the table's columns,
in order, and no NULL in a NOT NULL column. -/
def Table.Conforms (table : Table) : Prop :=
  ∀ row ∈ table.rows, row.map Prod.fst = table.columns.map Column.name ∧
    ∀ column ∈ table.columns, column.nullable = false → cell row column.name ≠ .null

instance (table : Table) : Decidable table.Conforms :=
  inferInstanceAs (Decidable (∀ row ∈ table.rows, _ ∧ _))

/-- The table `upgrade` makes of `table`: the two columns and the index added at the end, and
each row with `owner` NULL and `public` false. -/
def Table.upgraded (table : Table) : Table where
  columns := table.columns ++ [⟨"owner", true, none⟩, ⟨"public", false, some (.bool false)⟩]
  indexes := table.indexes ++ [⟨"inspection_rule_owner_idx", ["owner"], false⟩]
  rows := table.rows.map fun row => row ++ [("owner", .null), ("public", .bool false)]

section Tables

variable {db : Database} {name : String} {table table' : Table}

@[ext] theorem Database.ext {db db' : Database} (same : db.tables = db'.tables) : db = db' := by
  cases db
  cases db'
  cases same
  rfl

theorem lookup_of_mem {tables : List (String × Table)} (distinct : (tables.map Prod.fst).Nodup)
    {entry : String × Table} (member : entry ∈ tables) : tables.lookup entry.1 = some entry.2 := by
  induction tables with
  | nil => cases member
  | cons first rest ih =>
      obtain ⟨fresh, distinct⟩ := List.nodup_cons.mp distinct
      rcases List.mem_cons.mp member with rfl | member
      · exact List.lookup_cons_self
      · have differs : entry.1 ≠ first.1 := fun same =>
          fresh (same ▸ List.mem_map_of_mem Prod.fst member)
        rw [List.lookup_cons, beq_eq_false_iff_ne.mpr differs]
        exact ih distinct member

theorem lookup_setTable_self (found : db.lookup name = some table) :
    (db.setTable name table').lookup name = some table' := by
  obtain ⟨tables, distinct⟩ := db
  simp only [Database.lookup, Database.setTable] at found ⊢
  clear distinct
  induction tables with
  | nil => cases found
  | cons first rest ih =>
      obtain ⟨key, entry⟩ := first
      by_cases named : key = name
      · subst named
        rw [List.map_cons, replaceTable_self]
        exact List.lookup_cons_self
      · rw [List.map_cons, replaceTable_of_ne named, List.lookup_cons,
          beq_eq_false_iff_ne.mpr (Ne.symm named)]
        rw [List.lookup_cons, beq_eq_false_iff_ne.mpr (Ne.symm named)] at found
        exact ih found

theorem setTable_setTable :
    (db.setTable name table).setTable name table' = db.setTable name table' := by
  ext1
  simp only [Database.setTable, List.map_map]
  refine List.map_congr_left fun entry _ => ?_
  by_cases named : entry.1 = name <;> simp [replaceTable, named]

theorem any_setTable (found : db.lookup name = some table) {p : String × Table → Bool}
    (same : p (name, table') = p (name, table)) :
    (db.setTable name table').tables.any p = db.tables.any p := by
  have kept : ∀ entry ∈ db.tables, p (replaceTable name table' entry) = p entry := by
    intro entry member
    by_cases named : entry.1 = name
    · have listed := lookup_of_mem db.distinct member
      rw [named] at listed
      have entry_eq : entry = (name, table) :=
        Prod.ext named (Option.some.inj (listed.symm.trans found))
      rw [entry_eq, replaceTable, if_pos rfl, same]
    · rw [replaceTable, if_neg named]
  simp only [Database.setTable, List.any_map]
  refine Bool.eq_iff_iff.mpr ?_
  simp only [List.any_eq_true, Function.comp_apply]
  exact exists_congr fun entry => and_congr_right fun member => by rw [kept entry member]

end Tables

section Upgrade

variable {dialect : Dialect} {db : Database} {name : String} {table : Table}

@[simp] theorem ddl_ok_bind {α β : Type} (a : α) (f : α → Except DdlError β) :
    (Except.ok a >>= f) = f a := rfl

@[simp] theorem ddl_error_bind {α β : Type} (e : DdlError) (f : α → Except DdlError β) :
    (Except.error e >>= f) = .error e := rfl

theorem indexNameTaken_setTable (found : db.lookup name = some table) {table' : Table}
    (same : table'.indexes = table.indexes) (indexName : String) :
    indexNameTaken dialect (db.setTable name table') name indexName =
      indexNameTaken dialect db name indexName := by
  cases dialect
  case mysql => simp [indexNameTaken, lookup_setTable_self found, found, same]
  all_goals exact any_setTable found (by simp [same])

theorem alterTable_ok (found : db.lookup name = some table) {change : Table → Except DdlError Table}
    {table' : Table} (changed : change table = .ok table') :
    alterTable name change db = .ok (db.setTable name table') := by
  simp only [alterTable, found, changed]
  rfl

theorem alterTable_error (found : db.lookup name = some table)
    {change : Table → Except DdlError Table} {e : DdlError} (refused : change table = .error e) :
    alterTable name change db = .error e := by
  simp only [alterTable, found, refused]
  rfl

theorem map_fillNull_of_absent {column : String} {value : SqlValue} {row : Row}
    (absent : column ∉ row.map Prod.fst) : row.map (fillNull column value) = row := by
  refine (List.map_congr_left fun entry member => ?_).trans (List.map_id row)
  have differs : entry.1 ≠ column := fun same => absent (List.mem_map.2 ⟨entry, member, same⟩)
  simp [fillNull, differs]

theorem cell_append_of_absent {row rest : Row} {column : String}
    (absent : column ∉ row.map Prod.fst) : cell (row ++ rest) column = cell rest column := by
  have missing : row.lookup column = none := by
    simp only [List.lookup_eq_none_iff, bne_iff_ne, ne_eq]
    exact fun entry member same => absent (List.mem_map.2 ⟨entry, member, same.symm⟩)
  simp [cell, List.lookup_append, missing]

theorem Table.Conforms.absent (conforms : table.Conforms) {column : String}
    (missing : table.hasColumn column = false) : ∀ row ∈ table.rows, column ∉ row.map Prod.fst := by
  intro row member
  rw [(conforms row member).1]
  simpa [Table.hasColumn] using missing

theorem addColumn_ok (found : db.lookup name = some table) (column : Column)
    (fresh : table.hasColumn column.name = false) (nullable : column.nullable = true) :
    addColumn name column db = .ok (db.setTable name { table with
      columns := table.columns ++ [column]
      rows := table.rows.map fun row =>
        row ++ [(column.name, column.serverDefault.getD .null)] }) :=
  alterTable_ok found (by simp only [fresh, nullable, Bool.false_eq_true, if_false, Bool.not_true,
    Bool.false_and])

/-- `ADD COLUMN` leaves the indexes as they were, and so which index names are taken. -/
theorem indexNameTaken_addColumn (found : db.lookup name = some table) (column : Column)
    (indexName : String) :
    indexNameTaken dialect (db.setTable name { table with
      columns := table.columns ++ [column]
      rows := table.rows.map fun row =>
        row ++ [(column.name, column.serverDefault.getD .null)] }) name indexName =
      indexNameTaken dialect db name indexName := by
  refine indexNameTaken_setTable found ?_ indexName
  rfl

theorem addColumn_duplicate (found : db.lookup name = some table) (column : Column)
    (taken : table.hasColumn column.name = true) :
    addColumn name column db = .error (.duplicateColumn name column.name) :=
  alterTable_error found (by simp only [taken, if_true])

theorem createIndex_ok (found : db.lookup name = some table) {indexName : String}
    {columns : List String} {unique : Bool}
    (free : indexNameTaken dialect db name indexName = false)
    (present : ∀ column ∈ columns, table.hasColumn column = true) :
    createIndex dialect indexName name columns unique db = .ok (db.setTable name
      { table with indexes := table.indexes ++ [⟨indexName, columns, unique⟩] }) := by
  have none_missing : columns.find? (fun column => !table.hasColumn column) = none := by
    simpa [List.find?_eq_none] using present
  exact alterTable_ok found (by simp only [free, none_missing, Bool.false_eq_true, if_false])

theorem createIndex_duplicate (found : db.lookup name = some table) {indexName : String}
    {columns : List String} {unique : Bool}
    (taken : indexNameTaken dialect db name indexName = true) :
    createIndex dialect indexName name columns unique db = .error (.duplicateIndex indexName) :=
  alterTable_error found (by simp only [taken, if_true])

theorem setWhereNull_ok (found : db.lookup name = some table) {column : String} {value : SqlValue}
    (present : table.hasColumn column = true) :
    setWhereNull name column value db = .ok (db.setTable name
      { table with rows := table.rows.map fun row => row.map (fillNull column value) }) :=
  alterTable_ok found (by simp only [present, if_true])

theorem alterColumn_notNull (supported : dialect ≠ .sqlite) (found : db.lookup name = some table)
    {column : String} {serverDefault : Option SqlValue} (present : table.hasColumn column = true)
    (filled : ∀ row ∈ table.rows, cell row column ≠ .null) :
    alterColumn dialect name column false serverDefault db = .ok (db.setTable name
      { table with columns := table.columns.map fun known =>
          if known.name = column then
            { known with nullable := false, serverDefault := serverDefault }
          else known }) := by
  have none_null : (table.rows.any fun row => cell row column == .null) = false := by
    simpa using filled
  rw [alterColumn, if_neg supported]
  exact alterTable_ok found (by simp only [present, none_null, Bool.not_true, Bool.false_eq_true,
    Bool.not_false, Bool.true_and, if_false])

theorem upgrade_fresh (found : db.lookup "inspection_rules" = some table)
    (conforms : table.Conforms)
    (noOwner : table.hasColumn "owner" = false)
    (noIndex : indexNameTaken dialect db "inspection_rules" "inspection_rule_owner_idx" = false)
    (noPublic : table.hasColumn "public" = false) :
    upgrade dialect db = if dialect = .sqlite then .error (.syntaxError "ALTER")
      else .ok (db.setTable "inspection_rules" table.upgraded) := by
  have kept := fun {table' : Table} =>
    @lookup_setTable_self db "inspection_rules" table table' found
  have filled : ∀ row ∈ table.rows,
      (row ++ [("owner", SqlValue.null)] ++ [("public", SqlValue.null)]).map
        (fillNull "public" (.bool false)) = row ++ [("owner", .null), ("public", .bool false)] := by
    intro row member
    rw [List.map_append, List.map_append,
      map_fillNull_of_absent (conforms.absent noPublic row member)]
    simp [fillNull]
  have other : ∀ known ∈ table.columns, known.name ≠ "public" := by
    simpa [Table.hasColumn] using noPublic
  rw [upgrade, addColumn_ok found _ noOwner rfl, ddl_ok_bind, createIndex_ok kept, ddl_ok_bind,
    setTable_setTable, addColumn_ok kept ⟨"public", true, none⟩, ddl_ok_bind, setTable_setTable,
    setWhereNull_ok kept, ddl_ok_bind, setTable_setTable]
  · by_cases sqlite : dialect = .sqlite
    · rw [if_pos sqlite, alterColumn, if_pos sqlite]
    rw [if_neg sqlite, alterColumn_notNull sqlite kept, setTable_setTable]
    · simp only [Table.upgraded, List.map_map]
      refine congrArg (fun result : Table =>
        (.ok (db.setTable "inspection_rules" result) : Except DdlError Database)) ?_
      congr 1
      · rw [List.map_append, List.map_append,
          List.map_congr_left fun known member => if_neg (other known member), List.map_id']
        simp
      · exact List.map_congr_left fun row member => filled row member
    · simp [Table.hasColumn]
    -- no row holds NULL in `public` once it is filled
    · intro row member
      simp only [List.map_map, List.mem_map, Function.comp, Option.getD_none] at member
      obtain ⟨row, member, rfl⟩ := member
      rw [filled row member, cell_append_of_absent (conforms.absent noPublic row member)]
      decide
  -- the index name is still free, `public` is new, and the columns the statements name are there
  case free => exact (indexNameTaken_addColumn found _ _).trans noIndex
  case fresh => simpa [Table.hasColumn] using other
  case nullable => rfl
  all_goals simp [Table.hasColumn]

end Upgrade

def rulesTable : Table where
  columns := [⟨"id", false, none⟩, ⟨"uuid", false, none⟩, ⟨"scope", true, none⟩]
  indexes := [⟨"inspection_rule_uuid", ["uuid"], true⟩]
  rows := [[("id", .int 1), ("uuid", .text "lldp"), ("scope", .null)],
    [("id", .int 2), ("uuid", .text "bmc"), ("scope", .text "ironic")]]

def rulesDb : Database := ⟨[("inspection_rules", rulesTable)], by decide⟩

example : ((upgrade .postgresql rulesDb).toOption.bind fun db => db.lookup "inspection_rules") =
    some rulesTable.upgraded := by decide

/-- An index of another table called `inspection_rule_owner_idx` takes the name on PostgreSQL,
but not on MySQL. -/
example : indexNameTaken .postgresql ⟨[("inspection_rules", rulesTable), ("nodes",
      ⟨[], [⟨"inspection_rule_owner_idx", [], false⟩], []⟩)], by decide⟩ "inspection_rules"
      "inspection_rule_owner_idx" = true ∧
    indexNameTaken .mysql ⟨[("inspection_rules", rulesTable), ("nodes",
      ⟨[], [⟨"inspection_rule_owner_idx", [], false⟩], []⟩)], by decide⟩ "inspection_rules"
      "inspection_rule_owner_idx" = false := by decide

end Ironic
