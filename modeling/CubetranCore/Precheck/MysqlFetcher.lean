import CubetranCore.Meta.Data

namespace CubetranCore.Precheck

/-- The `sqlx::Error` variants the fetcher builds or passes on. -/
inductive SqlxError where
  | poolClosed
  | other (error : String)
  deriving DecidableEq, Repr

/-- The errors of `dt-precheck` that the fetchers and the prechecker build (the declaration is not
under src/). -/
inductive Error where
  | sqlxError (e : SqlxError)
  | preCheckError (error : String)
  deriving DecidableEq, Repr

/-- How a fetch ends when it does not return `Ok`: an `Err` it returns, or a panic of an
`unwrap`. -/
inductive FetchFault where
  | error (e : Error)
  | panic
  deriving DecidableEq, Repr

/-- A row of a query's result, read by column name into a `String` as `row.get` reads it. -/
abbrev MySqlRow := String → String

/-- What the server answers a query through the pool: its rows, or the `sqlx::Error`. -/
abbrev Pool := String → Except SqlxError (List MySqlRow)

/-- `RdbFilter::filter_db` and `filter_tb` (`RdbFilter` is not under src/). -/
structure RdbFilter where
  filterDb : String → Bool
  filterTb : String → String → Bool

structure Database where
  databaseName : String
  deriving DecidableEq, Repr

structure Table where
  databaseName : String
  schemaName : String
  tableName : String
  deriving DecidableEq, Repr

structure Constraint where
  databaseName : String
  schemaName : String
  tableName : String
  columnName : String
  constraintName : String
  constraintType : String
  deriving DecidableEq, Repr

/-- The `HashMap<String, String>` of `fetch_configuration`. -/
abbrev ConfigMap := AList (fun _ : String => String)

/-- The fields of `MysqlFetcher` that the fetch functions read. -/
structure MysqlFetcher where
  pool : Option Pool
  filter : RdbFilter

/-- The `format!` of `fetch_configuration`'s query. -/
def configQuery (configKeys : List String) : String :=
  "show variables where variable_name in (" ++
    ",".intercalate (configKeys.map fun c => "\x27" ++ c ++ "\x27") ++ ")"

/-- One turn of the row loop of `fetch_configuration`: a row's value is kept when its variable is
one of the keys. -/
def configStep (resultMap : ConfigMap) (row : MySqlRow) : ConfigMap :=
  if row "Variable_name" ∈ resultMap then resultMap.insert (row "Variable_name") (row "Value")
  else resultMap

namespace MysqlFetcher

variable (fetcher : MysqlFetcher)

def fetchAll (sql : String) : Except Error (List MySqlRow) :=
  match fetcher.pool with
  | some pool => (pool sql).mapError Error.sqlxError
  | none => .error (.sqlxError .poolClosed)

/-- `fetch_row`: without a pool, `PoolClosed`; with one, the stream of the query, which yields
what the server answers: its rows, or the error of the query. -/
def fetchRow (sql : String) : Except Error (Except SqlxError (List MySqlRow)) :=
  match fetcher.pool with
  | some pool => .ok (pool sql)
  | none => .error (.sqlxError .poolClosed)

def fetchVersion : Except Error String := do
  let rows ← fetcher.fetchAll "select version()"
  match rows with
  | [] => pure ""
  | row :: _ => pure (row "version()")

def fetchConfiguration (configKeys : List String) : Except Error ConfigMap :=
  if configKeys.isEmpty then .ok ∅
  else do
    let resultMap : ConfigMap := configKeys.foldl (fun resultMap c => resultMap.insert c "") ∅
    let rows ← fetcher.fetchAll (configQuery configKeys)
    pure (rows.foldl configStep resultMap)

/-- The loop `fetch_databases`, `fetch_tables` and `fetch_constraints` share: each row of the
stream that the filter keeps is pushed as the item it reads, and `try_next().await.unwrap()`
panics on an error of the stream. -/
def fetchKept {α : Type} (sql : String) (kept : MySqlRow → Bool) (item : MySqlRow → α) :
    Except FetchFault (List α) := do
  let rows ← (fetcher.fetchRow sql).mapError FetchFault.error
  match rows with
  | .ok rows =>
    pure (rows.foldl (fun results row => if kept row then results ++ [item row] else results) [])
  | .error _ => .error .panic

def queryDb : String := "select schema_name from information_schema.SCHEMATA"

def queryTb : String := "select t.table_schema,t.table_name from information_schema.tables t"

def queryConstaint : String :=
  "select table_schema,table_name,constraint_name, constraint_type from information_schema.table_constraints"

def fetchDatabases : Except FetchFault (List Database) :=
  fetcher.fetchKept queryDb (fun row => !fetcher.filter.filterDb (row "SCHEMA_NAME"))
    fun row => ⟨row "SCHEMA_NAME"⟩

/-- `fetch_schemas` (`Schema` is not under src/). -/
def fetchSchemas {Schema : Type} : Except Error (List Schema) := .ok []

def fetchTables : Except FetchFault (List Table) :=
  fetcher.fetchKept queryTb (fun row => !fetcher.filter.filterTb (row "TABLE_SCHEMA") (row "TABLE_NAME"))
    fun row => ⟨row "TABLE_SCHEMA", "", row "TABLE_NAME"⟩

def fetchConstraints : Except FetchFault (List Constraint) :=
  fetcher.fetchKept queryConstaint
    (fun row => !fetcher.filter.filterTb (row "TABLE_SCHEMA") (row "TABLE_NAME"))
    fun row => ⟨row "TABLE_SCHEMA", "", row "TABLE_NAME", "", row "CONSTRAINT_NAME",
      row "CONSTRAINT_TYPE"⟩

theorem foldl_kept {α : Type} (kept : MySqlRow → Bool) (item : MySqlRow → α) :
    ∀ (rows : List MySqlRow) (results : List α),
      rows.foldl (fun results row => if kept row then results ++ [item row] else results) results =
        results ++ (rows.filter kept).map item
  | [], results => by simp
  | row :: rows, results => by
    rw [List.foldl_cons, foldl_kept kept item rows]
    by_cases h : kept row <;> simp [h]

section Kept

variable {α : Type} {sql : String} (kept : MySqlRow → Bool) (item : MySqlRow → α)

theorem fetchKept_ok {pool : Pool} {rows : List MySqlRow} (hpool : fetcher.pool = some pool)
    (h : pool sql = .ok rows) : fetcher.fetchKept sql kept item = .ok ((rows.filter kept).map item) := by
  simp only [fetchKept, fetchRow, hpool, h, Except.mapError, ok_bind, foldl_kept, List.nil_append]
  rfl

theorem fetchKept_of_pool_none (hpool : fetcher.pool = none) :
    fetcher.fetchKept sql kept item = .error (.error (.sqlxError .poolClosed)) := by
  simp only [fetchKept, fetchRow, hpool, Except.mapError]
  rfl

theorem fetchKept_of_stream_error {pool : Pool} {e : SqlxError} (hpool : fetcher.pool = some pool)
    (h : pool sql = .error e) : fetcher.fetchKept sql kept item = .error .panic := by
  simp only [fetchKept, fetchRow, hpool, h, Except.mapError, ok_bind]

end Kept

theorem fetch_constraints_name_fetched_tables {pool : Pool}
    {tableRows constraintRows : List MySqlRow} (hpool : fetcher.pool = some pool)
    (htb : pool queryTb = .ok tableRows) (hconstraint : pool queryConstaint = .ok constraintRows)
    (hnames : ∀ c ∈ constraintRows, ∃ t ∈ tableRows,
      t "TABLE_SCHEMA" = c "TABLE_SCHEMA" ∧ t "TABLE_NAME" = c "TABLE_NAME") :
    ∃ tables constraints, fetcher.fetchTables = .ok tables ∧
      fetcher.fetchConstraints = .ok constraints ∧
      ∀ c ∈ constraints, ∃ t ∈ tables, t.databaseName = c.databaseName ∧ t.tableName = c.tableName := by
  refine ⟨_, _, fetcher.fetchKept_ok _ _ hpool htb, fetcher.fetchKept_ok _ _ hpool hconstraint, ?_⟩
  intro c hc
  obtain ⟨r, hr, rfl⟩ := List.mem_map.mp hc
  obtain ⟨hr, hkept⟩ := List.mem_filter.mp hr
  obtain ⟨t, ht, hs, hn⟩ := hnames r hr
  exact ⟨_, List.mem_map_of_mem _ (List.mem_filter.mpr ⟨ht, by rw [hs, hn]; exact hkept⟩), hs, hn⟩

end MysqlFetcher

theorem fetch_constraints_of_kept_table :
    let row (db tb : String) : MySqlRow := fun col =>
      if col = "TABLE_SCHEMA" then db else if col = "TABLE_NAME" then tb else "PRIMARY"
    let pool : Pool := fun sql =>
      if sql = MysqlFetcher.queryTb then .ok [row "db1" "t1", row "db2" "t2"] else .ok [row "db1" "t1"]
    let fetcher : MysqlFetcher := ⟨some pool, ⟨fun _ => false, fun db _ => db = "db2"⟩⟩
    ∃ tables constraints, fetcher.fetchTables = .ok tables ∧
      fetcher.fetchConstraints = .ok constraints ∧
      ∀ c ∈ constraints, ∃ t ∈ tables, t.databaseName = c.databaseName ∧ t.tableName = c.tableName := by
  intro row pool fetcher
  have hne : MysqlFetcher.queryConstaint ≠ MysqlFetcher.queryTb := by decide
  refine fetcher.fetch_constraints_name_fetched_tables rfl (if_pos rfl) (if_neg hne)
    fun c hc => ⟨c, ?_, rfl, rfl⟩
  simp only [List.mem_singleton] at hc
  exact hc ▸ List.mem_cons_self _ _

def lastValue (k : String) (rows : List MySqlRow) : Option String :=
  ((rows.filter fun row => row "Variable_name" = k).getLast?).map (· "Value")

theorem lookup_foldl_insert_blank (k : String) :
    ∀ (keys : List String) (m : ConfigMap),
      (keys.foldl (fun resultMap c => resultMap.insert c "") m).lookup k =
        if k ∈ keys then some "" else m.lookup k
  | [], m => by simp
  | c :: keys, m => by
    rw [List.foldl_cons, lookup_foldl_insert_blank k keys]
    by_cases hk : k ∈ keys
    · simp [hk]
    · by_cases hc : k = c
      · subst hc; simp [hk, AList.lookup_insert]
      · simp [hk, hc, AList.lookup_insert_ne hc]

theorem lookup_configStep (k : String) (m : ConfigMap) (row : MySqlRow) :
    (configStep m row).lookup k =
      if row "Variable_name" = k then (m.lookup k).map fun _ => row "Value" else m.lookup k := by
  unfold configStep
  by_cases hk : row "Variable_name" = k
  · subst hk
    by_cases hm : row "Variable_name" ∈ m
    · obtain ⟨v, hv⟩ := Option.isSome_iff_exists.mp (AList.lookup_isSome.mpr hm)
      simp [hm, hv, AList.lookup_insert]
    · simp [hm, AList.lookup_eq_none.mpr hm]
  · split <;> simp [hk, AList.lookup_insert_ne (Ne.symm hk)]

theorem lastValue_cons (k : String) (row : MySqlRow) (rows : List MySqlRow) :
    lastValue k (row :: rows) =
      (lastValue k rows).or (if row "Variable_name" = k then some (row "Value") else none) := by
  unfold lastValue
  by_cases hk : row "Variable_name" = k
  · rw [List.filter_cons_of_pos (by simpa using hk), List.getLast?_cons]
    cases (rows.filter fun row => row "Variable_name" = k).getLast? <;> simp [hk]
  · rw [List.filter_cons_of_neg (by simpa using hk)]
    simp [hk]

theorem lookup_foldl_configStep (k : String) :
    ∀ (rows : List MySqlRow) (m : ConfigMap),
      (rows.foldl configStep m).lookup k = (m.lookup k).map fun v => (lastValue k rows).getD v
  | [], m => by simp [lastValue]
  | row :: rows, m => by
    rw [List.foldl_cons, lookup_foldl_configStep k rows, lookup_configStep, lastValue_cons]
    by_cases hk : row "Variable_name" = k
    · cases lastValue k rows <;> cases m.lookup k <;> simp [hk]
    · simp [hk]

theorem fetch_configuration_reads_each_key (fetcher : MysqlFetcher) (configKeys : List String) :
    (configKeys = [] → fetcher.fetchConfiguration configKeys = .ok ∅) ∧
    (configKeys ≠ [] → fetcher.pool = none →
      fetcher.fetchConfiguration configKeys = .error (.sqlxError .poolClosed)) ∧
    (∀ rows, configKeys ≠ [] → fetcher.fetchAll (configQuery configKeys) = .ok rows →
      ∃ resultMap, fetcher.fetchConfiguration configKeys = .ok resultMap ∧
        ∀ k, resultMap.lookup k = if k ∈ configKeys then some ((lastValue k rows).getD "") else none) := by
  refine ⟨fun h => by simp [MysqlFetcher.fetchConfiguration, h], fun h hpool => ?_,
    fun rows h hrows =>
      ⟨rows.foldl configStep (configKeys.foldl (fun resultMap c => resultMap.insert c "") ∅), ?_,
        fun k => ?_⟩⟩
  · simp [MysqlFetcher.fetchConfiguration, h, MysqlFetcher.fetchAll, hpool]
  · simp only [MysqlFetcher.fetchConfiguration, List.isEmpty_iff, h, if_false, hrows, ok_bind]
    rfl
  · rw [lookup_foldl_configStep, lookup_foldl_insert_blank, AList.lookup_empty]
    split <;> rfl

end CubetranCore.Precheck
