import CubetranCore.Sinker.StreamLoads

namespace CubetranCore.Sinker

/-- A StarRocks primary-key table: the row stored under each key, a key being the values of the key
columns in an image (`none` for a key column the image lacks). -/
abbrev KeyedTable := List (Option ColValue) → Option ColMap

def keyOf (keyCols : List String) (image : ColMap) : List (Option ColValue) :=
  keyCols.map image.lookup

namespace KeyedTable

variable (keyCols : List String)

def put (t : KeyedTable) (image : ColMap) : KeyedTable :=
  Function.update t (keyOf keyCols image) (some image)

def erase (t : KeyedTable) (image : ColMap) : KeyedTable :=
  Function.update t (keyOf keyCols image) none

/-- A stream load applied to the table: with `columns: __op='delete'` it erases the key of each
object of its body, without it it upserts each object at its key. -/
def applyLoad (t : KeyedTable) (load : StreamLoad) : KeyedTable :=
  if ("columns", "__op=\x27delete\x27") ∈ load.headers then load.body.foldl (erase keyCols) t
  else load.body.foldl (put keyCols) t

def applyRow (t : KeyedTable) (rd : RowData) : KeyedTable :=
  match rd.rowType, rd.before, rd.after with
  | .insert, _, some after => put keyCols t after
  | .update, some before, some after => put keyCols (erase keyCols t before) after
  | .delete, some before, _ => erase keyCols t before
  | _, _, _ => t

end KeyedTable

def KeepsKey (keyCols : List String) (rd : RowData) : Prop :=
  rd.rowType = .update → rd.before.map (keyOf keyCols) = rd.after.map (keyOf keyCols)

instance (keyCols : List String) (rd : RowData) : Decidable (KeepsKey keyCols rd) :=
  inferInstanceAs (Decidable (_ → _))

namespace StarRocksSinker

variable (sinker : StarRocksSinker) (env : StarRocksEnv)

def sinkDmlCalls : List (List RowData × Bool) → SinkState → Except Fault SinkState
  | [], st => .ok st
  | (data, batch) :: calls, st => do
    let st ← sinker.sinkDml env data batch st
    sinkDmlCalls calls st

end StarRocksSinker

open KeyedTable

section Replication

variable (keyCols : List String) (sinker : StarRocksSinker) {env : StarRocksEnv}

theorem applyRow_eq_loadImage {rd : RowData} (hwf : rd.Wellformed) (hkey : KeepsKey keyCols rd)
    (t : KeyedTable) :
    ∃ image, loadImage rd.rowType rd = some image ∧ applyRow keyCols t rd =
      if rd.rowType = .delete then erase keyCols t image else put keyCols t image := by
  obtain ⟨schema, tb, rowType, before, after, dataSize⟩ := rd
  unfold RowData.Wellformed at hwf
  cases rowType with
  | insert =>
    obtain ⟨after, rfl⟩ := Option.isSome_iff_exists.mp hwf.1
    exact ⟨after, rfl, by simp [applyRow]⟩
  | update =>
    obtain ⟨before, rfl⟩ := Option.isSome_iff_exists.mp hwf.1
    obtain ⟨after, rfl⟩ := Option.isSome_iff_exists.mp hwf.2
    have hk : keyOf keyCols before = keyOf keyCols after := by
      simpa [KeepsKey] using hkey
    refine ⟨after, rfl, ?_⟩
    simp [applyRow, put, erase, hk, Function.update_idem]
  | delete =>
    obtain ⟨before, rfl⟩ := Option.isSome_iff_exists.mp hwf.1
    exact ⟨before, rfl, by simp [applyRow]⟩

theorem applyLoad_windowLoad {rows : List RowData} {rowType : RowType}
    (hrows : ∀ rd ∈ rows, rd.rowType = rowType ∧ rd.Wellformed ∧ KeepsKey keyCols rd)
    (db tb : String) (t : KeyedTable) :
    applyLoad keyCols t (sinker.windowLoad db tb rowType rows) = rows.foldl (applyRow keyCols) t := by
  have hop : applyLoad keyCols t (sinker.windowLoad db tb rowType rows) =
      (rows.filterMap (loadImage rowType)).foldl
        (if rowType = .delete then erase keyCols else put keyCols) t := by
    unfold applyLoad
    by_cases h : rowType = .delete
    · rw [if_pos ((sinker.windowLoad_deletes db tb rowType rows).mpr h), if_pos h]
      rfl
    · rw [if_neg (mt (sinker.windowLoad_deletes db tb rowType rows).mp h), if_neg h]
      rfl
  rw [hop]
  clear hop
  induction rows generalizing t with
  | nil => rfl
  | cons rd rows ih =>
    obtain ⟨hrt, hwf, hkey⟩ := hrows rd (List.mem_cons_self _ _)
    obtain ⟨image, himage, happly⟩ := applyRow_eq_loadImage keyCols hwf hkey t
    rw [hrt] at himage happly
    rw [List.filterMap_cons_some himage, List.foldl_cons, List.foldl_cons, happly,
      ih (fun rd' hrd' => hrows rd' (List.mem_cons_of_mem _ hrd'))]
    split <;> rfl

theorem serialSink_replays (hacc : Accepts env) {data : List RowData}
    (hrows : ∀ rd ∈ data, rd.Wellformed ∧ KeepsKey keyCols rd) (st : SinkState) :
    ∃ loads monitor, unwrap (sinker.serialSink env data st) = .ok ⟨st.loads ++ loads, monitor⟩ ∧
      ∀ t, loads.foldl (applyLoad keyCols) t = data.foldl (applyRow keyCols) t := by
  refine ⟨_, _, by rw [sinker.serialSink_ok hacc fun rd hrd => (hrows rd hrd).1]; rfl,
    fun t => ?_⟩
  rw [List.foldl_map]
  refine List.foldl_ext _ _ _ fun t rd hrd =>
    applyLoad_windowLoad keyCols sinker (fun rd' hrd' => ?_) _ _ t
  obtain rfl := List.mem_singleton.mp hrd'
  exact ⟨rfl, hrows _ hrd⟩

theorem sinkDml_batch_replays (hb : 0 < sinker.batchSize) (hacc : Accepts env)
    {data : List RowData} {schema tb : String} {rowType : RowType}
    (hrt : rowType = .insert ∨ rowType = .delete)
    (hrows : ∀ rd ∈ data, rd.schema = schema ∧ rd.tb = tb ∧ rd.rowType = rowType ∧ rd.Wellformed)
    (st : SinkState) :
    ∃ loads monitor, sinker.sinkDml env data true st = .ok ⟨st.loads ++ loads, monitor⟩ ∧
      ∀ t, loads.foldl (applyLoad keyCols) t = data.foldl (applyRow keyCols) t := by
  obtain ⟨monitor, hsink⟩ := sinker.sinkDml_batch_ok hb hacc hrt hrows st
  refine ⟨_, monitor, hsink, fun t => ?_⟩
  have hflat := batchWindows_flatten data hb 0 data.length
  rw [List.drop_zero, List.take_length] at hflat
  conv_rhs => rw [← hflat]
  rw [List.foldl_map, List.foldl_flatten, List.foldl_map]
  refine List.foldl_ext _ _ _ fun t w _ =>
    applyLoad_windowLoad keyCols sinker (fun rd hrd => ?_) _ _ t
  obtain ⟨-, -, hrd, hwf⟩ := hrows rd (mem_of_mem_window hrd)
  -- an Insert or a Delete keeps its key vacuously
  refine ⟨hrd, hwf, fun hu => ?_⟩
  rcases hrt with rfl | rfl <;> cases hrd.symm.trans hu

theorem sinkDml_replays (hb : 0 < sinker.batchSize) (hacc : Accepts env) {schema tb : String}
    {data : List RowData} {batch : Bool}
    (hrows : ∀ rd ∈ data, rd.schema = schema ∧ rd.tb = tb ∧ rd.Wellformed ∧ KeepsKey keyCols rd)
    (hbatch : batch = true → ∀ rd ∈ data, ∀ rd' ∈ data, rd.rowType = rd'.rowType)
    (st : SinkState) :
    ∃ loads monitor, sinker.sinkDml env data batch st = .ok ⟨st.loads ++ loads, monitor⟩ ∧
      ∀ t, loads.foldl (applyLoad keyCols) t = data.foldl (applyRow keyCols) t := by
  match data, hrows, hbatch with
  | [], _, _ => exact ⟨[], st.monitor, by simp [StarRocksSinker.sinkDml], fun _ => rfl⟩
  | first :: rest, hrows, hbatch =>
    by_cases hser : batch = false ∨ first.rowType = .update
    · rw [sinker.sinkDml_serial hser]
      exact serialSink_replays keyCols sinker hacc (fun rd hrd => (hrows rd hrd).2.2) st
    · -- a batch of Inserts or of Deletes, all of the first row's type
      obtain ⟨hbatched, hnotUpdate⟩ := not_or.mp hser
      obtain rfl : batch = true := by simpa using hbatched
      have hrt : first.rowType = .insert ∨ first.rowType = .delete := by
        cases h : first.rowType with
        | insert => exact .inl rfl
        | update => exact absurd h hnotUpdate
        | delete => exact .inr rfl
      exact sinkDml_batch_replays keyCols sinker hb hacc hrt (fun rd hrd =>
        ⟨(hrows rd hrd).1, (hrows rd hrd).2.1, (hbatch rfl first (List.mem_cons_self _ _) rd hrd).symm,
          (hrows rd hrd).2.2.1⟩) st

theorem sink_dml_calls_replay_key_preserving_rows (hb : 0 < sinker.batchSize)
    (hacc : Accepts env) (schema tb : String) (calls : List (List RowData × Bool)) (st : SinkState)
    (hrows : ∀ c ∈ calls, ∀ rd ∈ c.1,
      rd.schema = schema ∧ rd.tb = tb ∧ rd.Wellformed ∧ KeepsKey keyCols rd)
    (hbatch : ∀ c ∈ calls, c.2 = true → ∀ rd ∈ c.1, ∀ rd' ∈ c.1, rd.rowType = rd'.rowType) :
    ∃ loads monitor, sinker.sinkDmlCalls env calls st = .ok ⟨st.loads ++ loads, monitor⟩ ∧
      ∀ t, loads.foldl (applyLoad keyCols) t = (calls.map Prod.fst).flatten.foldl (applyRow keyCols) t := by
  induction calls generalizing st with
  | nil => exact ⟨[], st.monitor, by simp [StarRocksSinker.sinkDmlCalls], fun _ => rfl⟩
  | cons call calls ih =>
    obtain ⟨loads, monitor, hsink, hreplay⟩ := sinkDml_replays keyCols sinker hb hacc
      (hrows call (List.mem_cons_self _ _)) (hbatch call (List.mem_cons_self _ _)) st
    obtain ⟨loads', monitor', hsink', hreplay'⟩ := ih ⟨st.loads ++ loads, monitor⟩
      (fun c hc => hrows c (List.mem_cons_of_mem _ hc))
      (fun c hc => hbatch c (List.mem_cons_of_mem _ hc))
    refine ⟨loads ++ loads', monitor', ?_, fun t => ?_⟩
    · simp [StarRocksSinker.sinkDmlCalls, hsink, hsink']
    · rw [List.foldl_append, hreplay, hreplay', List.map_cons, List.flatten_cons, List.foldl_append]

end Replication

theorem sink_dml_calls_replay_one_table :
    let env : StarRocksEnv := ⟨fun _ _ => .ok ⟨200, "200 OK", "", some "Success"⟩, 0⟩
    let image (id : BitVec 32) (v : String) : ColMap :=
      ((∅ : ColMap).insert "id" (.long id)).insert "v" (.string v)
    let calls : List (List RowData × Bool) :=
      [([⟨"db", "t", .insert, none, some (image 1 "a"), 0⟩,
          ⟨"db", "t", .insert, none, some (image 2 "b"), 0⟩], true),
        ([⟨"db", "t", .update, some (image 1 "a"), some (image 1 "c"), 0⟩], false),
        ([⟨"db", "t", .delete, some (image 2 "b"), none, 0⟩], true)]
    ∃ loads monitor, (⟨1, "localhost", "8030", "root", ""⟩ : StarRocksSinker).sinkDmlCalls env calls
        ⟨[], []⟩ = .ok ⟨[] ++ loads, monitor⟩ ∧
      ∀ t, loads.foldl (applyLoad ["id"]) t = (calls.map Prod.fst).flatten.foldl (applyRow ["id"]) t := by
  intro env image calls
  exact sink_dml_calls_replay_key_preserving_rows ["id"] _ (by decide) (fun _ _ => ⟨_, _, rfl⟩)
    "db" "t" calls ⟨[], []⟩ (by decide) (by decide)

theorem key_changing_update_keeps_old_row :
    let env : StarRocksEnv := ⟨fun _ _ => .ok ⟨200, "200 OK", "", some "Success"⟩, 0⟩
    let row1 : ColMap := (∅ : ColMap).insert "id" (.long 1)
    let row2 : ColMap := (∅ : ColMap).insert "id" (.long 2)
    let insert1 : RowData := ⟨"db", "t", .insert, none, some row1, 0⟩
    let calls : List (List RowData × Bool) :=
      [([insert1], true), ([⟨"db", "t", .update, some row1, some row2, 0⟩], true)]
    (∃ st, (⟨1, "localhost", "8030", "root", ""⟩ : StarRocksSinker).sinkDmlCalls env calls
        ⟨[], []⟩ = .ok st ∧
      st.loads.foldl (applyLoad ["id"]) (fun _ => none) [some (.long 1)] = some row1 ∧
      (calls.map Prod.fst).flatten.foldl (applyRow ["id"]) (fun _ => none) [some (.long 1)] = none) ∧
    (∃ st, (⟨0, "localhost", "8030", "root", ""⟩ : StarRocksSinker).sinkDmlCalls env
        [([insert1], true)] ⟨[], []⟩ = .ok st ∧
      st.loads.foldl (applyLoad ["id"]) (fun _ => none) [some (.long 1)] = none ∧
      [insert1].foldl (applyRow ["id"]) (fun _ => none) [some (.long 1)] = some row1) :=
  ⟨⟨_, rfl, rfl, rfl⟩, ⟨_, rfl, rfl, rfl⟩⟩

end CubetranCore.Sinker
