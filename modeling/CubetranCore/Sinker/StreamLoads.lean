import CubetranCore.Sinker.StarRocks

namespace CubetranCore.Sinker

def Accepts (env : StarRocksEnv) : Prop :=
  ∀ sent load, ∃ statusDisplay text,
    env.execute sent load = .ok ⟨200, statusDisplay, text, some "Success"⟩

theorem checkResponse_success (statusDisplay text : String) :
    checkResponse ⟨200, statusDisplay, text, some "Success"⟩ = .ok () := rfl

theorem loadImage_isSome {rd : RowData} (hw : rd.Wellformed) : (loadImage rd.rowType rd).isSome := by
  unfold RowData.Wellformed at hw
  unfold loadImage
  cases h : rd.rowType <;> simp_all

theorem filterMap_map_some_of_isSome {α β : Type} {f : α → Option β} {l : List α}
    (h : ∀ a ∈ l, (f a).isSome) : (l.filterMap f).map some = l.map f := by
  rw [List.map_filterMap_some_eq_filter_map_isSome, List.filter_eq_self]
  simpa using h

namespace StarRocksSinker

variable (sinker : StarRocksSinker) {env : StarRocksEnv}

def windowLoad (db tb : String) (rowType : RowType) (rows : List RowData) : StreamLoad :=
  sinker.buildRequest (sinker.loadUrl db tb) (loadOp rowType) (rows.filterMap (loadImage rowType))

theorem windowLoad_deletes (db tb : String) (rowType : RowType) (rows : List RowData) :
    ("columns", "__op=\x27delete\x27") ∈ (sinker.windowLoad db tb rowType rows).headers ↔
      rowType = .delete := by
  cases rowType <;> simp [windowLoad, buildRequest, loadOp, show "".isEmpty = true from rfl,
    show "delete".isEmpty = false from rfl]

theorem sendData_ok (hacc : Accepts env) {data : List RowData} {startIndex batchSize : Nat}
    {first : RowData} (hfirst : data[startIndex]? = some first)
    (himage : ∀ rd ∈ (data.drop startIndex).take batchSize, (loadImage first.rowType rd).isSome)
    (st : SinkState) :
    sinker.sendData env data startIndex batchSize st =
      .ok ({ st with loads := st.loads ++ [sinker.windowLoad first.schema first.tb first.rowType
          ((data.drop startIndex).take batchSize)] },
        ((data.drop startIndex).take batchSize).foldl (fun dataSize rd => dataSize + rd.dataSize) 0) := by
  obtain ⟨statusDisplay, text, hexec⟩ := hacc st.loads (sinker.windowLoad first.schema first.tb
    first.rowType ((data.drop startIndex).take batchSize))
  have himages := mapM_unwrapSome_eq_ok (filterMap_map_some_of_isSome himage).symm
  simp only [windowLoad] at hexec
  simp only [sendData, hfirst, unwrapSome_some, ok_bind, himages, hexec, unwrap_ok,
    checkResponse_success]
  rfl

theorem sendData_missing_image {data : List RowData} {startIndex batchSize : Nat} {first : RowData}
    (hfirst : data[startIndex]? = some first)
    (hmissing : ∃ rd ∈ (data.drop startIndex).take batchSize, loadImage first.rowType rd = none)
    (st : SinkState) : sinker.sendData env data startIndex batchSize st = .error .panic := by
  simp only [sendData, hfirst, unwrapSome_some, ok_bind, mapM_unwrapSome_eq_panic hmissing]
  rfl

theorem foldlM_sendData_range (hacc : Accepts env) {data : List RowData}
    (hwf : ∀ rd ∈ data, rd.Wellformed) (st : SinkState) :
    ∀ n ≤ data.length,
      (List.range n).foldlM (fun st i => Prod.fst <$> sinker.sendData env data i 1 st) st =
        .ok { st with loads := st.loads ++ (data.take n).map fun rd =>
          sinker.windowLoad rd.schema rd.tb rd.rowType [rd] }
  | 0, _ => by simp; rfl
  | n + 1, hn => by
    have hlt : n < data.length := hn
    have hrow : (data.drop n).take 1 = [data[n]] := by
      rw [List.drop_eq_getElem_cons hlt]
      rfl
    have himage : ∀ rd ∈ (data.drop n).take 1, (loadImage data[n].rowType rd).isSome := by
      simpa [hrow] using loadImage_isSome (hwf _ (List.getElem_mem hlt))
    have hsend := sinker.sendData_ok hacc (List.getElem?_eq_getElem hlt) himage
    rw [List.range_succ, List.foldlM_append, foldlM_sendData_range hacc hwf st n (by omega)]
    simp only [ok_bind, List.foldlM_cons, List.foldlM_nil, hsend, hrow, List.take_succ,
      List.getElem?_eq_getElem hlt, Option.toList, List.map_append, List.map_cons, List.map_nil,
      List.append_assoc]
    rfl

theorem serialSink_ok (hacc : Accepts env) {data : List RowData}
    (hwf : ∀ rd ∈ data, rd.Wellformed) (st : SinkState) :
    sinker.serialSink env data st =
      .ok ⟨st.loads ++ data.map (fun rd => sinker.windowLoad rd.schema rd.tb rd.rowType [rd]),
        updateSerialMonitor st.monitor data.length env.elapsedMicros⟩ := by
  simp only [serialSink, sinker.foldlM_sendData_range hacc hwf st _ le_rfl, List.take_length,
    ok_bind]
  rfl

theorem sinkDml_serial {first : RowData} {rest : List RowData} {batch : Bool}
    (h : batch = false ∨ first.rowType = .update) (st : SinkState) :
    sinker.sinkDml env (first :: rest) batch st =
      unwrap (sinker.serialSink env (first :: rest) st) := by
  rcases h with rfl | h
  · rfl
  · cases batch
    · rfl
    · simp only [sinkDml, h]
      rfl

theorem sink_dml_serial_loads_each_row (hacc : Accepts env) {first : RowData} {rest : List RowData}
    {batch : Bool} (h : batch = false ∨ first.rowType = .update)
    (hwf : ∀ rd ∈ first :: rest, rd.Wellformed) (st : SinkState) :
    sinker.sinkDml env (first :: rest) batch st =
      .ok ⟨st.loads ++ (first :: rest).map (fun rd => sinker.buildRequest
          (sinker.loadUrl rd.schema rd.tb) (loadOp rd.rowType) (loadImage rd.rowType rd).toList),
        updateSerialMonitor st.monitor (rest.length + 1) env.elapsedMicros⟩ := by
  have hload : ∀ rd : RowData, sinker.windowLoad rd.schema rd.tb rd.rowType [rd] =
      sinker.buildRequest (sinker.loadUrl rd.schema rd.tb) (loadOp rd.rowType)
        (loadImage rd.rowType rd).toList := fun rd => by
    unfold windowLoad; cases h : loadImage rd.rowType rd <;> simp [h]
  rw [sinker.sinkDml_serial h, sinker.serialSink_ok hacc hwf, unwrap_ok]
  simp only [hload, List.length_cons]

theorem sink_dml_serial_routes_mixed_rows :
    let env : StarRocksEnv := ⟨fun _ _ => .ok ⟨200, "200 OK", "", some "Success"⟩, 0⟩
    let sinker : StarRocksSinker := ⟨2, "localhost", "8030", "root", ""⟩
    let image (i : BitVec 32) : ColMap := (∅ : ColMap).insert "id" (.long i)
    let data : List RowData :=
      [⟨"db", "t1", .insert, none, some (image 1), 0⟩, ⟨"db", "t2", .delete, some (image 2), none, 0⟩]
    (∀ rd ∈ data, rd.Wellformed) ∧
      sinker.sinkDml env data false ⟨[], []⟩ =
        .ok ⟨[] ++ data.map (fun rd => sinker.buildRequest (sinker.loadUrl rd.schema rd.tb)
            (loadOp rd.rowType) (loadImage rd.rowType rd).toList),
          updateSerialMonitor [] 2 0⟩ := by
  intro env sinker image data
  have hwf : ∀ rd ∈ data, rd.Wellformed := by decide
  exact ⟨hwf, sinker.sink_dml_serial_loads_each_row (fun _ _ => ⟨_, _, rfl⟩) (.inl rfl) hwf _⟩

section Batch

variable {data : List RowData} {schema tb : String} {rowType : RowType}

theorem batchSink_ok (hacc : Accepts env)
    (hrows : ∀ rd ∈ data, rd.schema = schema ∧ rd.tb = tb ∧ rd.rowType = rowType ∧ rd.Wellformed)
    {w : Nat × Nat} (hw : 0 < w.2 ∧ w.1 + w.2 ≤ data.length) (st : SinkState) :
    sinker.batchSink env data st w.1 w.2 =
      .ok ⟨st.loads ++ [sinker.windowLoad schema tb rowType ((data.drop w.1).take w.2)],
        updateBatchMonitor st.monitor w.2 env.elapsedMicros⟩ := by
  have hlt : w.1 < data.length := by omega
  obtain ⟨hs, ht, hr, -⟩ := hrows _ (List.getElem_mem hlt)
  have himage : ∀ rd ∈ (data.drop w.1).take w.2, (loadImage data[w.1].rowType rd).isSome := by
    intro rd hrd
    obtain ⟨-, -, hrt, hwf⟩ := hrows rd (List.mem_of_mem_drop (List.mem_of_mem_take hrd))
    simpa [hr, ← hrt] using loadImage_isSome hwf
  simp only [batchSink, sinker.sendData_ok hacc (List.getElem?_eq_getElem hlt) himage, hs, ht, hr,
    ok_bind]
  rfl

theorem foldlM_batchSink (hacc : Accepts env)
    (hrows : ∀ rd ∈ data, rd.schema = schema ∧ rd.tb = tb ∧ rd.rowType = rowType ∧ rd.Wellformed) :
    ∀ (ws : List (Nat × Nat)) (st : SinkState), (∀ w ∈ ws, 0 < w.2 ∧ w.1 + w.2 ≤ data.length) →
      ws.foldlM (fun st w => unwrap (sinker.batchSink env data st w.1 w.2)) st =
        .ok ⟨st.loads ++ ws.map (fun w => sinker.windowLoad schema tb rowType ((data.drop w.1).take w.2)),
          ws.foldl (fun m w => updateBatchMonitor m w.2 env.elapsedMicros) st.monitor⟩
  | [], st, _ => by simp; rfl
  | w :: ws, st, hws => by
    rw [List.foldlM_cons, sinker.batchSink_ok hacc hrows (hws w (List.mem_cons_self _ _)), unwrap_ok,
      ok_bind, foldlM_batchSink hacc hrows ws _ (fun w' hw' => hws w' (List.mem_cons_of_mem _ hw'))]
    simp

theorem sinkDml_batch_ok (hb : 0 < sinker.batchSize) (hacc : Accepts env)
    (hrt : rowType = .insert ∨ rowType = .delete)
    (hrows : ∀ rd ∈ data, rd.schema = schema ∧ rd.tb = tb ∧ rd.rowType = rowType ∧ rd.Wellformed)
    (st : SinkState) :
    ∃ monitor, sinker.sinkDml env data true st =
      .ok ⟨st.loads ++ (batchWindows sinker.batchSize 0 data.length).map
        (fun w => sinker.windowLoad schema tb rowType ((data.drop w.1).take w.2)), monitor⟩ := by
  match data, hrows with
  | [], _ => exact ⟨st.monitor, by simp [sinkDml, batchWindows_zero]⟩
  | first :: rest, hrows =>
    have hfirst : first.rowType = rowType := (hrows first (List.mem_cons_self _ _)).2.2.1
    have hbatch : sinker.sinkDml env (first :: rest) true st =
        callBatchFn sinker.batchSize (first :: rest).length
          (fun st startIndex batchSize =>
            unwrap (sinker.batchSink env (first :: rest) st startIndex batchSize)) st := by
      rcases hrt with h | h <;> simp [sinkDml, hfirst, h]
    rw [hbatch, callBatchFn_eq_foldlM _ _ hb, foldlM_batchSink sinker hacc hrows _ _
      (fun w hw => by simpa using batchWindows_bound hb hw)]
    exact ⟨_, rfl⟩

theorem sinkDml_batch_missing_image (hb : 0 < sinker.batchSize) {first : RowData}
    {rest : List RowData} (hrt : first.rowType = .insert ∨ first.rowType = .delete)
    (hmissing : ∃ rd ∈ (first :: rest).take sinker.batchSize, loadImage first.rowType rd = none)
    (st : SinkState) : sinker.sinkDml env (first :: rest) true st = .error .panic := by
  have hbatch : sinker.sinkDml env (first :: rest) true st =
      callBatchFn sinker.batchSize (first :: rest).length
        (fun st startIndex batchSize =>
          unwrap (sinker.batchSink env (first :: rest) st startIndex batchSize)) st := by
    rcases hrt with h | h <;> simp [sinkDml, h]
  have hwindow : ((first :: rest).drop 0).take (min sinker.batchSize (first :: rest).length) =
      (first :: rest).take sinker.batchSize := by
    rw [List.drop_zero, ← List.take_take, List.take_length]
  have hsend : sinker.sendData env (first :: rest) 0 (min sinker.batchSize (first :: rest).length) st =
      .error .panic :=
    sinker.sendData_missing_image List.getElem?_cons_zero (hwindow ▸ hmissing) st
  rw [hbatch, callBatchFn_eq_foldlM _ _ hb, batchWindows_cons 0 hb (List.length_pos.mpr (List.cons_ne_nil _ _)),
    List.foldlM_cons]
  simp only [batchSink, hsend]
  rfl

end Batch

end StarRocksSinker

structure LoadsWindows (sinker : StarRocksSinker) (data : List RowData) (schema tb : String)
    (rowType : RowType) (loads : List StreamLoad) : Prop where
  length : loads.length = (data.length + sinker.batchSize - 1) / sinker.batchSize
  url : ∀ load ∈ loads, load.url =
    "http://" ++ sinker.host ++ ":" ++ sinker.port ++ "/api/" ++ schema ++ "/" ++ tb ++ "/_stream_load"
  body : ∀ k (hk : k < loads.length), loads[k].body.map some =
    ((data.drop (k * sinker.batchSize)).take sinker.batchSize).map (loadImage rowType)
  deletes : ∀ load ∈ loads, ("columns", "__op=\x27delete\x27") ∈ load.headers ↔ rowType = .delete
  images : (loads.map StreamLoad.body).flatten.map some = data.map (loadImage rowType)

theorem mem_of_mem_window {data : List RowData} {rd : RowData} {w : Nat × Nat}
    (h : rd ∈ (data.drop w.1).take w.2) : rd ∈ data :=
  List.mem_of_mem_drop (List.mem_of_mem_take h)

theorem loadsWindows_batchWindows (sinker : StarRocksSinker) {data : List RowData}
    {schema tb : String} {rowType : RowType} (hb : 0 < sinker.batchSize)
    (himage : ∀ rd ∈ data, (loadImage rowType rd).isSome) :
    LoadsWindows sinker data schema tb rowType ((batchWindows sinker.batchSize 0 data.length).map
      fun w => sinker.windowLoad schema tb rowType ((data.drop w.1).take w.2)) where
  length := by simp
  url load hload := by
    obtain ⟨w, -, rfl⟩ := List.mem_map.mp hload
    rfl
  body k hk := by
    have hlen : data.length - k * sinker.batchSize = (data.drop (k * sinker.batchSize)).length :=
      (List.length_drop _ _).symm
    simp only [List.getElem_map, batchWindows_getElem, Nat.zero_add, StarRocksSinker.windowLoad,
      StarRocksSinker.buildRequest, hlen, ← List.take_take, List.take_length]
    exact filterMap_map_some_of_isSome fun rd hrd =>
      himage rd (List.mem_of_mem_drop (List.mem_of_mem_take hrd))
  deletes load hload := by
    obtain ⟨w, -, rfl⟩ := List.mem_map.mp hload
    exact sinker.windowLoad_deletes _ _ _ _
  images := by
    have hbody : ∀ w ∈ batchWindows sinker.batchSize 0 data.length,
        (((data.drop w.1).take w.2).filterMap (loadImage rowType)).map some =
          ((data.drop w.1).take w.2).map (loadImage rowType) :=
      fun w _ => filterMap_map_some_of_isSome fun rd hrd => himage rd (mem_of_mem_window hrd)
    calc _ = ((batchWindows sinker.batchSize 0 data.length).map
            fun w => ((data.drop w.1).take w.2).map (loadImage rowType)).flatten := by
          simp only [List.map_flatten, List.map_map]
          exact congrArg _ (List.map_congr_left hbody)
      _ = ((batchWindows sinker.batchSize 0 data.length).map
            fun w => (data.drop w.1).take w.2).flatten.map (loadImage rowType) := by
          simp only [List.map_flatten, List.map_map]
          rfl
      _ = data.map (loadImage rowType) := by
          rw [batchWindows_flatten data hb, List.drop_zero, List.take_length]

theorem batch_sink_dml_loads_each_window (sinker : StarRocksSinker) (env : StarRocksEnv)
    (data : List RowData) (schema tb : String) (rowType : RowType) (st : SinkState)
    (hb : 0 < sinker.batchSize) (hacc : Accepts env) (hrt : rowType = .insert ∨ rowType = .delete)
    (hrows : ∀ rd ∈ data, rd.schema = schema ∧ rd.tb = tb ∧ rd.rowType = rowType ∧ rd.Wellformed) :
    ∃ loads monitor, sinker.sinkDml env data true st = .ok ⟨st.loads ++ loads, monitor⟩ ∧
      LoadsWindows sinker data schema tb rowType loads := by
  obtain ⟨monitor, hsink⟩ := sinker.sinkDml_batch_ok hb hacc hrt hrows st
  refine ⟨_, monitor, hsink, loadsWindows_batchWindows sinker hb fun rd hrd => ?_⟩
  obtain ⟨-, -, rfl, hwf⟩ := hrows rd hrd
  exact loadImage_isSome hwf

theorem batch_sink_three_inserts :
    let env : StarRocksEnv := ⟨fun _ _ => .ok ⟨200, "200 OK", "", some "Success"⟩, 0⟩
    let sinker : StarRocksSinker := ⟨2, "localhost", "8030", "root", ""⟩
    let data : List RowData := [1, 2, 3].map fun i =>
      ⟨"db", "t", .insert, none, some ((∅ : ColMap).insert "id" (.long i)), 0⟩
    ∃ loads monitor, sinker.sinkDml env data true ⟨[], []⟩ = .ok ⟨[] ++ loads, monitor⟩ ∧
      LoadsWindows sinker data "db" "t" .insert loads := by
  intro env sinker data
  exact batch_sink_dml_loads_each_window sinker env data "db" "t" .insert ⟨[], []⟩ (by decide)
    (fun _ _ => ⟨_, _, rfl⟩) (.inl rfl) (by decide)

theorem batch_sink_dml_mixed_window_misroutes :
    let env : StarRocksEnv := ⟨fun _ _ => .ok ⟨200, "200 OK", "", some "Success"⟩, 0⟩
    let sinker : StarRocksSinker := ⟨2, "localhost", "8030", "root", ""⟩
    let image (i : BitVec 32) : ColMap := (∅ : ColMap).insert "id" (.long i)
    sinker.sinkDml env [⟨"db", "t1", .insert, none, some (image 1), 0⟩,
        ⟨"db", "t1", .delete, some (image 2), none, 0⟩] true ⟨[], []⟩ = .error .panic ∧
      ∃ monitor, sinker.sinkDml env [⟨"db", "t1", .insert, none, some (image 1), 0⟩,
          ⟨"db", "t2", .insert, none, some (image 2), 0⟩] true ⟨[], []⟩ =
        .ok ⟨[⟨sinker.loadUrl "db" "t1", "root", none,
          [("expect", "100-continue"), ("format", "json"), ("strip_outer_array", "true")],
          [image 1, image 2]⟩], monitor⟩ := by
  intro env sinker image
  refine ⟨sinker.sinkDml_batch_missing_image (by decide) (.inl rfl)
    ⟨⟨"db", "t1", .delete, some (image 2), none, 0⟩, by simp, by rfl⟩ _, _, rfl⟩

end CubetranCore.Sinker
