import CubetranCore.Sinker.StarRocks

namespace CubetranCore.Sinker

def recordsCounted : Monitor → Nat
  | [] => 0
  | (t, value, _) :: m => (if t = .records then value else 0) + recordsCounted m

def loadedImages : List StreamLoad → Nat
  | [] => 0
  | load :: loads => load.body.length + loadedImages loads

@[simp] theorem recordsCounted_append (m m' : Monitor) :
    recordsCounted (m ++ m') = recordsCounted m + recordsCounted m' := by
  induction m with
  | nil => simp [recordsCounted]
  | cons c m ih => simp [recordsCounted, ih, Nat.add_assoc]

@[simp] theorem loadedImages_append (loads loads' : List StreamLoad) :
    loadedImages (loads ++ loads') = loadedImages loads + loadedImages loads' := by
  induction loads with
  | nil => simp [loadedImages]
  | cons load loads ih => simp [loadedImages, ih, Nat.add_assoc]

theorem updateBatchMonitor_eq (m : Monitor) (batchSize elapsedMicros : Nat) :
    updateBatchMonitor m batchSize elapsedMicros =
      m ++ [(.recordsPerQuery, batchSize, 1), (.records, batchSize, 1), (.rtPerQuery, elapsedMicros, 1)] := by
  simp [updateBatchMonitor, Monitor.addCounter]

theorem updateSerialMonitor_eq (m : Monitor) (recordCount elapsedMicros : Nat) :
    updateSerialMonitor m recordCount elapsedMicros =
      m ++ [(.recordsPerQuery, recordCount, recordCount), (.records, recordCount, 1),
        (.serialWrites, recordCount, 1), (.rtPerQuery, elapsedMicros, recordCount)] := by
  simp [updateSerialMonitor, Monitor.addCounter, Monitor.addBatchCounter]

theorem unwrap_eq_ok {ε α : Type} {x : Except ε α} {a : α} (h : unwrap x = .ok a) : x = .ok a := by
  cases x with
  | error e => cases h
  | ok b => cases h; rfl

theorem mapM_length {α β ε : Type} {f : α → Except ε β} :
    ∀ {l : List α} {bs : List β}, l.mapM f = .ok bs → bs.length = l.length
  | [], bs, h => by cases h; rfl
  | a :: l, bs, h => by
    rw [List.mapM_cons] at h
    obtain ⟨b, -, h⟩ := bind_eq_ok h
    obtain ⟨bs', hl, h⟩ := bind_eq_ok h
    cases h
    simp [mapM_length hl]

namespace StarRocksSinker

variable (sinker : StarRocksSinker) {env : StarRocksEnv} {data : List RowData}

theorem sendData_inv {startIndex batchSize size : Nat} {st st' : SinkState}
    (h : sinker.sendData env data startIndex batchSize st = .ok (st', size)) :
    ∃ load, st' = { st with loads := st.loads ++ [load] } ∧
      load.body.length = ((data.drop startIndex).take batchSize).length := by
  unfold sendData at h
  obtain ⟨loadData, hmap, h⟩ := bind_eq_ok h
  obtain ⟨first, -, h⟩ := bind_eq_ok h
  obtain ⟨response, -, h⟩ := bind_eq_ok h
  obtain ⟨_, -, h⟩ := bind_eq_ok h
  cases h
  exact ⟨_, rfl, mapM_length hmap⟩

theorem batchSink_inv {startIndex batchSize : Nat} {st st' : SinkState}
    (h : sinker.batchSink env data st startIndex batchSize = .ok st') :
    ∃ load, st'.loads = st.loads ++ [load] ∧
      load.body.length = ((data.drop startIndex).take batchSize).length ∧
      st'.monitor = updateBatchMonitor st.monitor batchSize env.elapsedMicros := by
  unfold batchSink at h
  obtain ⟨⟨st₁, size⟩, hs, h⟩ := bind_eq_ok h
  cases h
  obtain ⟨load, rfl, hl⟩ := sinker.sendData_inv hs
  exact ⟨load, rfl, hl, rfl⟩

theorem foldlM_sendData_inv :
    ∀ (is : List Nat) {st st' : SinkState},
      is.foldlM (fun st i => Prod.fst <$> sinker.sendData env data i 1 st) st = .ok st' →
      ∃ loads, st'.loads = st.loads ++ loads ∧ st'.monitor = st.monitor ∧
        loadedImages loads = (is.filter (· < data.length)).length ∧
        ((∀ i ∈ is, i < data.length) → ∀ load ∈ loads, load.body.length = 1)
  | [], st, st', h => by cases h; exact ⟨[], by simp, rfl, rfl, fun _ => nofun⟩
  | i :: is, st, st', h => by
    rw [List.foldlM_cons] at h
    obtain ⟨st₁, h₁, h⟩ := bind_eq_ok h
    obtain ⟨⟨st₂, size⟩, hs, rfl⟩ := map_eq_ok h₁
    obtain ⟨load, rfl, hl⟩ := sinker.sendData_inv hs
    obtain ⟨loads, hloads, hmon, hcount, hones⟩ := foldlM_sendData_inv is h
    have hone : ((data.drop i).take 1).length = if i < data.length then 1 else 0 := by
      simp only [List.length_take, List.length_drop]
      split <;> omega
    refine ⟨load :: loads, by simp [hloads], hmon, ?_, fun his load' hl' => ?_⟩
    · simp only [loadedImages, hl, hcount, hone, List.filter_cons, decide_eq_true_eq]
      split <;> simp [Nat.add_comm]
    · rcases List.mem_cons.mp hl' with rfl | hl'
      · rw [hl, hone, if_pos (his i (List.mem_cons_self _ _))]
      · exact hones (fun i' hi' => his i' (List.mem_cons_of_mem _ hi')) load' hl'

theorem serialSink_inv {st st' : SinkState} (h : sinker.serialSink env data st = .ok st') :
    ∃ loads, st'.loads = st.loads ++ loads ∧
      st'.monitor = updateSerialMonitor st.monitor data.length env.elapsedMicros ∧
      loadedImages loads = data.length ∧ ∀ load ∈ loads, load.body.length = 1 := by
  unfold serialSink at h
  obtain ⟨st₁, h₁, h⟩ := bind_eq_ok h
  cases h
  have hrange : ∀ i ∈ List.range data.length, i < data.length := fun i hi => List.mem_range.mp hi
  obtain ⟨loads, hloads, hmon, hcount, hones⟩ := sinker.foldlM_sendData_inv _ h₁
  refine ⟨loads, hloads, by rw [hmon], ?_, hones hrange⟩
  rw [hcount, List.filter_eq_self.mpr fun i hi => by simpa using hrange i hi, List.length_range]

theorem foldlM_batchSink_inv :
    ∀ (ws : List (Nat × Nat)) {st st' : SinkState}, (∀ w ∈ ws, w.1 + w.2 ≤ data.length) →
      ws.foldlM (fun st w => unwrap (sinker.batchSink env data st w.1 w.2)) st = .ok st' →
      ∃ loads added, st'.loads = st.loads ++ loads ∧ st'.monitor = st.monitor ++ added ∧
        recordsCounted added = loadedImages loads ∧
        loadedImages loads = ((ws.map fun w => (data.drop w.1).take w.2).flatten).length ∧
        ∀ load ∈ loads, ∃ w ∈ ws, load.body.length = w.2
  | [], st, st', _, h => by cases h; exact ⟨[], [], by simp, by simp, rfl, rfl, nofun⟩
  | w :: ws, st, st', hws, h => by
    rw [List.foldlM_cons] at h
    obtain ⟨st₁, h₁, h⟩ := bind_eq_ok h
    obtain ⟨load, hl₁, hlen, hm₁⟩ := sinker.batchSink_inv (unwrap_eq_ok h₁)
    obtain ⟨loads, added, hloads, hmon, hrec, himg, hsizes⟩ :=
      foldlM_batchSink_inv ws (fun w' hw' => hws w' (List.mem_cons_of_mem _ hw')) h
    have hw : ((data.drop w.1).take w.2).length = w.2 := by
      have := hws w (List.mem_cons_self _ _)
      simp only [List.length_take, List.length_drop]
      omega
    refine ⟨load :: loads, [(.recordsPerQuery, w.2, 1), (.records, w.2, 1),
      (.rtPerQuery, env.elapsedMicros, 1)] ++ added, by simp [hloads, hl₁], by
      rw [hmon, hm₁, updateBatchMonitor_eq, List.append_assoc], ?_, ?_, fun load' hl' => ?_⟩
    · simp [recordsCounted, loadedImages, hrec, hlen, hw]
    · simp [loadedImages, hlen, himg]
    · rcases List.mem_cons.mp hl' with rfl | hl'
      · exact ⟨w, List.mem_cons_self _ _, hlen.trans hw⟩
      · obtain ⟨w', hw', hsize⟩ := hsizes load' hl'
        exact ⟨w', List.mem_cons_of_mem _ hw', hsize⟩

theorem batchWindows_le {b s r : Nat} {w : Nat × Nat} (hw : w ∈ batchWindows b s r) : w.2 ≤ b := by
  obtain ⟨k, -, rfl⟩ := List.mem_map.mp hw
  exact min_le_left _ _

theorem callBatchFn_batchSink_inv (hb : 0 < sinker.batchSize) {st st' : SinkState}
    (h : callBatchFn sinker.batchSize data.length
      (fun st startIndex batchSize => unwrap (sinker.batchSink env data st startIndex batchSize))
      st = .ok st') :
    ∃ loads added, st'.loads = st.loads ++ loads ∧ st'.monitor = st.monitor ++ added ∧
      recordsCounted added = loadedImages loads ∧ loadedImages loads = data.length ∧
      ∀ load ∈ loads, 0 < load.body.length ∧ load.body.length ≤ sinker.batchSize := by
  rw [callBatchFn_eq_foldlM _ _ hb] at h
  obtain ⟨loads, added, hloads, hmon, hrec, himg, hsizes⟩ := sinker.foldlM_batchSink_inv _
    (fun w hw => by simpa using (batchWindows_bound hb hw).2) h
  refine ⟨loads, added, hloads, hmon, hrec, ?_, fun load hl => ?_⟩
  · rw [himg, batchWindows_flatten _ hb, List.drop_zero, List.take_length]
  · obtain ⟨w, hw, hsize⟩ := hsizes load hl
    rw [hsize]
    exact ⟨(batchWindows_bound hb hw).1, batchWindows_le hw⟩

theorem sinkDml_eq_ok_cases {batch : Bool} {st st' : SinkState}
    (h : sinker.sinkDml env data batch st = .ok st') :
    (data = [] ∧ st' = st) ∨ unwrap (sinker.serialSink env data st) = .ok st' ∨
      callBatchFn sinker.batchSize data.length
        (fun st startIndex batchSize => unwrap (sinker.batchSink env data st startIndex batchSize))
        st = .ok st' := by
  unfold sinkDml at h
  split at h
  · exact .inl ⟨rfl, (Except.ok.inj h).symm⟩
  · split at h
    · exact .inr (.inl h)
    · split at h
      · exact .inr (.inr h)
      · exact .inr (.inr h)
      · exact .inr (.inl h)

theorem sink_dml_records_count_rows_loaded {batch : Bool} {st st' : SinkState}
    (h : sinker.sinkDml env data batch st = .ok st') :
    ∃ loads added, st'.loads = st.loads ++ loads ∧ st'.monitor = st.monitor ++ added ∧
      recordsCounted added = loadedImages loads ∧
      (loadedImages loads = data.length ∨ (sinker.batchSize = 0 ∧ loads = [] ∧ added = [])) := by
  rcases sinker.sinkDml_eq_ok_cases h with ⟨rfl, rfl⟩ | hs | hc
  · exact ⟨[], [], by simp, by simp, rfl, .inl rfl⟩
  · obtain ⟨loads, hloads, hmon, hcount, -⟩ := sinker.serialSink_inv (unwrap_eq_ok hs)
    refine ⟨loads, _, hloads, by rw [hmon, updateSerialMonitor_eq], ?_, .inl hcount⟩
    simp [recordsCounted, hcount]
  · rcases Nat.eq_zero_or_pos sinker.batchSize with hb | hb
    · rw [hb, callBatchFn_of_batchSize_zero] at hc
      cases hc
      exact ⟨[], [], by simp, by simp, rfl, .inr ⟨hb, rfl, rfl⟩⟩
    · obtain ⟨loads, added, hloads, hmon, hrec, himg, -⟩ := sinker.callBatchFn_batchSink_inv hb hc
      exact ⟨loads, added, hloads, hmon, hrec, .inl himg⟩

theorem sink_dml_loads_within_batch_size {batch : Bool} {st st' : SinkState}
    (h : sinker.sinkDml env data batch st = .ok st') :
    ∃ loads, st'.loads = st.loads ++ loads ∧
      ∀ load ∈ loads, 0 < load.body.length ∧ load.body.length ≤ max 1 sinker.batchSize := by
  rcases sinker.sinkDml_eq_ok_cases h with ⟨-, rfl⟩ | hs | hc
  · exact ⟨[], by simp, nofun⟩
  · obtain ⟨loads, hloads, -, -, hones⟩ := sinker.serialSink_inv (unwrap_eq_ok hs)
    exact ⟨loads, hloads, fun load hl => by rw [hones load hl]; exact ⟨Nat.one_pos, le_max_left _ _⟩⟩
  · rcases Nat.eq_zero_or_pos sinker.batchSize with hb | hb
    · rw [hb, callBatchFn_of_batchSize_zero] at hc
      cases hc
      exact ⟨[], by simp, nofun⟩
    · obtain ⟨loads, -, hloads, -, -, -, hsizes⟩ := sinker.callBatchFn_batchSink_inv hb hc
      exact ⟨loads, hloads, fun load hl =>
        ⟨(hsizes load hl).1, (hsizes load hl).2.trans (le_max_right _ _)⟩⟩

end StarRocksSinker

theorem sink_dml_records_count_two_windows :
    let env : StarRocksEnv := ⟨fun _ _ => .ok ⟨200, "200 OK", "", some "Success"⟩, 0⟩
    let sinker : StarRocksSinker := ⟨2, "localhost", "8030", "root", ""⟩
    let image (i : BitVec 32) : ColMap := (∅ : ColMap).insert "id" (.long i)
    let data : List RowData := [1, 2, 3].map fun i => ⟨"db", "t", .insert, none, some (image i), 0⟩
    ∃ st', sinker.sinkDml env data true ⟨[], []⟩ = .ok st' ∧
      ∃ loads added, st'.loads = [] ++ loads ∧ st'.monitor = [] ++ added ∧
        recordsCounted added = loadedImages loads ∧
        (loadedImages loads = data.length ∨ (sinker.batchSize = 0 ∧ loads = [] ∧ added = [])) := by
  intro env sinker image data
  have hok : (sinker.sinkDml env data true ⟨[], []⟩).isOk = true := by decide
  cases hd : sinker.sinkDml env data true ⟨[], []⟩ with
  | error e => rw [hd] at hok; cases hok
  | ok st' => exact ⟨st', rfl, sinker.sink_dml_records_count_rows_loaded hd⟩

theorem sink_dml_loads_of_three_inserts :
    let env : StarRocksEnv := ⟨fun _ _ => .ok ⟨200, "200 OK", "", some "Success"⟩, 0⟩
    let sinker : StarRocksSinker := ⟨2, "localhost", "8030", "root", ""⟩
    let image (i : BitVec 32) : ColMap := (∅ : ColMap).insert "id" (.long i)
    let data : List RowData := [1, 2, 3].map fun i => ⟨"db", "t", .insert, none, some (image i), 0⟩
    ∃ st', sinker.sinkDml env data true ⟨[], []⟩ = .ok st' ∧
      ∃ loads, st'.loads = [] ++ loads ∧
        ∀ load ∈ loads, 0 < load.body.length ∧ load.body.length ≤ max 1 sinker.batchSize := by
  intro env sinker image data
  have hok : (sinker.sinkDml env data true ⟨[], []⟩).isOk = true := by decide
  cases hd : sinker.sinkDml env data true ⟨[], []⟩ with
  | error e => rw [hd] at hok; cases hok
  | ok st' => exact ⟨st', rfl, sinker.sink_dml_loads_within_batch_size hd⟩

end CubetranCore.Sinker
