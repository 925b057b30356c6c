import CubetranCore.Pipeline.Fetch

namespace CubetranCore.Pipeline

variable {P Q : Type}

structure Syncer (P : Type) where
  receivedPosition : P
  committedPosition : P

def Syncer.mapPosition (f : P → Q) (s : Syncer P) : Syncer Q :=
  ⟨f s.receivedPosition, f s.committedPosition⟩

structure DataMarker where
  dataOriginNode : String

/-- A call `start` makes on the parallelizer or on one sinker. -/
inductive SinkCall where
  | sinkDml (data : List RowData)
  | sinkDdl (data : List DdlData)
  | refreshMeta (sinker : Nat) (data : List DdlData)
  | sinkRaw (data : List DtData)

structure PipelineConfig where
  sinkers : Nat
  luaProcessor : Option (List RowData → Except Error (List RowData))
  accepts : SinkCall → Bool

/-- The fields of `BasePipeline` that `start` writes, with its loop-local positions. -/
structure BasePipeline (P : Type) where
  syncer : Syncer P
  dataMarker : Option DataMarker
  monitor : Monitor
  calls : List SinkCall
  lastReceivedPosition : Option P
  lastCommitPosition : Option P

def BasePipeline.init (syncer : Syncer P) (dataMarker : Option DataMarker) : BasePipeline P :=
  ⟨syncer, dataMarker, [], [], none, none⟩

def BasePipeline.mapPosition (f : P → Q) (s : BasePipeline P) : BasePipeline Q :=
  ⟨s.syncer.mapPosition f, s.dataMarker, s.monitor, s.calls, s.lastReceivedPosition.map f,
    s.lastCommitPosition.map f⟩

/-- What a `sink_*` function returns to `start`: count, last received and last commit positions,
with the calls made so far. -/
abbrev Sunk (P : Type) := Nat × Option P × Option P × List SinkCall

def Sunk.mapPosition (f : P → Q) (r : Sunk P) : Sunk Q :=
  (r.1, r.2.1.map f, r.2.2.1.map f, r.2.2.2)

section Calls

variable (cfg : PipelineConfig)

def call (c : SinkCall) (calls : List SinkCall) : Except Fault (List SinkCall) :=
  if cfg.accepts c then .ok (calls ++ [c]) else .error .panic

/-- `sink_raw` after `fetch_raw`: the parallelizer gets the payloads, if any. -/
def deliverRaw (data : List DtData) (calls : List SinkCall) : Except Fault (List SinkCall) :=
  if 0 < data.length then call cfg (.sinkRaw data) calls else pure calls

def process (data : List RowData) : Except Fault (List RowData) :=
  match cfg.luaProcessor with
  | some luaProcessor => (luaProcessor data).mapError Fault.error
  | none => pure data

/-- `sink_dml` after `fetch_dml`: the Lua processor, then the parallelizer. -/
def deliverDml (data : List RowData) (calls : List SinkCall) : Except Fault (List SinkCall) :=
  if 0 < data.length then do
    let data ← process cfg data
    call cfg (.sinkDml data) calls
  else pure calls

/-- Every sinker refreshes its metadata, in order, whether or not it executed the DDL. -/
def refreshMeta (data : List DdlData) (calls : List SinkCall) : Except Fault (List SinkCall) :=
  (List.range cfg.sinkers).foldlM (fun calls k => call cfg (.refreshMeta k data) calls) calls

/-- `sink_ddl` after `fetch_ddl`: the parallelizer, then `refresh_meta` on every sinker. -/
def deliverDdl (data : List DdlData) (calls : List SinkCall) : Except Fault (List SinkCall) :=
  if 0 < data.length then do
    let calls ← call cfg (.sinkDdl data) calls
    refreshMeta cfg data calls
  else pure calls

def sinkRaw (allData : List (DtItem P)) (calls : List SinkCall) : Except Fault (Sunk P) :=
  let (data, lastReceivedPosition, lastCommitPosition) := fetchRaw allData
  (deliverRaw cfg data calls).map (data.length, lastReceivedPosition, lastCommitPosition, ·)

def sinkDml (allData : List (DtItem P)) (calls : List SinkCall) : Except Fault (Sunk P) :=
  let (data, lastReceivedPosition, lastCommitPosition) := fetchDml allData
  (deliverDml cfg data calls).map (data.length, lastReceivedPosition, lastCommitPosition, ·)

def sinkDdl (allData : List (DtItem P)) (calls : List SinkCall) : Except Fault (Sunk P) :=
  let (data, lastReceivedPosition, lastCommitPosition) := fetchDdl allData
  (deliverDdl cfg data calls).map (data.length, lastReceivedPosition, lastCommitPosition, ·)

def sink (data : List (DtItem P)) (calls : List SinkCall) : Except Fault (Sunk P) :=
  match getSinkMethod data with
  | .ddl => sinkDdl cfg data calls
  | .dml => sinkDml cfg data calls
  | .raw => sinkRaw cfg data calls

def recordCheckpoint (checkpointDue : Bool) (lastCommitPosition : Option P) (syncer : Syncer P) :
    Syncer P :=
  if checkpointDue then
    match lastCommitPosition with
    | some position => { syncer with committedPosition := position }
    | none => syncer
  else syncer

def updateDataMarker : Option DataMarker → List (DtItem P) → Option DataMarker
  | some dataMarker, i :: _ => some { dataMarker with dataOriginNode := i.dataOriginNode }
  | dataMarker, _ => dataMarker

/-- One pass of the loop of `start` after `parallelizer.drain` handed it `data`. -/
def dispatch (s : BasePipeline P) (data : List (DtItem P)) (checkpointDue : Bool) :
    Except Fault (BasePipeline P) := do
  let dataMarker := updateDataMarker s.dataMarker data
  let (count, lastReceived, lastCommit, calls) ← unwrap (sink cfg data s.calls)
  let syncer := match lastReceived with
    | some position => { s.syncer with receivedPosition := position }
    | none => s.syncer
  let lastCommitPosition := lastCommit.or s.lastCommitPosition
  pure ⟨recordCheckpoint checkpointDue lastCommitPosition syncer, dataMarker,
    s.monitor.addCounter .sinkedCount count, calls, lastReceived.or s.lastReceivedPosition,
    lastCommitPosition⟩

/-- The `BufferSize` counter the top of each pass of the loop adds, only when the queue is not
empty. -/
def recordBufferSize (s : BasePipeline P) (buffer : List (DtItem P)) : BasePipeline P :=
  { s with monitor :=
      if !buffer.isEmpty then s.monitor.addCounter .bufferSize buffer.length else s.monitor }

/-- `start` from `s` over `queue`, a tick `(n, checkpointDue)` draining the first `n` items. -/
def runTicks : BasePipeline P → List (DtItem P) → List (Nat × Bool) →
    Except Fault (BasePipeline P × List (DtItem P))
  | s, queue, [] => .ok (s, queue)
  | s, queue, (n, checkpointDue) :: ticks => do
      let s ← dispatch cfg (recordBufferSize s queue) (queue.take n) checkpointDue
      runTicks s (queue.drop n) ticks

@[simp] theorem recordBufferSize_calls (s : BasePipeline P) (buffer : List (DtItem P)) :
    (recordBufferSize s buffer).calls = s.calls := rfl

@[simp] theorem recordBufferSize_syncer (s : BasePipeline P) (buffer : List (DtItem P)) :
    (recordBufferSize s buffer).syncer = s.syncer := rfl

@[simp] theorem recordBufferSize_lastReceivedPosition (s : BasePipeline P) (buffer : List (DtItem P)) :
    (recordBufferSize s buffer).lastReceivedPosition = s.lastReceivedPosition := rfl

@[simp] theorem recordBufferSize_lastCommitPosition (s : BasePipeline P) (buffer : List (DtItem P)) :
    (recordBufferSize s buffer).lastCommitPosition = s.lastCommitPosition := rfl

theorem dispatch_sink {s s' : BasePipeline P} {data : List (DtItem P)} {due : Bool}
    (h : dispatch cfg s data due = .ok s') :
    ∃ count r c, sink cfg data s.calls = .ok (count, r, c, s'.calls) := by
  unfold dispatch at h
  rcases hs : sink cfg data s.calls with _ | ⟨count, r, c, calls⟩ <;> rw [hs] at h
  · cases h
  · cases h; exact ⟨count, r, c, rfl⟩

end Calls

theorem dispatch_drops_ddl_behind_dml :
    dispatch ⟨1, none, fun _ => true⟩ (.init ⟨0, 0⟩ none)
      [⟨.dml ⟨"db1", "t", .insert, none, some ∅, 0⟩, 1, ""⟩,
        ⟨.ddl ⟨"db1", "t", "alter table t add c int", .alterTable⟩, 2, ""⟩, ⟨.commit, 3, ""⟩] false =
      .ok ⟨⟨3, 0⟩, none, [(.sinkedCount, 1, 1)], [.sinkDml [⟨"db1", "t", .insert, none, some ∅, 0⟩]],
        some 3, some 3⟩ :=
  rfl

theorem dispatch_sinks_dml_past_unrefreshed_ddl :
    dispatch ⟨2, none, fun _ => true⟩ (.init ⟨0, 0⟩ none)
      [⟨.dml ⟨"db1", "t", .insert, none, some ∅, 0⟩, 1, ""⟩,
        ⟨.ddl ⟨"db1", "t", "alter table t add c int", .alterTable⟩, 2, ""⟩,
        ⟨.dml ⟨"db1", "t", .insert, none, some ∅, 0⟩, 3, ""⟩] false =
      .ok ⟨⟨3, 0⟩, none, [(.sinkedCount, 2, 1)],
        [.sinkDml [⟨"db1", "t", .insert, none, some ∅, 0⟩, ⟨"db1", "t", .insert, none, some ∅, 0⟩]],
        some 3, none⟩ :=
  rfl

section Naturality

variable (cfg : PipelineConfig) (f : P → Q)

theorem sinkRaw_map (data : List (DtItem P)) (calls : List SinkCall) :
    sinkRaw cfg (data.map (DtItem.mapPosition f)) calls =
      (sinkRaw cfg data calls).map (Sunk.mapPosition f) := by
  unfold sinkRaw
  rw [fetchRaw_map]
  obtain ⟨d, r, c⟩ := fetchRaw data
  dsimp only
  cases deliverRaw cfg d calls <;> rfl

theorem sinkDml_map (data : List (DtItem P)) (calls : List SinkCall) :
    sinkDml cfg (data.map (DtItem.mapPosition f)) calls =
      (sinkDml cfg data calls).map (Sunk.mapPosition f) := by
  unfold sinkDml fetchDml
  rw [fetchWith_map _ rfl]
  obtain ⟨d, r, c⟩ := fetchWith DtData.dmlRow data
  dsimp only
  cases deliverDml cfg d calls <;> rfl

theorem sinkDdl_map (data : List (DtItem P)) (calls : List SinkCall) :
    sinkDdl cfg (data.map (DtItem.mapPosition f)) calls =
      (sinkDdl cfg data calls).map (Sunk.mapPosition f) := by
  unfold sinkDdl fetchDdl
  rw [fetchWith_map _ rfl]
  obtain ⟨d, r, c⟩ := fetchWith DtData.ddlData data
  dsimp only
  cases deliverDdl cfg d calls <;> rfl

theorem sink_map (data : List (DtItem P)) (calls : List SinkCall) :
    sink cfg (data.map (DtItem.mapPosition f)) calls = (sink cfg data calls).map (Sunk.mapPosition f) := by
  unfold sink
  rw [getSinkMethod_map]
  split
  · exact sinkDdl_map cfg f data calls
  · exact sinkDml_map cfg f data calls
  · exact sinkRaw_map cfg f data calls

theorem updateDataMarker_map (dataMarker : Option DataMarker) (data : List (DtItem P)) :
    updateDataMarker dataMarker (data.map (DtItem.mapPosition f)) = updateDataMarker dataMarker data := by
  cases dataMarker <;> cases data <;> rfl

theorem recordCheckpoint_map (due : Bool) (lastCommit : Option P) (syncer : Syncer P) :
    recordCheckpoint due (lastCommit.map f) (syncer.mapPosition f) =
      (recordCheckpoint due lastCommit syncer).mapPosition f := by
  cases due <;> cases lastCommit <;> rfl

theorem dispatch_map (s : BasePipeline P) (data : List (DtItem P)) (due : Bool) :
    dispatch cfg (s.mapPosition f) (data.map (DtItem.mapPosition f)) due =
      (dispatch cfg s data due).map (BasePipeline.mapPosition f) := by
  obtain ⟨syncer, dataMarker, monitor, calls, lastReceived, lastCommit⟩ := s
  unfold dispatch
  rw [show (BasePipeline.mapPosition f ⟨syncer, dataMarker, monitor, calls, lastReceived, lastCommit⟩).calls
    = calls from rfl, sink_map, updateDataMarker_map]
  rcases sink cfg data calls with _ | ⟨count, r, c, calls⟩
  · rfl
  · cases r <;> cases c <;> cases lastCommit <;> cases due <;> rfl

theorem recordBufferSize_map (s : BasePipeline P) (queue : List (DtItem P)) :
    recordBufferSize (s.mapPosition f) (queue.map (DtItem.mapPosition f)) =
      (recordBufferSize s queue).mapPosition f := by
  cases queue <;> simp [recordBufferSize, BasePipeline.mapPosition]

theorem runTicks_map (s : BasePipeline P) (queue : List (DtItem P)) (ticks : List (Nat × Bool)) :
    runTicks cfg (s.mapPosition f) (queue.map (DtItem.mapPosition f)) ticks =
      (runTicks cfg s queue ticks).map
        (fun r => (r.1.mapPosition f, r.2.map (DtItem.mapPosition f))) := by
  induction ticks generalizing s queue with
  | nil => rfl
  | cons t ticks ih =>
      obtain ⟨n, due⟩ := t
      simp only [runTicks, ← List.map_take, ← List.map_drop, recordBufferSize_map, dispatch_map]
      cases dispatch cfg (recordBufferSize s queue) (queue.take n) due with
      | error e => rfl
      | ok s' => exact ih s' (queue.drop n)

end Naturality

end CubetranCore.Pipeline
