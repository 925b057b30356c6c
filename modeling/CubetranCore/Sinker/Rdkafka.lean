import CubetranCore.Sinker.BaseSinker

namespace CubetranCore

/-- `RowData::convert_raw_string`, with `convert` the rewrite it makes of one image; it leaves the
row's table and type alone. -/
def RowData.convertRawString (convert : ColMap → ColMap) (rowData : RowData) : RowData :=
  { rowData with before := rowData.before.map convert, after := rowData.after.map convert }

end CubetranCore

namespace CubetranCore.Sinker

/-- A record handed to `producer.send`: its topic, Avro key and Avro payload. -/
structure KafkaRecord where
  topic : String
  key : List UInt8
  payload : List UInt8

/-- What the Kafka sinker reads of the world, none of it under src/: the rewrite
`convert_raw_string` makes of an image, `router.get_topic`, the Avro converter's key and value of a
row, the delivery outcome of a record given the records handed to the producer before it (the
`Debug` text of the producer's error when it fails), and `start_time.elapsed()` in microseconds. -/
structure KafkaEnv where
  convertImage : ColMap → ColMap
  getTopic : String → String → String
  rowDataToAvroKey : RowData → Except Error (List UInt8)
  rowDataToAvroValue : RowData → Except Error (List UInt8)
  send : List KafkaRecord → KafkaRecord → Except String Unit
  elapsedMicros : Nat

/-- What `sink_dml` changes: the records handed to the producer, oldest first, and the monitor. -/
structure KafkaState where
  sent : List KafkaRecord
  monitor : Monitor

namespace RdkafkaSinker

variable (env : KafkaEnv)

/-- One turn of the first loop of `send_avro`, up to the push of its future: the record the future
hands to the producer once it is awaited, or the converter's Err. -/
def avroRecord (rowData : RowData) : Except Error KafkaRecord := do
  let rowData := rowData.convertRawString env.convertImage
  let topic := env.getTopic rowData.schema rowData.tb
  let key ← env.rowDataToAvroKey rowData
  let payload ← env.rowDataToAvroValue rowData
  pure ⟨topic, key, payload⟩

/-- The first loop of `send_avro`: one future per row, pushed in order. A future runs nothing
until it is awaited, so it stands for the record it will send. -/
def buildFutures : List RowData → List KafkaRecord → Except Error (List KafkaRecord)
  | [], futures => .ok futures
  | rowData :: data, futures => do
      let record ← avroRecord env rowData
      buildFutures data (futures ++ [record])

/-- The second loop of `send_avro`: each future, awaited in turn, hands its record to the producer
and waits for its delivery; the first failed delivery ends the loop with the producer's error. -/
def awaitFutures : List KafkaRecord → List KafkaRecord → List KafkaRecord × Except Error Unit
  | sent, [] => (sent, .ok ())
  | sent, record :: futures =>
      match env.send sent record with
      | .ok () => awaitFutures (sent ++ [record]) futures
      | .error err =>
          (sent ++ [record], .error (.other ("failed in kafka producer, error: " ++ err)))

def sendAvro (data : List RowData) (st : KafkaState) : KafkaState × Except Error Unit :=
  let batchSize := data.length
  match buildFutures env data [] with
  | .error e => (st, .error e)
  | .ok futures =>
      match awaitFutures env st.sent futures with
      | (sent, .error e) => ({ st with sent := sent }, .error e)
      | (sent, .ok ()) => (⟨sent, updateBatchMonitor st.monitor batchSize env.elapsedMicros⟩, .ok ())

def sinkDml (data : List RowData) (_batch : Bool) (st : KafkaState) :
    KafkaState × Except Error Unit :=
  if data.isEmpty then (st, .ok ()) else sendAvro env data st

def RecordOf (rowData : RowData) (record : KafkaRecord) : Prop :=
  record.topic = env.getTopic rowData.schema rowData.tb ∧
    env.rowDataToAvroKey (rowData.convertRawString env.convertImage) = .ok record.key ∧
    env.rowDataToAvroValue (rowData.convertRawString env.convertImage) = .ok record.payload

theorem avroRecord_eq_ok_iff {rowData : RowData} {record : KafkaRecord} :
    avroRecord env rowData = .ok record ↔ RecordOf env rowData record := by
  obtain ⟨topic, key, payload⟩ := record
  simp only [avroRecord, RecordOf, RowData.convertRawString]
  cases env.rowDataToAvroKey _ <;> cases env.rowDataToAvroValue _ <;>
    simp [bind, Except.bind, pure, Except.pure, eq_comm]

theorem buildFutures_of_forall₂ {data : List RowData} {records : List KafkaRecord}
    (h : List.Forall₂ (RecordOf env) data records) (futures : List KafkaRecord) :
    buildFutures env data futures = .ok (futures ++ records) := by
  induction h generalizing futures with
  | nil => simp [buildFutures]
  | cons hr _ ih =>
    rw [buildFutures, (avroRecord_eq_ok_iff env).mpr hr, ok_bind, ih, List.append_assoc]
    rfl

theorem buildFutures_ok :
    ∀ {data : List RowData} {futures rs : List KafkaRecord}, buildFutures env data futures = .ok rs →
      ∃ records, List.Forall₂ (RecordOf env) data records ∧ rs = futures ++ records
  | [], _, _, h => by cases h; exact ⟨[], .nil, by simp⟩
  | _ :: _, _, _, h => by
    obtain ⟨r, hr, h⟩ := bind_eq_ok h
    obtain ⟨records, hf, rfl⟩ := buildFutures_ok h
    exact ⟨r :: records, .cons ((avroRecord_eq_ok_iff env).mp hr) hf, by simp⟩

def Delivered (sent records : List KafkaRecord) (n : Nat) : Prop :=
  ∀ i (hi : i < records.length), i < n → env.send (sent ++ records.take i) records[i] = .ok ()

theorem delivered_cons {sent : List KafkaRecord} {record : KafkaRecord}
    {records : List KafkaRecord} {n : Nat} :
    Delivered env sent (record :: records) (n + 1) ↔
      env.send sent record = .ok () ∧ Delivered env (sent ++ [record]) records n := by
  constructor
  · intro h
    refine ⟨by simpa using h 0 (by simp) (by omega), fun i hi hin => ?_⟩
    simpa using h (i + 1) (by simpa using hi) (by omega)
  · rintro ⟨h0, h⟩ i hi hin
    cases i with
    | zero => simpa using h0
    | succ i => simpa using h i (by simpa using hi) (by omega)

theorem awaitFutures_ok :
    ∀ {sent records : List KafkaRecord}, Delivered env sent records records.length →
      awaitFutures env sent records = (sent ++ records, .ok ())
  | _, [], _ => by simp [awaitFutures]
  | _, _ :: _, h => by
    obtain ⟨h0, h⟩ := (delivered_cons env).mp h
    rw [awaitFutures, h0]
    simp only
    rw [awaitFutures_ok h]
    simp

theorem awaitFutures_error {err : String} :
    ∀ {sent records : List KafkaRecord} {j : Nat} (hj : j < records.length),
      Delivered env sent records j → env.send (sent ++ records.take j) records[j] = .error err →
      awaitFutures env sent records =
        (sent ++ records.take (j + 1), .error (.other ("failed in kafka producer, error: " ++ err)))
  | _, [], _, hj, _, _ => absurd hj (Nat.not_lt_zero _)
  | _, _ :: _, 0, _, _, herr => by
    rw [awaitFutures, show env.send _ _ = _ by simpa using herr]
    simp
  | _, _ :: _, j + 1, hj, h, herr => by
    obtain ⟨h0, h⟩ := (delivered_cons env).mp h
    rw [awaitFutures, h0]
    simp only
    rw [awaitFutures_error (by simpa using hj) h (by simpa using herr)]
    simp

theorem awaitFutures_ok_iff :
    ∀ {sent records : List KafkaRecord},
      (awaitFutures env sent records).2 = .ok () ↔ Delivered env sent records records.length
  | _, [] => by simp [awaitFutures, Delivered]
  | sent, record :: records => by
    rw [List.length_cons, delivered_cons, awaitFutures]
    cases env.send sent record with
    | error err => simp
    | ok u => simp [awaitFutures_ok_iff]

theorem sinkDml_of_ne_nil {data : List RowData} (hdata : data ≠ []) (batch : Bool) (st : KafkaState) :
    sinkDml env data batch st = sendAvro env data st := by
  simp [sinkDml, List.isEmpty_iff, hdata]

end RdkafkaSinker

open RdkafkaSinker in
theorem rdkafka_sink_dml_delivery (env : KafkaEnv) (data : List RowData) (batch : Bool)
    (st : KafkaState) (hdata : data ≠ []) :
    ((¬ ∃ records, List.Forall₂ (RecordOf env) data records) →
      (sinkDml env data batch st).1 = st ∧ ∃ e, (sinkDml env data batch st).2 = .error e) ∧
    (∀ records, List.Forall₂ (RecordOf env) data records →
      (Delivered env st.sent records records.length →
        sinkDml env data batch st =
          (⟨st.sent ++ records, updateBatchMonitor st.monitor data.length env.elapsedMicros⟩, .ok ())) ∧
      ∀ j (hj : j < records.length) err, Delivered env st.sent records j →
        env.send (st.sent ++ records.take j) records[j] = .error err →
        sinkDml env data batch st = (⟨st.sent ++ records.take (j + 1), st.monitor⟩,
          .error (.other ("failed in kafka producer, error: " ++ err)))) ∧
    ((sinkDml env data batch st).2 = .ok () ↔
      ∃ records, List.Forall₂ (RecordOf env) data records ∧
        Delivered env st.sent records records.length) := by
  rw [sinkDml_of_ne_nil env hdata]
  refine ⟨fun hno => ?_, fun records hf => ⟨fun hall => ?_, fun j hj err hbefore herr => ?_⟩, ?_⟩
  · cases hb : buildFutures env data [] with
    | error e => exact ⟨by simp [sendAvro, hb], e, by simp [sendAvro, hb]⟩
    | ok rs =>
      obtain ⟨records, hf, -⟩ := buildFutures_ok env hb
      exact absurd ⟨records, hf⟩ hno
  · simp only [sendAvro, buildFutures_of_forall₂ env hf, List.nil_append, awaitFutures_ok env hall]
  · simp only [sendAvro, buildFutures_of_forall₂ env hf, List.nil_append,
      awaitFutures_error env hj hbefore herr]
  · constructor
    · intro h
      cases hb : buildFutures env data [] with
      | error e => simp [sendAvro, hb] at h
      | ok rs =>
        obtain ⟨records, hf, hrs⟩ := buildFutures_ok env hb
        rw [List.nil_append] at hrs
        subst hrs
        refine ⟨rs, hf, (awaitFutures_ok_iff env).mp ?_⟩
        simp only [sendAvro, hb] at h
        split at h
        next => cases h
        next heq => rw [heq]
    · rintro ⟨records, hf, hall⟩
      simp only [sendAvro, buildFutures_of_forall₂ env hf, List.nil_append, awaitFutures_ok env hall]

open RdkafkaSinker in
theorem rdkafka_sink_dml_second_delivery_fails :
    let env : KafkaEnv := ⟨id, fun schema tb => schema ++ "." ++ tb, fun _ => .ok [1],
      fun _ => .ok [2], fun sent _ => if sent.isEmpty then .ok () else .error "timeout", 7⟩
    let data : List RowData :=
      [⟨"db", "t1", .insert, none, some ∅, 0⟩, ⟨"db", "t2", .insert, none, some ∅, 0⟩]
    data ≠ [] ∧ sinkDml env data true ⟨[], []⟩ =
      (⟨[⟨"db.t1", [1], [2]⟩, ⟨"db.t2", [1], [2]⟩], []⟩,
        .error (.other "failed in kafka producer, error: timeout")) := by
  intro env data
  have hf : List.Forall₂ (RecordOf env) data [⟨"db.t1", [1], [2]⟩, ⟨"db.t2", [1], [2]⟩] :=
    .cons ⟨by decide, rfl, rfl⟩ (.cons ⟨by decide, rfl, rfl⟩ .nil)
  have hfirst : Delivered env [] [⟨"db.t1", [1], [2]⟩, ⟨"db.t2", [1], [2]⟩] 1 := by
    intro i hi hi1
    obtain rfl : i = 0 := by omega
    rfl
  exact ⟨by simp [data], ((rdkafka_sink_dml_delivery env data true ⟨[], []⟩ (by simp [data])).2.1 _ hf).2
    1 (by decide) "timeout" hfirst rfl⟩

end CubetranCore.Sinker
