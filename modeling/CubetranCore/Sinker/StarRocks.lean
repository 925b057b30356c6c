import CubetranCore.Sinker.BaseSinker

namespace CubetranCore.Sinker

structure StarRocksSinker where
  batchSize : Nat
  host : String
  port : String
  username : String
  password : String

/-- A stream load as `build_request` builds it: a `PUT` to `url` with basic auth and `headers`,
whose body is the JSON array of `body`. -/
structure StreamLoad where
  url : String
  username : String
  password : Option String
  headers : List (String × String)
  body : List ColMap

/-- A stream load response: its status code as a number and as `StatusCode` displays it, its text,
and the `Status` field of that text read as JSON (`none` when the text is not JSON, `""` when it
has no string `Status`). -/
structure LoadResponse where
  statusCode : Nat
  statusDisplay : String
  text : String
  status : Option String

/-- What the sinker reads of the world: the server's answer to a load given the loads it received
before (`client.execute`), and `start_time.elapsed()` in microseconds. -/
structure StarRocksEnv where
  execute : List StreamLoad → StreamLoad → Except Error LoadResponse
  elapsedMicros : Nat

/-- What `sink_dml` changes: the loads sent to the server, oldest first, and the monitor. -/
structure SinkState where
  loads : List StreamLoad
  monitor : Monitor

/-- The image `send_data` pushes for a row when the window starts with a row of type `rowType`. -/
def loadImage (rowType : RowType) (rd : RowData) : Option ColMap :=
  if rowType = .delete then rd.before else rd.after

/-- The `op` of `send_data` for a window that starts with a row of type `rowType`. -/
def loadOp (rowType : RowType) : String :=
  if rowType = .delete then "delete" else ""

def checkResponse (response : LoadResponse) : Except Fault Unit := do
  if response.statusCode ≠ 200 then
    throw (.error (.httpError
      ("stream load request failed, status_code: " ++ response.statusDisplay)))
  let status ← unwrapSome response.status
  if status ≠ "Success" then
    throw (.error (.httpError ("stream load request failed, status_code: " ++
      response.statusDisplay ++ ", load_result: " ++ response.text)))
  pure ()

namespace StarRocksSinker

variable (sinker : StarRocksSinker) (env : StarRocksEnv)

def buildRequest (url op : String) (body : List ColMap) : StreamLoad :=
  let password := if sinker.password.isEmpty then none else some sinker.password
  let headers := [("expect", "100-continue"), ("format", "json"), ("strip_outer_array", "true")]
  let headers :=
    if op.isEmpty then headers else headers ++ [("columns", "__op=\x27" ++ op ++ "\x27")]
  ⟨url, sinker.username, password, headers, body⟩

/-- The `format!` of `send_data`'s stream load url. -/
def loadUrl (db tb : String) : String :=
  "http://" ++ sinker.host ++ ":" ++ sinker.port ++ "/api/" ++ db ++ "/" ++ tb ++ "/_stream_load"

/-- `send_data`: one stream load of the rows `start_index .. start_index + batch_size - 1`;
returns the sum of their `data_size`. -/
def sendData (data : List RowData) (startIndex batchSize : Nat) (st : SinkState) :
    Except Fault (SinkState × Nat) := do
  let rows := (data.drop startIndex).take batchSize
  let loadData ← rows.mapM fun rd => do
    let first ← unwrapSome data[startIndex]?
    unwrapSome (loadImage first.rowType rd)
  let first ← unwrapSome data[startIndex]?
  let request :=
    sinker.buildRequest (sinker.loadUrl first.schema first.tb) (loadOp first.rowType) loadData
  let response ← unwrap (env.execute st.loads request)
  unwrap (checkResponse response)
  pure ({ st with loads := st.loads ++ [request] }, rows.foldl (fun dataSize rd => dataSize + rd.dataSize) 0)

def batchSink (data : List RowData) (st : SinkState) (startIndex batchSize : Nat) :
    Except Fault SinkState := do
  let (st, _) ← sinker.sendData env data startIndex batchSize st
  pure { st with monitor := updateBatchMonitor st.monitor batchSize env.elapsedMicros }

def serialSink (data : List RowData) (st : SinkState) : Except Fault SinkState := do
  let st ← (List.range data.length).foldlM
    (fun st i => Prod.fst <$> sinker.sendData env data i 1 st) st
  pure { st with monitor := updateSerialMonitor st.monitor data.length env.elapsedMicros }

def sinkDml (data : List RowData) (batch : Bool) (st : SinkState) : Except Fault SinkState :=
  match data with
  | [] => .ok st
  | first :: _ =>
    if !batch then unwrap (sinker.serialSink env data st)
    else
      match first.rowType with
      | .insert | .delete =>
        callBatchFn sinker.batchSize data.length
          (fun st startIndex batchSize => unwrap (sinker.batchSink env data st startIndex batchSize)) st
      | .update => unwrap (sinker.serialSink env data st)

end StarRocksSinker

end CubetranCore.Sinker
