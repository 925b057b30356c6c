import Mathlib.Data.List.Infix
import CubetranCore.PgCdc.Message
import CubetranCore.Pipeline.Dispatch

namespace CubetranCore.PgCdc

variable {T : Type}

/-- `PgTbMeta`; `T` stands for `PgColType`, whose declaration is not under src/. -/
structure PgTbMeta (T : Type) where
  schema : String
  tb : String
  cols : List String
  colTypeMap : AList (fun _ : String => T)
  whereCols : List String

/-- `type_registry.oid_to_type`, and the store `update_tb_meta_by_oid` writes, keyed by
`rel_id as i32`. -/
structure PgMetaManager (T : Type) where
  oidToType : UInt32 → Option T
  oidToTbMeta : AList (fun _ : Int => PgTbMeta T)

/-- What the extractor calls outside src/: `get_tb_meta`, `PgColValueConvertor::from_wal`,
`RdbFilter::filter`, and the microseconds since the Postgres epoch at a reply. -/
structure PgCdcEnv (T : Type) where
  getTbMeta : String → String → Except Error (PgTbMeta T)
  fromWal : T → List UInt8 → Except Error ColValue
  filter : String → String → RowType → Bool
  pgEpochMicros : Int

structure PgCdcExtractor (T : Type) where
  metaManager : PgMetaManager T
  buffer : List RowData
  statusUpdates : List StandbyStatusUpdate

def PgCdcExtractor.init (oidToType : UInt32 → Option T) : PgCdcExtractor T :=
  ⟨⟨oidToType, ∅⟩, [], []⟩

/-- `rel_id as i32`: the two's-complement reading of a `u32` (2147483648 is 2^31). -/
def relIdAsI32 (r : UInt32) : Int :=
  if r.toNat < 2147483648 then r.toNat else r.toNat - 4294967296

namespace PgMetaManager

/-- Modelled from the spec: `get_tb_meta_by_oid` is not under src/; it reads the store, and an
unknown relation OID is a `MetadataError` (§7). -/
def getTbMetaByOid (m : PgMetaManager T) (oid : Int) : Except Fault (PgTbMeta T) :=
  match m.oidToTbMeta.lookup oid with
  | some tbMeta => .ok tbMeta
  | none => .error (.error (.metadataError ("no tb_meta found for oid: " ++ toString oid)))

theorem getTbMetaByOid_ok {m : PgMetaManager T} {oid : Int} {tbMeta : PgTbMeta T}
    (h : m.getTbMetaByOid oid = .ok tbMeta) : m.oidToTbMeta.lookup oid = some tbMeta := by
  unfold getTbMetaByOid at h
  split at h <;> cases h
  assumption

/-- Modelled from the spec: `update_tb_meta_by_oid` is not under src/; it writes the store. -/
def updateTbMetaByOid (m : PgMetaManager T) (oid : Int) (tbMeta : PgTbMeta T) : PgMetaManager T :=
  { m with oidToTbMeta := m.oidToTbMeta.insert oid tbMeta }

end PgMetaManager

section Decode

variable (env : PgCdcEnv T)

/-- The column loop of `decode_relation`: each column's type, by the registry, and its name. -/
def insertColumns (oidToType : UInt32 → Option T) :
    List Column → AList (fun _ : String => T) × List String →
      Except Fault (AList (fun _ : String => T) × List String)
  | [], acc => .ok acc
  | column :: columns, (colTypeMap, colNames) => do
      let colType ← unwrapSome (oidToType column.typeId)
      insertColumns oidToType columns (colTypeMap.insert column.name colType, colNames ++ [column.name])

def relationMeta (oidToType : UInt32 → Option T) (event : RelationBody) :
    Except Fault (PgTbMeta T) := do
  let tbMeta ← (env.getTbMeta event.nspace event.name).mapError Fault.error
  let (colTypeMap, colNames) ← insertColumns oidToType event.columns (tbMeta.colTypeMap, [])
  pure { tbMeta with colTypeMap := colTypeMap, cols := colNames }

def decodeRelation (ext : PgCdcExtractor T) (event : RelationBody) :
    Except Fault (PgCdcExtractor T) := do
  let tbMeta ← relationMeta env ext.metaManager.oidToType event
  pure { ext with metaManager := ext.metaManager.updateTbMetaByOid (relIdAsI32 event.relId) tbMeta }

def parseRowDataFrom (tbMeta : PgTbMeta T) : Nat → List TupleData → ColMap → Except Fault ColMap
  | _, [], colValues => .ok colValues
  | i, tupleData :: rest, colValues => do
      let col ← unwrapSome tbMeta.cols[i]?
      let colType ← unwrapSome (tbMeta.colTypeMap.lookup col)
      match tupleData with
      | .null => parseRowDataFrom tbMeta (i + 1) rest (colValues.insert col .none)
      | .text value =>
          let colValue ← (env.fromWal colType value).mapError Fault.error
          parseRowDataFrom tbMeta (i + 1) rest (colValues.insert col colValue)
      | .unchangedToast => .error (.error (.unexpected "unexpected UnchangedToast value received"))

def parseRowData (tbMeta : PgTbMeta T) (tupleData : List TupleData) : Except Fault ColMap :=
  parseRowDataFrom env tbMeta 0 tupleData ∅

def pushRowToBuf (ext : PgCdcExtractor T) (rowData : RowData) : PgCdcExtractor T :=
  if env.filter rowData.schema rowData.tb rowData.rowType then ext
  else { ext with buffer := ext.buffer ++ [rowData] }

/-- The row `decode_insert` builds and pushes. -/
def insertRow (m : PgMetaManager T) (event : InsertBody) : Except Fault RowData := do
  let tbMeta ← m.getTbMetaByOid (relIdAsI32 event.relId)
  let colValues ← parseRowData env tbMeta event.tuple
  pure ⟨tbMeta.schema, tbMeta.tb, .insert, none, some colValues, 0⟩

def decodeInsert (ext : PgCdcExtractor T) (event : InsertBody) : Except Fault (PgCdcExtractor T) :=
  pushRowToBuf env ext <$> insertRow env ext.metaManager event

/-- The `where_cols` loop of `decode_update`: each column's value in the after image. -/
def whereColsImage (colValuesAfter : ColMap) : List String → ColMap → Except Fault ColMap
  | [], colValues => .ok colValues
  | col :: cols, colValues => do
      let value ← unwrapSome (colValuesAfter.lookup col)
      whereColsImage colValuesAfter cols (colValues.insert col value)

def updateBefore (tbMeta : PgTbMeta T) (colValuesAfter : ColMap) :
    Option (List TupleData) → Option (List TupleData) → Except Fault ColMap
  | some oldTuple, _ => parseRowData env tbMeta oldTuple
  | none, some keyTuple => parseRowData env tbMeta keyTuple
  | none, none =>
      if !tbMeta.whereCols.isEmpty then whereColsImage colValuesAfter tbMeta.whereCols ∅
      else .ok ∅

def updateRow (m : PgMetaManager T) (event : UpdateBody) : Except Fault RowData := do
  let tbMeta ← m.getTbMetaByOid (relIdAsI32 event.relId)
  let colValuesAfter ← parseRowData env tbMeta event.newTuple
  let colValuesBefore ← updateBefore env tbMeta colValuesAfter event.oldTuple event.keyTuple
  pure ⟨tbMeta.schema, tbMeta.tb, .update, some colValuesBefore, some colValuesAfter, 0⟩

def decodeUpdate (ext : PgCdcExtractor T) (event : UpdateBody) : Except Fault (PgCdcExtractor T) :=
  pushRowToBuf env ext <$> updateRow env ext.metaManager event

def deleteBefore (tbMeta : PgTbMeta T) :
    Option (List TupleData) → Option (List TupleData) → Except Fault ColMap
  | some oldTuple, _ => parseRowData env tbMeta oldTuple
  | none, some keyTuple => parseRowData env tbMeta keyTuple
  | none, none => .ok ∅

def deleteRow (m : PgMetaManager T) (event : DeleteBody) : Except Fault RowData := do
  let tbMeta ← m.getTbMetaByOid (relIdAsI32 event.relId)
  let colValues ← deleteBefore env tbMeta event.oldTuple event.keyTuple
  pure ⟨tbMeta.schema, tbMeta.tb, .delete, some colValues, none, 0⟩

def decodeDelete (ext : PgCdcExtractor T) (event : DeleteBody) : Except Fault (PgCdcExtractor T) :=
  pushRowToBuf env ext <$> deleteRow env ext.metaManager event

def messageRow (m : PgMetaManager T) : ReplicationMessage → Option (Except Fault RowData)
  | .xLogData (.insert event) => some (insertRow env m event)
  | .xLogData (.update event) => some (updateRow env m event)
  | .xLogData (.delete event) => some (deleteRow env m event)
  | _ => none

def replyKeepAlive (ext : PgCdcExtractor T) (data : PrimaryKeepAliveBody) :
    Except Fault (PgCdcExtractor T) :=
  if data.reply = 1 then do
    let lsn ← unwrapSome (PgLsn.parse "0/2C280E70")
    pure { ext with
      statusUpdates := ext.statusUpdates ++ [⟨lsn, lsn, lsn, env.pgEpochMicros, 1⟩] }
  else pure ext

/-- One turn of the loop of `extract_internal`. -/
def extractStep (ext : PgCdcExtractor T) : ReplicationMessage → Except Fault (PgCdcExtractor T)
  | .xLogData (.relation relation) => decodeRelation env ext relation
  | .xLogData (.insert insert) => decodeInsert env ext insert
  | .xLogData (.update update) => decodeUpdate env ext update
  | .xLogData (.delete delete) => decodeDelete env ext delete
  | .xLogData _ => pure ext
  | .primaryKeepAlive data => replyKeepAlive env ext data
  | .other => pure ext

def runMessages (ext : PgCdcExtractor T) : List ReplicationMessage → Except Fault (PgCdcExtractor T)
  | [] => pure ext
  | msg :: msgs => do
      let ext ← extractStep env ext msg
      runMessages ext msgs

/-- `extract_internal` over a stream that ends after `msgs`: the end of the stream panics. -/
def extractInternal (ext : PgCdcExtractor T) (msgs : List ReplicationMessage) :
    Except Fault (PgCdcExtractor T) := do
  let _ ← runMessages env ext msgs
  .error .panic

/-- `extract`: `Ok(self.extract_internal().await.unwrap())`, so every `Err` of the loop panics. -/
def extract (ext : PgCdcExtractor T) (msgs : List ReplicationMessage) : Except Fault Unit := do
  let _ ← unwrap (extractInternal env ext msgs)
  pure ()

@[simp] theorem pushRowToBuf_metaManager (ext : PgCdcExtractor T) (row : RowData) :
    (pushRowToBuf env ext row).metaManager = ext.metaManager := by
  unfold pushRowToBuf; split <;> rfl

@[simp] theorem pushRowToBuf_statusUpdates (ext : PgCdcExtractor T) (row : RowData) :
    (pushRowToBuf env ext row).statusUpdates = ext.statusUpdates := by
  unfold pushRowToBuf; split <;> rfl

theorem extractStep_inv {ext ext' : PgCdcExtractor T} {msg : ReplicationMessage}
    (h : extractStep env ext msg = .ok ext') :
    (∃ rel tbMeta, msg.relationBody? = some rel ∧ msg.requestsReply = false ∧
      relationMeta env ext.metaManager.oidToType rel = .ok tbMeta ∧
      ext' = { ext with
        metaManager := ext.metaManager.updateTbMetaByOid (relIdAsI32 rel.relId) tbMeta }) ∨
    (msg.relationBody? = none ∧ msg.requestsReply ∧ ext' = { ext with statusUpdates :=
      ext.statusUpdates ++ [⟨0x2C280E70, 0x2C280E70, 0x2C280E70, env.pgEpochMicros, 1⟩] }) ∨
    (msg.relationBody? = none ∧ msg.requestsReply = false ∧
      ext'.metaManager = ext.metaManager ∧ ext'.statusUpdates = ext.statusUpdates) := by
  cases msg with
  | xLogData data =>
    cases data
    case relation rel =>
      obtain ⟨tbMeta, hm, he⟩ := bind_eq_ok h
      cases he
      exact .inl ⟨rel, tbMeta, rfl, rfl, hm, rfl⟩
    case insert event =>
      obtain ⟨row, -, rfl⟩ := map_eq_ok h
      exact .inr (.inr ⟨rfl, rfl, by simp, by simp⟩)
    case update event =>
      obtain ⟨row, -, rfl⟩ := map_eq_ok h
      exact .inr (.inr ⟨rfl, rfl, by simp, by simp⟩)
    case delete event =>
      obtain ⟨row, -, rfl⟩ := map_eq_ok h
      exact .inr (.inr ⟨rfl, rfl, by simp, by simp⟩)
    all_goals (cases h; exact .inr (.inr ⟨rfl, rfl, rfl, rfl⟩))
  | primaryKeepAlive data =>
    simp only [extractStep, replyKeepAlive, pgLsn_parse_hard_coded] at h
    split_ifs at h with hr
    · cases h; exact .inr (.inl ⟨rfl, by simp [ReplicationMessage.requestsReply, hr], rfl⟩)
    · cases h; exact .inr (.inr ⟨rfl, by simp [ReplicationMessage.requestsReply, hr], rfl, rfl⟩)
  | other => cases h; exact .inr (.inr ⟨rfl, rfl, rfl, rfl⟩)

theorem runMessages_statusUpdates {ext ext' : PgCdcExtractor T} {msgs : List ReplicationMessage}
    (h : runMessages env ext msgs = .ok ext') :
    ext'.statusUpdates = ext.statusUpdates ++ (msgs.filter (·.requestsReply)).map
      fun _ => ⟨0x2C280E70, 0x2C280E70, 0x2C280E70, env.pgEpochMicros, 1⟩ := by
  induction msgs generalizing ext with
  | nil => cases h; simp
  | cons msg msgs ih =>
    obtain ⟨ext₁, h₁, hrun⟩ := bind_eq_ok h
    rw [ih hrun]
    rcases extractStep_inv env h₁ with ⟨-, -, -, hr, -, rfl⟩ | ⟨-, hr, rfl⟩ | ⟨-, hr, -, hs⟩
    · simp [hr]
    · simp [hr]
    · simp [hr, hs]

theorem pushRowToBuf_buffer (ext : PgCdcExtractor T) (row : RowData) :
    (pushRowToBuf env ext row).buffer =
      ext.buffer ++ [row].filter fun r => !env.filter r.schema r.tb r.rowType := by
  unfold pushRowToBuf; split <;> simp [*]

theorem insertRow_ok {m : PgMetaManager T} {event : InsertBody} {row : RowData}
    (h : insertRow env m event = .ok row) : row.rowType = .insert ∧ row.Wellformed := by
  obtain ⟨tbMeta, -, h⟩ := bind_eq_ok h
  obtain ⟨colValues, -, h⟩ := bind_eq_ok h
  cases h; exact ⟨rfl, rfl, rfl⟩

theorem updateRow_ok {m : PgMetaManager T} {event : UpdateBody} {row : RowData}
    (h : updateRow env m event = .ok row) : row.rowType = .update ∧ row.Wellformed := by
  obtain ⟨tbMeta, -, h⟩ := bind_eq_ok h
  obtain ⟨after, -, h⟩ := bind_eq_ok h
  obtain ⟨before, -, h⟩ := bind_eq_ok h
  cases h; exact ⟨rfl, rfl, rfl⟩

theorem deleteRow_ok {m : PgMetaManager T} {event : DeleteBody} {row : RowData}
    (h : deleteRow env m event = .ok row) : row.rowType = .delete ∧ row.Wellformed := by
  obtain ⟨tbMeta, -, h⟩ := bind_eq_ok h
  obtain ⟨before, -, h⟩ := bind_eq_ok h
  cases h; exact ⟨rfl, rfl, rfl⟩

theorem extractStep_buffer {ext ext' : PgCdcExtractor T} {msg : ReplicationMessage}
    (h : extractStep env ext msg = .ok ext') :
    (msg.dmlKind = none ∧ ext'.buffer = ext.buffer) ∨
    ∃ row, messageRow env ext.metaManager msg = some (.ok row) ∧ msg.dmlKind = some row.rowType ∧
      row.Wellformed ∧
      ext'.buffer = ext.buffer ++ [row].filter fun r => !env.filter r.schema r.tb r.rowType := by
  cases msg with
  | xLogData data =>
    cases data
    case relation rel =>
      obtain ⟨tbMeta, -, he⟩ := bind_eq_ok h
      cases he; exact .inl ⟨rfl, rfl⟩
    case insert event =>
      obtain ⟨row, hr, rfl⟩ := map_eq_ok h
      obtain ⟨hk, hw⟩ := insertRow_ok env hr
      exact .inr ⟨row, by rw [messageRow, hr], by rw [hk]; rfl, hw, pushRowToBuf_buffer env _ _⟩
    case update event =>
      obtain ⟨row, hr, rfl⟩ := map_eq_ok h
      obtain ⟨hk, hw⟩ := updateRow_ok env hr
      exact .inr ⟨row, by rw [messageRow, hr], by rw [hk]; rfl, hw, pushRowToBuf_buffer env _ _⟩
    case delete event =>
      obtain ⟨row, hr, rfl⟩ := map_eq_ok h
      obtain ⟨hk, hw⟩ := deleteRow_ok env hr
      exact .inr ⟨row, by rw [messageRow, hr], by rw [hk]; rfl, hw, pushRowToBuf_buffer env _ _⟩
    all_goals (cases h; exact .inl ⟨rfl, rfl⟩)
  | primaryKeepAlive data =>
    simp only [extractStep, replyKeepAlive, pgLsn_parse_hard_coded] at h
    split_ifs at h <;> cases h <;> exact .inl ⟨rfl, rfl⟩
  | other => cases h; exact .inl ⟨rfl, rfl⟩

theorem inits_zip_cons (msg : ReplicationMessage) (msgs : List ReplicationMessage) :
    (msg :: msgs).inits.zip (msg :: msgs) =
      ([], msg) :: (msgs.inits.zip msgs).map (Prod.map (msg :: ·) id) := by
  rw [List.inits_cons, List.zip_cons_cons, List.zip_map_left]

theorem pg_cdc_buffer_follows_dml_messages {ext ext' : PgCdcExtractor T}
    {msgs : List ReplicationMessage} (h : runMessages env ext msgs = .ok ext') :
    ∃ rows : List RowData,
      List.Forall₂ (fun (p : List ReplicationMessage × ReplicationMessage) row =>
          ∃ mid, runMessages env ext p.1 = .ok mid ∧ messageRow env mid.metaManager p.2 = some (.ok row))
        ((msgs.inits.zip msgs).filter fun p => p.2.dmlKind.isSome) rows ∧
      rows.map RowData.rowType = msgs.filterMap ReplicationMessage.dmlKind ∧
      (∀ r ∈ rows, r.Wellformed) ∧
      ext'.buffer = ext.buffer ++ rows.filter fun r => !env.filter r.schema r.tb r.rowType := by
  induction msgs generalizing ext with
  | nil => cases h; exact ⟨[], .nil, rfl, nofun, by simp⟩
  | cons msg msgs ih =>
    obtain ⟨ext₁, h₁, hrun⟩ := bind_eq_ok h
    obtain ⟨rows, hrel, hkinds, hwf, hbuf⟩ := ih hrun
    -- the messages after `msg` are decoded after `msg`'s own step
    have hshift : List.Forall₂ (fun (p : List ReplicationMessage × ReplicationMessage) row =>
          ∃ mid, runMessages env ext p.1 = .ok mid ∧ messageRow env mid.metaManager p.2 = some (.ok row))
        (((msgs.inits.zip msgs).map (Prod.map (msg :: ·) id)).filter fun p => p.2.dmlKind.isSome)
        rows := by
      rw [List.filter_map, List.forall₂_map_left_iff]
      exact hrel.imp fun p row ⟨mid, hmid, hrow⟩ =>
        ⟨mid, by simp only [runMessages, h₁, ok_bind]; exact hmid, hrow⟩
    rw [inits_zip_cons, List.filter_cons]
    rcases extractStep_buffer env h₁ with ⟨hk, hb⟩ | ⟨row, hrow, hk, hw, hb⟩
    · rw [if_neg (by simp [hk])]
      exact ⟨rows, hshift, by simp [hkinds, hk], hwf, by rw [hbuf, hb]⟩
    · rw [if_pos (by simp [hk])]
      refine ⟨row :: rows, .cons ⟨ext, rfl, hrow⟩ hshift, by simp [hkinds, hk], ?_,
        by rw [hbuf, hb, List.append_assoc, ← List.filter_append]; rfl⟩
      exact fun r hr => (List.mem_cons.mp hr).elim (· ▸ hw) (hwf r)

theorem pg_cdc_buffer_drops_filtered_delete :
    let env : PgCdcEnv Unit :=
      ⟨fun schema tb => .ok ⟨schema, tb, [], ∅, []⟩, fun _ _ => .ok .none,
        fun _ _ rowType => rowType == .delete, 0⟩
    let msgs : List ReplicationMessage := [.xLogData (.relation ⟨7, "public", "t", [⟨"id", 23⟩]⟩),
      .xLogData (.insert ⟨7, [.null]⟩), .xLogData (.delete ⟨7, some [.null], none⟩)]
    let ext : PgCdcExtractor Unit :=
      ⟨⟨fun _ => some (), (∅ : AList _).insert 7 ⟨"public", "t", ["id"], (∅ : AList _).insert "id" (), []⟩⟩,
        [⟨"public", "t", .insert, none, some ((∅ : ColMap).insert "id" .none), 0⟩], []⟩
    runMessages env (.init fun _ => some ()) msgs = .ok ext ∧
      ∃ rows : List RowData,
        List.Forall₂ (fun (p : List ReplicationMessage × ReplicationMessage) row =>
            ∃ mid, runMessages env (.init fun _ => some ()) p.1 = .ok mid ∧
              messageRow env mid.metaManager p.2 = some (.ok row))
          ((msgs.inits.zip msgs).filter fun p => p.2.dmlKind.isSome) rows ∧
        rows.map RowData.rowType = [.insert, .delete] ∧ (∀ r ∈ rows, r.Wellformed) ∧
        ext.buffer = [] ++ rows.filter fun r => !env.filter r.schema r.tb r.rowType := by
  intro env msgs ext
  have h : runMessages env (.init fun _ => some ()) msgs = .ok ext := rfl
  exact ⟨h, pg_cdc_buffer_follows_dml_messages env h⟩

end Decode

theorem keepalive_reply_acknowledges_uncommitted_wal :
    runMessages (⟨fun _ _ => .error (.other ""), fun _ _ => .ok .none, fun _ _ _ => false, 0⟩ :
        PgCdcEnv Unit) (.init fun _ => none) [.primaryKeepAlive ⟨0x1000, 0, 1⟩] =
      .ok ⟨⟨fun _ => none, ∅⟩, [], [⟨0x2C280E70, 0x2C280E70, 0x2C280E70, 0, 1⟩]⟩ ∧
    PgLsn.parse (⟨"0/1000", "0/1000"⟩ : Pipeline.Syncer String).committedPosition = some 0x1000 ∧
    (0x1000 : UInt64) < 0x2C280E70 :=
  ⟨rfl, by decide, by decide⟩

end CubetranCore.PgCdc
