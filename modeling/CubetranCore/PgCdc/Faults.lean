import CubetranCore.PgCdc.Decoding

namespace CubetranCore.PgCdc

variable {T : Type}

theorem insertColumns_eq_panic_iff {oidToType : UInt32 → Option T} :
    ∀ {columns : List Column} {acc : AList (fun _ : String => T) × List String},
      insertColumns oidToType columns acc = .error .panic ↔ ∃ c ∈ columns, oidToType c.typeId = none
  | [], _ => ⟨fun h => (by cases h), fun ⟨_, hc, _⟩ => nomatch hc⟩
  | c :: cs, (colTypeMap, colNames) => by
    cases hty : oidToType c.typeId with
    | none => exact ⟨fun _ => ⟨c, List.mem_cons_self _ _, hty⟩, fun _ => by simp [insertColumns, hty]; rfl⟩
    | some ty =>
      simp only [insertColumns, hty, unwrapSome_some, ok_bind, insertColumns_eq_panic_iff,
        List.mem_cons, exists_eq_or_imp, reduceCtorEq, false_or]

theorem decodeRelation_unknown_type (env : PgCdcEnv T) {ext : PgCdcExtractor T}
    {rel : RelationBody} {tbMeta : PgTbMeta T} (hmeta : env.getTbMeta rel.nspace rel.name = .ok tbMeta)
    (hunknown : ∃ c ∈ rel.columns, ext.metaManager.oidToType c.typeId = none) :
    decodeRelation env ext rel = .error .panic := by
  simp only [decodeRelation, relationMeta, hmeta, insertColumns_eq_panic_iff.mpr hunknown]
  rfl

section Store

variable (env : PgCdcEnv T)

end Store

section Tuples

variable (env : PgCdcEnv T) {tbMeta : PgTbMeta T}

theorem parseRowDataFrom_past_cols {i : Nat} (hi : tbMeta.cols.length ≤ i) (td : TupleData)
    (rest : List TupleData) (acc : ColMap) :
    parseRowDataFrom env tbMeta i (td :: rest) acc = .error .panic := by
  simp only [parseRowDataFrom, List.getElem?_eq_none hi]
  rfl

end Tuples

theorem whereColsImage_eq_panic_iff {after : ColMap} :
    ∀ {cols : List String} {acc : ColMap},
      whereColsImage after cols acc = .error .panic ↔ ∃ col ∈ cols, after.lookup col = none
  | [], _ => ⟨fun h => (by cases h), fun ⟨_, hc, _⟩ => nomatch hc⟩
  | col :: cols, acc => by
    cases hv : after.lookup col with
    | none => exact ⟨fun _ => ⟨col, List.mem_cons_self _ _, hv⟩, fun _ => by simp [whereColsImage, hv]; rfl⟩
    | some v =>
      simp only [whereColsImage, hv, unwrapSome_some, ok_bind, whereColsImage_eq_panic_iff,
        List.mem_cons, exists_eq_or_imp, reduceCtorEq, false_or]

section Rows

variable (env : PgCdcEnv T) {m : PgMetaManager T}

theorem updateRow_where_col_missing {event : UpdateBody} {tbMeta : PgTbMeta T} {after : ColMap}
    (hmeta : m.getTbMetaByOid (relIdAsI32 event.relId) = .ok tbMeta)
    (hafter : parseRowData env tbMeta event.newTuple = .ok after)
    (hold : event.oldTuple = none) (hkey : event.keyTuple = none)
    (hmissing : ∃ col ∈ tbMeta.whereCols, after.lookup col = none) :
    updateRow env m event = .error .panic := by
  have hwhere : tbMeta.whereCols.isEmpty = false :=
    List.isEmpty_eq_false_iff_exists_mem.mpr (hmissing.imp fun _ h => h.1)
  simp only [updateRow, hmeta, hafter, ok_bind, hold, hkey, updateBefore, hwhere, Bool.not_false,
    if_true, whereColsImage_eq_panic_iff.mpr hmissing]
  rfl

end Rows

theorem pg_decoder_panics_on_reachable_messages :
    let env : PgCdcEnv Unit :=
      ⟨fun schema tb => .ok ⟨schema, tb, [], ∅, ["v"]⟩, fun _ _ => .ok .none, fun _ _ _ => false, 0⟩
    let ext : PgCdcExtractor Unit := .init fun oid => if oid = 23 then some () else none
    runMessages env ext [.xLogData (.relation ⟨7, "public", "t", [⟨"id", 0⟩]⟩)] = .error .panic ∧
      runMessages env ext [.xLogData (.relation ⟨7, "public", "t", [⟨"id", 23⟩]⟩),
        .xLogData (.insert ⟨7, [.null, .null]⟩)] = .error .panic ∧
      runMessages env ext [.xLogData (.relation ⟨7, "public", "t", [⟨"id", 23⟩, ⟨"v", 23⟩]⟩),
        .xLogData (.update ⟨7, none, none, [.null]⟩)] = .error .panic := by
  intro env ext
  -- the meta each Relation stores
  let tbMeta₁ : PgTbMeta Unit := ⟨"public", "t", ["id"], (∅ : AList _).insert "id" (), ["v"]⟩
  let tbMeta₂ : PgTbMeta Unit :=
    ⟨"public", "t", ["id", "v"], ((∅ : AList _).insert "id" ()).insert "v" (), ["v"]⟩
  have hrel : extractStep env ext (.xLogData (.relation ⟨7, "public", "t", [⟨"id", 0⟩]⟩)) =
      .error .panic := decodeRelation_unknown_type env rfl ⟨_, List.mem_singleton_self _, rfl⟩
  have hinsert : parseRowData env tbMeta₁ [.null, .null] = .error .panic := by
    rw [parseRowData, parseRowDataFrom_cons_eq env (show tbMeta₁.cols[0]? = some "id" from rfl)
      (show tbMeta₁.colTypeMap.lookup "id" = some () from rfl) (show CellValue env () .null .none from rfl)]
    exact parseRowDataFrom_past_cols env (le_refl 1) _ _ _
  have hupdate : updateRow env ⟨ext.metaManager.oidToType, (∅ : AList _).insert 7 tbMeta₂⟩
      ⟨7, none, none, [.null]⟩ = .error .panic :=
    updateRow_where_col_missing env rfl rfl rfl rfl ⟨"v", List.mem_singleton_self _, rfl⟩
  refine ⟨by simp only [runMessages, hrel]; rfl, ?_, ?_⟩
  · show extractStep env ⟨⟨ext.metaManager.oidToType, (∅ : AList _).insert 7 tbMeta₁⟩, [], []⟩
      (.xLogData (.insert ⟨7, [.null, .null]⟩)) >>= (fun ext => runMessages env ext []) = .error .panic
    simp only [extractStep, decodeInsert, insertRow]
    rw [show PgMetaManager.getTbMetaByOid ⟨ext.metaManager.oidToType, (∅ : AList _).insert 7 tbMeta₁⟩
      (relIdAsI32 7) = .ok tbMeta₁ from rfl, ok_bind, hinsert]
    rfl
  · show extractStep env ⟨⟨ext.metaManager.oidToType, (∅ : AList _).insert 7 tbMeta₂⟩, [], []⟩
      (.xLogData (.update ⟨7, none, none, [.null]⟩)) >>= (fun ext => runMessages env ext []) =
        .error .panic
    simp only [extractStep, decodeUpdate, hupdate]
    rfl

end CubetranCore.PgCdc
