import CubetranCore.Snapshot.SliceScan

namespace CubetranCore.Snapshot

variable {R : Type}

/-- The loop of `extract_all` over the rows of `SELECT * FROM db.tb`: each row's image is pushed. -/
def extractAll (rd : RowReader R) (tbMeta : TbMeta) (rows : List R) (buffer : List RowData) :
    Except Fault (List RowData) :=
  rows.foldlM (fun buffer row => do
    let rowData ← unwrap (snapshotRow rd tbMeta row)
    pure (buffer ++ [rowData])) buffer

/-- `extract_internal` up to its wait on the buffer: the rows it pushes. `rows` is what
`SELECT * FROM db.tb` returns and `db` what the ordered queries of the slice loop see; the slice
loop runs at most `fuel` turns. -/
def extractInternal (rd : RowReader R) (getTbMeta : Except Error TbMeta) (db : SliceDb R)
    (rows : List R) (sliceSize fuel : Nat) : Except Fault (List RowData) := do
  let tbMeta ← getTbMeta.mapError Fault.error
  match tbMeta.orderCol with
  | some orderCol =>
    let orderColMeta ← unwrapSome (tbMeta.colMetaMap.lookup orderCol)
    let st ← extractBySlices db sliceSize rd tbMeta orderColMeta fuel .none
    pure st.buffer
  | none => extractAll rd tbMeta rows []

section Extract

variable {rd : RowReader R} {tbMeta : TbMeta} {image : R → RowData}

theorem extractAll_ok :
    ∀ {rows : List R} (buffer : List RowData), (∀ r ∈ rows, snapshotRow rd tbMeta r = .ok (image r)) →
      extractAll rd tbMeta rows buffer = .ok (buffer ++ rows.map image)
  | [], buffer, _ => by simp only [List.map_nil, List.append_nil]; rfl
  | r :: rows, buffer, himage => by
    have ih : extractAll rd tbMeta rows (buffer ++ [image r]) = _ :=
      extractAll_ok _ fun r' h => himage r' (List.mem_cons_of_mem r h)
    simp only [extractAll, List.foldlM_cons, himage r (List.mem_cons_self r rows), unwrap_ok,
      ok_bind] at ih ⊢
    simpa using ih

variable {db : SliceDb R} {rows : List R} {sliceSize : Nat}

theorem extractInternal_of_orderCol_none (h : tbMeta.orderCol = none) (fuel : Nat) :
    extractInternal rd (.ok tbMeta) db rows sliceSize fuel = extractAll rd tbMeta rows [] := by
  simp only [extractInternal, Except.mapError, ok_bind, h]

theorem extractInternal_of_orderCol_some {orderCol : String} (h : tbMeta.orderCol = some orderCol)
    (fuel : Nat) :
    extractInternal rd (.ok tbMeta) db rows sliceSize fuel = (do
      let orderColMeta ← unwrapSome (tbMeta.colMetaMap.lookup orderCol)
      let st ← extractBySlices db sliceSize rd tbMeta orderColMeta fuel .none
      pure st.buffer) := by
  simp only [extractInternal, Except.mapError, ok_bind, h]

theorem extract_internal_pushes_each_row_once {K : Type} [LinearOrder K] (key : R → K)
    (orderValue : R → ColValue) (hs : 0 < sliceSize)
    (hrows : ∀ r ∈ rows, snapshotRow rd tbMeta r = .ok (image r))
    (htable : ∀ r ∈ db.table, snapshotRow rd tbMeta r = .ok (image r)) :
    (tbMeta.orderCol = none →
      ∀ fuel, extractInternal rd (.ok tbMeta) db rows sliceSize fuel = .ok (rows.map image)) ∧
    (∀ orderCol, tbMeta.orderCol = some orderCol → tbMeta.colMetaMap.lookup orderCol = none →
      ∀ fuel, extractInternal rd (.ok tbMeta) db rows sliceSize fuel = .error .panic) ∧
    (∀ orderCol orderColMeta, tbMeta.orderCol = some orderCol →
      tbMeta.colMetaMap.lookup orderCol = some orderColMeta →
      SliceOrder key db rd orderColMeta orderValue →
      ∀ fuel, db.table.length / sliceSize < fuel →
        extractInternal rd (.ok tbMeta) db rows sliceSize fuel = .ok (db.table.map image)) := by
  refine ⟨fun h fuel => ?_, fun orderCol h hmeta fuel => ?_,
    fun orderCol orderColMeta h hmeta hord fuel hfuel => ?_⟩
  · -- no order column: `extract_all`
    rw [extractInternal_of_orderCol_none h, extractAll_ok [] hrows, List.nil_append]
  · -- the `order_col_meta.unwrap()`
    rw [extractInternal_of_orderCol_some h, hmeta]
    rfl
  · -- the slice loop from `ColValue::None`, which selects the whole table
    have hall : db.table.filter (db.selects ColValue.none) = db.table.drop 0 := by
      simp [SliceDb.selects]
    obtain ⟨final, hrun, -, hbuf, -⟩ := runSlices_scan key sliceSize tbMeta hs hord htable fuel 0
      ⟨.none, [], [], false⟩ rfl hall (by simpa using hfuel)
    rw [extractInternal_of_orderCol_some h, hmeta, unwrapSome_some, ok_bind]
    simp only [extractBySlices, hrun, ok_bind, hbuf, List.nil_append, List.drop_zero]
    rfl

end Extract

theorem extract_internal_scans_three_ids :
    let orderValue : Nat → ColValue := fun r => .long (BitVec.ofNat 32 r)
    let image : Nat → RowData :=
      fun r => ⟨"db", "t", .insert, none, some ((∅ : ColMap).insert "id" (orderValue r)), 0⟩
    ∀ fuel, 3 / 2 < fuel →
      extractInternal idReader (.ok idTbMeta) (idTable [1, 2, 3]) [3, 1, 2] 2 fuel =
        .ok ([1, 2, 3].map image) := by
  intro orderValue image
  have himage : ∀ r ∈ [1, 2, 3], snapshotRow idReader idTbMeta r = .ok (image r) := by
    intro r hr
    simp only [List.mem_cons, List.mem_singleton, List.not_mem_nil, or_false] at hr
    rcases hr with rfl | rfl | rfl <;> rfl
  have hord : SliceOrder id (idTable [1, 2, 3]) idReader idCol orderValue :=
    ⟨by decide, fun r hr => by simp only [idTable, List.mem_cons, List.mem_singleton,
      List.not_mem_nil, or_false] at hr; rcases hr with rfl | rfl | rfl <;> rfl,
      fun _ _ h => ColValue.noConfusion h, by decide⟩
  exact (extract_internal_pushes_each_row_once id orderValue (by decide)
    (fun r hr => himage r (by
      simp only [List.mem_cons, List.mem_singleton, List.not_mem_nil, or_false] at hr ⊢; omega))
    himage).2.2 "id" idCol rfl rfl hord

end CubetranCore.Snapshot
