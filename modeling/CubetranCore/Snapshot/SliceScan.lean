import CubetranCore.Snapshot.Slices

namespace CubetranCore.Snapshot

variable {R : Type}

theorem sliceQuery_of_ne_none {v : ColValue} (hv : v ≠ .none) : sliceQuery v = .sql2 v := by
  unfold sliceQuery
  split
  · contradiction
  · rfl

/-- The rows a query of the slice loop selects before its `LIMIT`: all of them from
`ColValue::None`, otherwise those the server finds `order_col > ?` for. -/
def SliceDb.selects (db : SliceDb R) (startValue : ColValue) (row : R) : Bool :=
  if startValue = .none then true else db.gt row startValue

theorem fetch_sliceQuery (db : SliceDb R) (sliceSize : Nat) (v : ColValue) :
    db.fetch sliceSize (sliceQuery v) = (db.table.filter (db.selects v)).take sliceSize := by
  by_cases hv : v = .none
  · subst hv
    have hall : db.selects .none = fun _ => true := funext fun _ => by simp [SliceDb.selects]
    simp [sliceQuery, SliceDb.fetch, hall]
  · have hgt : db.selects v = (db.gt · v) := funext fun _ => by simp [SliceDb.selects, hv]
    simp [sliceQuery_of_ne_none hv, SliceDb.fetch, hgt]

section Loop

variable (db : SliceDb R) (sliceSize : Nat) (rd : RowReader R) (tbMeta : TbMeta)
  (orderColMeta : ColMeta)

theorem pushSlice_eq {image : R → RowData} {orderValue : R → ColValue} :
    ∀ {rows : List R} {st : SliceState} {n : Nat},
      (∀ r ∈ rows, snapshotRow rd tbMeta r = .ok (image r)) →
      (∀ r ∈ rows, getColValue rd r orderColMeta = .ok (orderValue r)) →
      pushSlice rd tbMeta orderColMeta rows st n =
        .ok ({ st with buffer := st.buffer ++ rows.map image,
                       startValue := (rows.getLast?.map orderValue).getD st.startValue },
             n + rows.length) := by
  intro rows
  induction rows with
  | nil => intro st n _ _; simp [pushSlice]
  | cons r rows ih =>
    intro st n himage hvalue
    simp only [pushSlice, himage r (List.mem_cons_self r rows),
      hvalue r (List.mem_cons_self r rows), unwrap_ok]
    refine (ih (fun r' h => himage r' (List.mem_cons_of_mem r h))
      (fun r' h => hvalue r' (List.mem_cons_of_mem r h))).trans ?_
    cases hl : rows.getLast? <;>
      simp [List.getLast?_cons, hl, Nat.add_assoc, Nat.add_comm 1]

theorem runSlices_of_finished {st : SliceState} (h : st.finished = true) :
    ∀ fuel, runSlices db sliceSize rd tbMeta orderColMeta fuel st = .ok st
  | 0 => rfl
  | _ + 1 => by simp [runSlices, h]

/-- Fuel is only a bound: a run that finished ends the same way with more of it. -/
theorem runSlices_mono {st final : SliceState} :
    ∀ {fuel fuel' : Nat}, runSlices db sliceSize rd tbMeta orderColMeta fuel st = .ok final →
      final.finished = true → fuel ≤ fuel' →
      runSlices db sliceSize rd tbMeta orderColMeta fuel' st = .ok final := by
  intro fuel
  induction fuel generalizing st with
  | zero =>
    intro fuel' h hfin _
    cases h
    exact runSlices_of_finished db sliceSize rd tbMeta orderColMeta hfin fuel'
  | succ fuel ih =>
    intro fuel' h hfin hle
    obtain ⟨fuel', rfl⟩ : ∃ k, fuel' = k + 1 := ⟨fuel' - 1, by omega⟩
    by_cases hst : st.finished = true
    · simp only [runSlices, hst, if_true] at h ⊢
      exact h
    · simp only [runSlices, hst, Bool.false_eq_true, if_false] at h ⊢
      obtain ⟨st₁, h₁, h⟩ := bind_eq_ok h
      rw [h₁]
      exact ih h hfin (by omega)

theorem runSlices_restarts (image : R → RowData) (orderValue : R → ColValue)
    (hlen : sliceSize ≤ db.table.length)
    (himage : ∀ r ∈ db.table.take sliceSize, snapshotRow rd tbMeta r = .ok (image r))
    (hvalue : ∀ r ∈ db.table.take sliceSize, getColValue rd r orderColMeta = .ok (orderValue r))
    (hlast : ∀ e, (db.table.take sliceSize).getLast? = some e → orderValue e = .none) :
    ∀ fuel buffer queries,
      runSlices db sliceSize rd tbMeta orderColMeta fuel ⟨.none, buffer, queries, false⟩ =
        .ok ⟨.none, buffer ++ (List.replicate fuel ((db.table.take sliceSize).map image)).flatten,
          queries ++ List.replicate fuel .sql1, false⟩ := by
  intro fuel
  induction fuel with
  | zero => intro buffer queries; simp [runSlices]
  | succ fuel ih =>
    intro buffer queries
    have hstart : (((db.table.take sliceSize).getLast?).map orderValue).getD ColValue.none =
        .none := by
      cases h : (db.table.take sliceSize).getLast? with
      | none => rfl
      | some e => exact hlast e h
    have hstep : sliceStep db sliceSize rd tbMeta orderColMeta ⟨.none, buffer, queries, false⟩ =
        .ok ⟨.none, buffer ++ (db.table.take sliceSize).map image, queries ++ [.sql1],
          decide (sliceSize < sliceSize)⟩ := by
      simp only [sliceStep, sliceQuery, SliceDb.fetch, pushSlice_eq rd tbMeta orderColMeta himage hvalue,
        Nat.zero_add, hstart, List.length_take, min_eq_left hlen]
      rfl
    simp only [lt_irrefl, decide_False] at hstep
    simp only [runSlices, Bool.false_eq_true, if_false, hstep]
    refine (ih _ _).trans ?_
    simp [List.replicate_succ, List.append_assoc]

end Loop

section Sorted

variable {K : Type} [LinearOrder K] (key : R → K)

theorem filter_key_gt_getElem :
    ∀ {rows : List R} {i : Nat} (hi : i < rows.length),
      rows.Pairwise (fun r r' => key r < key r') →
      rows.filter (fun r => decide (key rows[i] < key r)) = rows.drop (i + 1) := by
  intro rows
  induction rows with
  | nil => intro i hi; simp at hi
  | cons a rows ih =>
    intro i hi hsorted
    obtain ⟨ha, hsorted⟩ := List.pairwise_cons.mp hsorted
    cases i with
    | zero =>
      simp only [List.getElem_cons_zero, List.filter_cons, lt_irrefl, decide_False,
        Bool.false_eq_true, if_false, List.drop_one, List.tail_cons]
      exact List.filter_eq_self.mpr fun r hr => by simpa using ha r hr
    | succ i =>
      have hi' : i < rows.length := by simpa using hi
      have hlt : key a < key rows[i] := ha _ (List.getElem_mem hi')
      simp only [List.getElem_cons_succ, List.filter_cons, not_lt_of_gt hlt, decide_False,
        Bool.false_eq_true, if_false, List.drop_succ_cons]
      exact ih hi' hsorted

theorem filter_upward_eq_drop :
    ∀ {rows : List R} {p : R → Bool}, rows.Pairwise (fun r r' => key r < key r') →
      (∀ r ∈ rows, ∀ r' ∈ rows, p r → key r < key r' → p r') →
      ∃ j, rows.filter p = rows.drop j := by
  intro rows
  induction rows with
  | nil => intro p _ _; exact ⟨0, rfl⟩
  | cons a rows ih =>
    intro p hsorted hup
    obtain ⟨ha, hsorted'⟩ := List.pairwise_cons.mp hsorted
    by_cases hpa : p a
    · refine ⟨0, ?_⟩
      rw [List.filter_cons_of_pos hpa, List.filter_eq_self.mpr, List.drop_zero]
      exact fun r hr => hup a (List.mem_cons_self a rows) r (List.mem_cons_of_mem a hr) hpa (ha r hr)
    · obtain ⟨j, hj⟩ := ih hsorted' fun r hr r' hr' =>
        hup r (List.mem_cons_of_mem a hr) r' (List.mem_cons_of_mem a hr')
      exact ⟨j + 1, by rw [List.filter_cons_of_neg hpa, hj, List.drop_succ_cons]⟩

/-- What the scan assumes of the table: its rows, in `ORDER BY` order, have strictly ascending
keys, and `get_col_value` reads each row's order value as a bound value that the server's
`order_col > ?` compares by those keys. -/
structure SliceOrder (db : SliceDb R) (rd : RowReader R) (orderColMeta : ColMeta)
    (orderValue : R → ColValue) : Prop where
  sorted : db.table.Pairwise fun r r' => key r < key r'
  decode : ∀ r ∈ db.table, getColValue rd r orderColMeta = .ok (orderValue r)
  bound : ∀ r ∈ db.table, orderValue r ≠ .none
  compare : ∀ r ∈ db.table, ∀ r' ∈ db.table, db.gt r' (orderValue r) = decide (key r < key r')

variable {db : SliceDb R} {rd : RowReader R} {orderColMeta : ColMeta} {orderValue : R → ColValue}

theorem SliceOrder.selects_after (hord : SliceOrder key db rd orderColMeta orderValue) {i : Nat}
    (hi : i < db.table.length) :
    db.table.filter (db.selects (orderValue db.table[i])) = db.table.drop (i + 1) := by
  have he := List.getElem_mem hi
  rw [← filter_key_gt_getElem key hi hord.sorted]
  refine List.filter_congr fun r hr => ?_
  simp only [SliceDb.selects, hord.bound _ he, if_false]
  exact hord.compare _ he r hr

theorem sliceStep_drop (sliceSize : Nat) (tbMeta : TbMeta) {image : R → RowData}
    (hord : SliceOrder key db rd orderColMeta orderValue)
    (himage : ∀ r ∈ db.table, snapshotRow rd tbMeta r = .ok (image r)) {j : Nat} {st : SliceState}
    (hsel : db.table.filter (db.selects st.startValue) = db.table.drop j) :
    ∃ next, sliceStep db sliceSize rd tbMeta orderColMeta st = .ok next ∧
      next.startValue =
        (((db.table.drop j).take sliceSize).getLast?.map orderValue).getD st.startValue ∧
      next.buffer = st.buffer ++ ((db.table.drop j).take sliceSize).map image ∧
      next.queries = st.queries ++ [sliceQuery st.startValue] ∧
      next.finished = decide (((db.table.drop j).take sliceSize).length < sliceSize) := by
  have hmem : ∀ r ∈ (db.table.drop j).take sliceSize, r ∈ db.table :=
    fun r hr => List.mem_of_mem_drop (List.mem_of_mem_take hr)
  simp only [sliceStep, fetch_sliceQuery, hsel,
    pushSlice_eq rd tbMeta orderColMeta (fun r hr => himage r (hmem r hr))
      (fun r hr => hord.decode r (hmem r hr)), Nat.zero_add]
  exact ⟨_, rfl, rfl, rfl, rfl, rfl⟩

theorem runSlices_scan (sliceSize : Nat) (tbMeta : TbMeta) {image : R → RowData}
    (hs : 0 < sliceSize) (hord : SliceOrder key db rd orderColMeta orderValue)
    (himage : ∀ r ∈ db.table, snapshotRow rd tbMeta r = .ok (image r)) :
    ∀ (fuel j : Nat) (st : SliceState), st.finished = false →
      db.table.filter (db.selects st.startValue) = db.table.drop j →
      (db.table.length - j) / sliceSize < fuel →
      ∃ final, runSlices db sliceSize rd tbMeta orderColMeta fuel st = .ok final ∧
        final.finished = true ∧ final.buffer = st.buffer ++ (db.table.drop j).map image ∧
        final.queries.length = st.queries.length + (db.table.length - j) / sliceSize + 1
  | 0, _, _, _, _, h => absurd h (Nat.not_lt_zero _)
  | fuel + 1, j, st, hfin, hsel, hfuel => by
    obtain ⟨next, hstep, hstart, hbuf₁, hq₁, hfin₁⟩ :=
      sliceStep_drop key sliceSize tbMeta hord himage hsel
    simp only [runSlices, hfin, Bool.false_eq_true, if_false, hstep, ok_bind]
    by_cases hlt : db.table.length - j < sliceSize
    · -- the last slice: the loop stops after it
      have htake : (db.table.drop j).take sliceSize = db.table.drop j :=
        List.take_of_length_le (by rw [List.length_drop]; omega)
      have hdone : next.finished = true := by
        rw [hfin₁, htake, List.length_drop, decide_eq_true_eq]
        exact hlt
      exact ⟨next, runSlices_of_finished db sliceSize rd tbMeta orderColMeta hdone fuel, hdone,
        by rw [hbuf₁, htake], by simp [hq₁, Nat.div_eq_of_lt hlt]⟩
    · -- a full slice: the next query selects the rows after it
      have hlen : ((db.table.drop j).take sliceSize).length = sliceSize := by
        rw [List.length_take, List.length_drop]
        omega
      have hi : j + sliceSize - 1 < db.table.length := by omega
      have hlast : ((db.table.drop j).take sliceSize).getLast? = some db.table[j + sliceSize - 1] := by
        rw [List.getLast?_eq_getElem?, hlen, List.getElem?_take, if_pos (by omega),
          List.getElem?_drop, show j + (sliceSize - 1) = j + sliceSize - 1 by omega,
          List.getElem?_eq_getElem hi]
      have hdiv : (db.table.length - j) / sliceSize =
          (db.table.length - (j + sliceSize)) / sliceSize + 1 := by
        rw [Nat.div_eq_sub_div hs (by omega), Nat.sub_add_eq]
      have hnext := hord.selects_after key hi
      rw [show j + sliceSize - 1 + 1 = j + sliceSize by omega] at hnext
      obtain ⟨final, hrun, hfin', hbuf, hq⟩ := runSlices_scan sliceSize tbMeta hs hord himage fuel
        (j + sliceSize) next (by simp [hfin₁, hlen]) (by rw [hstart, hlast]; exact hnext) (by omega)
      refine ⟨final, hrun, hfin', ?_, by rw [hq, hq₁, hdiv]; simp; omega⟩
      rw [hbuf, hbuf₁, List.append_assoc, ← List.map_append, ← List.drop_drop, List.take_append_drop]

end Sorted

def ScansOnce (db : SliceDb R) (sliceSize : Nat) (rd : RowReader R) (tbMeta : TbMeta)
    (orderColMeta : ColMeta) (image : R → RowData) (initStartValue : ColValue) : Prop :=
  ∃ final : SliceState, final.finished = true ∧
    final.buffer = (db.table.filter (db.selects initStartValue)).map image ∧
    final.queries.length = (db.table.filter (db.selects initStartValue)).length / sliceSize + 1 ∧
    ∀ fuel, (db.table.filter (db.selects initStartValue)).length / sliceSize + 1 ≤ fuel →
      extractBySlices db sliceSize rd tbMeta orderColMeta fuel initStartValue = .ok final

theorem slices_push_each_row_once {K : Type} [LinearOrder K] (db : SliceDb R) (sliceSize : Nat)
    (rd : RowReader R) (tbMeta : TbMeta) (orderColMeta : ColMeta) (key : R → K)
    (orderValue : R → ColValue) (image : R → RowData) (initStartValue : ColValue)
    (hs : 0 < sliceSize) (hord : SliceOrder key db rd orderColMeta orderValue)
    (himage : ∀ r ∈ db.table, snapshotRow rd tbMeta r = .ok (image r))
    (hinit : initStartValue = .none ∨ ∃ lo, ∀ r ∈ db.table, db.gt r initStartValue = decide (lo < key r)) :
    ScansOnce db sliceSize rd tbMeta orderColMeta image initStartValue := by
  obtain ⟨j, hj⟩ : ∃ j, db.table.filter (db.selects initStartValue) = db.table.drop j := by
    by_cases hv : initStartValue = .none
    · exact ⟨0, by simp [hv, SliceDb.selects]⟩
    · obtain ⟨lo, hlo⟩ := hinit.resolve_left hv
      refine filter_upward_eq_drop key hord.sorted fun r hr r' hr' hp hlt => ?_
      simp only [SliceDb.selects, hv, if_false, hlo r hr, hlo r' hr', decide_eq_true_eq] at hp ⊢
      exact lt_trans hp hlt
  obtain ⟨final, hrun, hfin, hbuf, hq⟩ := runSlices_scan key sliceSize tbMeta hs hord himage
    ((db.table.length - j) / sliceSize + 1) j ⟨initStartValue, [], [], false⟩ rfl hj
    (Nat.lt_succ_self _)
  refine ⟨final, hfin, by simpa [hj] using hbuf, by simpa [hj] using hq, fun fuel hfuel => ?_⟩
  rw [hj, List.length_drop] at hfuel
  exact runSlices_mono db sliceSize rd tbMeta orderColMeta hrun hfin hfuel

/-- A reader of tables whose rows are their own ids: the `id` of row `0` is NULL, that of any
other row `r` is the `INT` value `r`. -/
def idReader : RowReader Nat where
  getUnchecked r _ := if r = 0 then none else some []
  getUncheckedString _ _ := ""
  tryGetI8 _ _ := .error (.other "")
  tryGetU8 _ _ := .error (.other "")
  tryGetI16 _ _ := .error (.other "")
  tryGetU16 _ _ := .error (.other "")
  tryGetI32 r _ := .ok (BitVec.ofNat 32 r)
  tryGetU32 _ _ := .error (.other "")
  tryGetI64 _ _ := .error (.other "")
  tryGetU64 _ _ := .error (.other "")
  tryGetF32 _ _ := .error (.other "")
  tryGetF64 _ _ := .error (.other "")
  tryGetString _ _ := .error (.other "")
  tryGetBytes _ _ := .error (.other "")
  parseTime _ := .error (.other "")
  parseDate _ := .error (.other "")
  parseDatetime _ := .error (.other "")
  parseTimestamp _ := .error (.other "")

def idCol : ColMeta := ⟨"id", .long⟩

def idTbMeta : TbMeta := ⟨"db", "t", [("id", idCol)], some "id"⟩

def idTable (rows : List Nat) : SliceDb Nat :=
  ⟨rows, fun r v => match v with
    | .long x => decide (x.toNat < r)
    | _ => false⟩

theorem slices_scan_three_ids :
    let orderValue : Nat → ColValue := fun r => .long (BitVec.ofNat 32 r)
    let image : Nat → RowData :=
      fun r => ⟨"db", "t", .insert, none, some ((∅ : ColMap).insert "id" (orderValue r)), 0⟩
    0 < 2 ∧ SliceOrder id (idTable [1, 2, 3]) idReader idCol orderValue ∧
      (∀ r ∈ (idTable [1, 2, 3]).table, snapshotRow idReader idTbMeta r = .ok (image r)) ∧
      (ColValue.none = .none ∨
        ∃ lo, ∀ r ∈ (idTable [1, 2, 3]).table, (idTable [1, 2, 3]).gt r .none = decide (lo < id r)) ∧
      ScansOnce (idTable [1, 2, 3]) 2 idReader idTbMeta idCol image .none := by
  intro orderValue image
  have hord : SliceOrder id (idTable [1, 2, 3]) idReader idCol orderValue :=
    ⟨by decide, fun r hr => by simp only [idTable, List.mem_cons, List.mem_singleton,
      List.not_mem_nil, or_false] at hr; rcases hr with rfl | rfl | rfl <;> rfl,
      fun _ _ h => ColValue.noConfusion h, by decide⟩
  have himage : ∀ r ∈ (idTable [1, 2, 3]).table, snapshotRow idReader idTbMeta r = .ok (image r) := by
    intro r hr
    simp only [idTable, List.mem_cons, List.mem_singleton, List.not_mem_nil, or_false] at hr
    rcases hr with rfl | rfl | rfl <;> rfl
  exact ⟨by decide, hord, himage, .inl rfl, slices_push_each_row_once (idTable [1, 2, 3]) 2 idReader
    idTbMeta idCol id orderValue image .none (by decide) hord himage (.inl rfl)⟩

theorem null_order_value_rescans_first_slice (fuel : Nat) :
    extractBySlices (idTable [0, 1]) 1 idReader idTbMeta idCol fuel .none =
      .ok ⟨.none, List.replicate fuel ⟨"db", "t", .insert, none, some ((∅ : ColMap).insert "id" .none), 0⟩,
        List.replicate fuel .sql1, false⟩ := by
  simpa [extractBySlices, idTable] using runSlices_restarts (idTable [0, 1]) 1 idReader idTbMeta
    idCol (fun _ => ⟨"db", "t", .insert, none, some ((∅ : ColMap).insert "id" .none), 0⟩)
    (fun _ => .none) (by decide) (fun r hr => by simp [idTable] at hr; subst hr; rfl)
    (fun r hr => by simp [idTable] at hr; subst hr; rfl) (fun _ _ => rfl) fuel [] []

end CubetranCore.Snapshot
