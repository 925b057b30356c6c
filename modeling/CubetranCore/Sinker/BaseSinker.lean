import CubetranCore.Meta.Data

namespace CubetranCore.Sinker

/-- `BaseSinker::update_batch_monitor`, with `start_time.elapsed()` as `elapsedMicros`. -/
def updateBatchMonitor (monitor : Monitor) (batchSize elapsedMicros : Nat) : Monitor :=
  ((monitor.addCounter .recordsPerQuery batchSize).addCounter .records batchSize).addCounter
    .rtPerQuery elapsedMicros

/-- `BaseSinker::update_serial_monitor`, with `start_time.elapsed()` as `elapsedMicros`. -/
def updateSerialMonitor (monitor : Monitor) (recordCount elapsedMicros : Nat) : Monitor :=
  (((monitor.addBatchCounter .recordsPerQuery recordCount recordCount).addCounter .records
    recordCount).addCounter .serialWrites recordCount).addBatchCounter .rtPerQuery elapsedMicros
    recordCount

section CallBatchFn

variable {σ : Type} (selfBatchSize allCount : Nat) (batchFn : σ → Nat → Nat → Except Fault σ)

/-- The `loop` of `call_batch_fn!` from `sinked_count`, for at most `fuel` turns; `batchFn` is
`$batch_fn(...).await.unwrap()` on the sinker's state. -/
def callBatchFnFrom : Nat → Nat → σ → Except Fault σ
  | 0, _, st => .ok st
  | fuel + 1, sinkedCount, st =>
    let batchSize :=
      if allCount - sinkedCount < selfBatchSize then allCount - sinkedCount else selfBatchSize
    if batchSize = 0 then .ok st
    else do
      let st ← batchFn st sinkedCount batchSize
      callBatchFnFrom fuel (sinkedCount + batchSize) st

/-- `call_batch_fn!` from `sinked_count = 0`. Every turn but the last sinks at least one row, so
`all_count + 1` turns run the loop to its `break` (`callBatchFnFrom_eq_foldlM`). -/
def callBatchFn (st : σ) : Except Fault σ :=
  callBatchFnFrom selfBatchSize allCount batchFn (allCount + 1) 0 st

end CallBatchFn

def batchWindows (b s r : Nat) : List (Nat × Nat) :=
  (List.range ((r + b - 1) / b)).map fun k => (s + k * b, min b (r - k * b))

@[simp] theorem batchWindows_length (b s r : Nat) :
    (batchWindows b s r).length = (r + b - 1) / b := by
  simp [batchWindows]

@[simp] theorem batchWindows_getElem (b s r k : Nat) (hk : k < (batchWindows b s r).length) :
    (batchWindows b s r)[k] = (s + k * b, min b (r - k * b)) := by
  simp [batchWindows]

theorem batchWindows_zero (b s : Nat) : batchWindows b s 0 = [] := by
  rcases Nat.eq_zero_or_pos b with rfl | hb
  · rfl
  · simp [batchWindows, Nat.div_eq_of_lt (show b - 1 < b by omega)]

theorem batchWindows_cons {b r : Nat} (s : Nat) (hb : 0 < b) (hr : 0 < r) :
    batchWindows b s r = (s, min b r) :: batchWindows b (s + min b r) (r - min b r) := by
  rcases le_or_lt b r with hbr | hrb
  · have hc : (r + b - 1) / b = (r - b + b - 1) / b + 1 := by
      rw [Nat.div_eq_sub_div hb (by omega)]
      congr 2
      omega
    simp only [batchWindows, hc, List.range_succ_eq_map, List.map_cons, List.map_map,
      min_eq_left hbr]
    refine congrArg₂ _ (by simp [hbr]) (List.map_congr_left fun k _ => ?_)
    simp only [Function.comp, Nat.succ_mul, Prod.mk.injEq]
    constructor <;> omega
  · have hc : (r + b - 1) / b = 1 := by
      rw [Nat.div_eq_sub_div hb (by omega), Nat.div_eq_of_lt (by omega)]
    rw [min_eq_right hrb.le, Nat.sub_self, batchWindows_zero]
    simp [batchWindows, hc, show List.range 1 = [0] from rfl, hrb.le]

theorem batchWindows_bound {b s r : Nat} {w : Nat × Nat} (hb : 0 < b)
    (hw : w ∈ batchWindows b s r) : 0 < w.2 ∧ w.1 + w.2 ≤ s + r := by
  obtain ⟨k, hk, rfl⟩ := List.mem_map.mp hw
  have hkb : (k + 1) * b ≤ r + b - 1 :=
    (Nat.le_div_iff_mul_le hb).mp (List.mem_range.mp hk)
  rw [Nat.succ_mul] at hkb
  dsimp only
  omega

theorem batchWindows_flatten {α : Type} (l : List α) {b : Nat} (hb : 0 < b) (s r : Nat) :
    ((batchWindows b s r).map fun w => (l.drop w.1).take w.2).flatten = (l.drop s).take r := by
  induction r using Nat.strong_induction_on generalizing s with
  | _ r ih =>
    rcases Nat.eq_zero_or_pos r with rfl | hr
    · simp [batchWindows_zero]
    · rw [batchWindows_cons s hb hr, List.map_cons, List.flatten_cons,
        ih (r - min b r) (by omega), ← List.drop_drop, ← List.take_add]
      congr 1
      omega

section CallBatchFn

variable {σ : Type} {selfBatchSize : Nat} (allCount : Nat) (batchFn : σ → Nat → Nat → Except Fault σ)

theorem callBatchFnFrom_eq_foldlM (hb : 0 < selfBatchSize) :
    ∀ (fuel s : Nat) (st : σ), allCount - s < fuel →
      callBatchFnFrom selfBatchSize allCount batchFn fuel s st =
        (batchWindows selfBatchSize s (allCount - s)).foldlM (fun st w => batchFn st w.1 w.2) st
  | 0, _, _, hfuel => absurd hfuel (Nat.not_lt_zero _)
  | fuel + 1, s, st, hfuel => by
    have hmin : (if allCount - s < selfBatchSize then allCount - s else selfBatchSize) =
        min selfBatchSize (allCount - s) := by
      split <;> omega
    simp only [callBatchFnFrom, hmin]
    rcases Nat.eq_zero_or_pos (allCount - s) with hr | hr
    · simp [hr, batchWindows_zero]
      rfl
    · rw [if_neg (by omega), batchWindows_cons s hb hr, List.foldlM_cons]
      congr 1
      funext st'
      rw [callBatchFnFrom_eq_foldlM hb fuel (s + _) st' (by omega)]
      congr 2
      omega

theorem callBatchFn_eq_foldlM (hb : 0 < selfBatchSize) (st : σ) :
    callBatchFn selfBatchSize allCount batchFn st =
      (batchWindows selfBatchSize 0 allCount).foldlM (fun st w => batchFn st w.1 w.2) st :=
  callBatchFnFrom_eq_foldlM allCount batchFn hb (allCount + 1) 0 st (by omega)

theorem callBatchFn_of_batchSize_zero (st : σ) :
    callBatchFn 0 allCount batchFn st = .ok st := by
  simp [callBatchFn, callBatchFnFrom]

end CallBatchFn

theorem batchWindows_of_batchSize_zero (s r : Nat) : batchWindows 0 s r = [] := by
  simp [batchWindows]

structure TilesRows (b n : Nat) (ws : List (Nat × Nat)) : Prop where
  start : ∀ w ∈ ws.head?, w.1 = 0
  next : ∀ j (hj : j + 1 < ws.length), ws[j + 1].1 = ws[j].1 + ws[j].2
  size : ∀ w ∈ ws, 1 ≤ w.2 ∧ w.2 ≤ b
  bounded : ∀ w ∈ ws, w.1 + w.2 ≤ n
  last : 0 < n → ∃ w ∈ ws.getLast?, w.1 + w.2 = n
  indices : (ws.map fun w => ((List.range n).drop w.1).take w.2).flatten = List.range n

theorem tilesRows_nil (b : Nat) : TilesRows b 0 [] where
  start _ h := nomatch h
  next _ hj := absurd hj (Nat.not_lt_zero _)
  size _ h := nomatch h
  bounded _ h := nomatch h
  last h := absurd h (Nat.lt_irrefl 0)
  indices := rfl

theorem tilesRows_batchWindows {b : Nat} (hb : 0 < b) (n : Nat) :
    TilesRows b n (batchWindows b 0 n) where
  start w hw := by
    rcases Nat.eq_zero_or_pos n with rfl | hn
    · simp [batchWindows_zero] at hw
    · rw [batchWindows_cons 0 hb hn] at hw
      cases hw
      rfl
  next j hj := by
    have hkb : (j + 1 + 1) * b ≤ n + b - 1 :=
      (Nat.le_div_iff_mul_le hb).mp (by simpa using hj)
    simp only [batchWindows_getElem, Nat.zero_add, Nat.succ_mul] at hkb ⊢
    omega
  size w hw := by
    obtain ⟨k, -, rfl⟩ := List.mem_map.mp hw
    exact ⟨(batchWindows_bound hb hw).1, min_le_left _ _⟩
  bounded w hw := by simpa using (batchWindows_bound hb hw).2
  last hn := by
    have hc : 0 < (n + b - 1) / b := Nat.div_pos (by omega) hb
    obtain ⟨d, hd⟩ : ∃ d, (n + b - 1) / b = d + 1 := ⟨_, (Nat.succ_pred_eq_of_pos hc).symm⟩
    have hlow : (d + 1) * b ≤ n + b - 1 := hd ▸ Nat.div_mul_le_self (n + b - 1) b
    have hdiv := Nat.div_add_mod (n + b - 1) b
    have hmod := Nat.mod_lt (n + b - 1) hb
    rw [hd, Nat.mul_comm] at hdiv
    refine ⟨_, by rw [List.getLast?_eq_getElem?, List.getElem?_eq_getElem (by simp; omega)]; rfl, ?_⟩
    simp only [batchWindows_getElem, batchWindows_length, Nat.zero_add, hd, Nat.add_sub_cancel,
      Nat.succ_mul] at hlow hdiv ⊢
    omega
  indices := by
    rw [batchWindows_flatten _ hb, List.drop_zero, List.take_of_length_le (by simp)]

theorem call_batch_fn_tiles_rows_iff (b n : Nat) :
    (∀ {σ : Type} (batchFn : σ → Nat → Nat → Except Fault σ) (st : σ),
      callBatchFn b n batchFn st =
        (batchWindows b 0 n).foldlM (fun st w => batchFn st w.1 w.2) st) ∧
    (TilesRows b n (batchWindows b 0 n) ↔ 0 < b ∨ n = 0) := by
  refine ⟨fun batchFn st => ?_, fun h => ?_, ?_⟩
  · rcases Nat.eq_zero_or_pos b with rfl | hb
    · rw [callBatchFn_of_batchSize_zero, batchWindows_of_batchSize_zero]
      rfl
    · exact callBatchFn_eq_foldlM n batchFn hb st
  · rcases Nat.eq_zero_or_pos b with rfl | hb
    · rcases Nat.eq_zero_or_pos n with rfl | hn
      · exact .inr rfl
      · obtain ⟨w, hw, -⟩ := h.last hn
        simp [batchWindows_of_batchSize_zero] at hw
    · exact .inl hb
  · rintro (hb | rfl)
    · exact tilesRows_batchWindows hb n
    · rw [batchWindows_zero]
      exact tilesRows_nil b

end CubetranCore.Sinker
