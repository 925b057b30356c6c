import CubetranCore.Meta.Data

namespace CubetranCore.Pipeline

variable {P Q α : Type}

inductive SinkMethod where
  | raw
  | ddl
  | dml
  deriving DecidableEq, Repr

def getSinkMethod : List (DtItem P) → SinkMethod
  | [] => .raw
  | i :: data =>
      match i.dtData with
      | .ddl _ => .ddl
      | .dml _ => .dml
      | .redis _ => .raw
      | .begin | .commit => getSinkMethod data

/-- The payloads `fetch_raw` keeps: all but Begin, Commit and Redis PINGs. -/
def rawPayload : DtData → Option DtData
  | .commit | .begin => none
  | .redis entry => if entry.isPing then none else some (.redis entry)
  | d => some d

/-- Loop state of the fetch functions: payloads, `last_received_position`, `last_commit_position`. -/
abbrev Fetched (α P : Type) := List α × Option P × Option P

def lastPosition (p : DtData → Bool) (data : List (DtItem P)) : Option P :=
  ((data.filter (p ·.dtData)).getLast?).map (·.position)

theorem lastPosition_append_singleton (p : DtData → Bool) (data : List (DtItem P)) (i : DtItem P) :
    lastPosition p (data ++ [i]) = if p i.dtData then some i.position else lastPosition p data := by
  unfold lastPosition
  by_cases h : p i.dtData <;> simp [List.filter_append, h, List.getLast?_append]

theorem lastPosition_map (p : DtData → Bool) (f : P → Q) (data : List (DtItem P)) :
    lastPosition p (data.map (DtItem.mapPosition f)) = (lastPosition p data).map f := by
  induction data using List.reverseRecOn with
  | nil => rfl
  | append_singleton data i ih =>
      rw [List.map_append, List.map_singleton, lastPosition_append_singleton,
        lastPosition_append_singleton, DtItem.mapPosition_dtData, ih]
      split <;> rfl

theorem lastPosition_isSome_mono {p q : DtData → Bool} (hpq : ∀ d, p d → q d)
    (data : List (DtItem P)) : (lastPosition p data).isSome → (lastPosition q data).isSome := by
  induction data using List.reverseRecOn with
  | nil => simp [lastPosition]
  | append_singleton data i ih =>
      rw [lastPosition_append_singleton, lastPosition_append_singleton]
      by_cases hp : p i.dtData
      · simp [hp, hpq _ hp]
      · by_cases hq : q i.dtData
        · simp [hq]
        · simpa [hp, hq] using ih

theorem lastPosition_getElem {p : DtData → Bool} {data : List (DtItem P)} {x : P}
    (h : lastPosition p data = some x) :
    ∃ i, ∃ hi : i < data.length, p data[i].dtData ∧ data[i].position = x ∧
      ∀ k (hk : k < data.length), i < k → p data[k].dtData = false := by
  induction data using List.reverseRecOn with
  | nil => cases h
  | append_singleton data a ih =>
    rw [lastPosition_append_singleton] at h
    by_cases ha : p a.dtData
    · -- the new item is the last one with the property
      rw [if_pos ha, Option.some_inj] at h
      refine ⟨data.length, by simp, ?_, ?_, fun k hk hlt => absurd hk (by simp; omega)⟩
      · rwa [List.getElem_concat_length _ _ _ rfl]
      · rw [List.getElem_concat_length _ _ _ rfl, h]
    · -- it is the last one of `data`, and the new item lacks the property
      rw [if_neg ha] at h
      obtain ⟨i, hi, hp, hx, hlast⟩ := ih h
      refine ⟨i, by simp; omega, by rwa [List.getElem_append_left hi],
        by rwa [List.getElem_append_left hi], fun k hk hlt => ?_⟩
      rcases Nat.lt_or_ge k data.length with hk' | hk'
      · rw [List.getElem_append_left hk']
        exact hlast k hk' hlt
      · rw [List.getElem_concat_length _ _ _ (by simp at hk; omega)]
        simpa using ha

theorem lastPosition_at_or_after {p q : DtData → Bool} (hpq : ∀ d, p d → q d)
    {data : List (DtItem P)} {x : P} (h : lastPosition p data = some x) :
    ∃ i j, ∃ hi : i < data.length, ∃ hj : j < data.length, i ≤ j ∧ p data[i].dtData ∧
      data[i].position = x ∧ lastPosition q data = some data[j].position := by
  obtain ⟨i, hi, hp, hx, -⟩ := lastPosition_getElem h
  obtain ⟨y, hy⟩ := Option.isSome_iff_exists.mp
    (lastPosition_isSome_mono hpq data (by rw [h]; rfl))
  obtain ⟨j, hj, -, hjy, hlast⟩ := lastPosition_getElem hy
  refine ⟨i, j, hi, hj, Nat.le_of_not_lt fun hji => ?_, hp, hx, by rw [hy, hjy]⟩
  have hq := hpq _ hp
  rw [hlast i hi hji] at hq
  cases hq

section Select

variable (select : DtData → Option α)

/-- The loop body shared by `fetch_dml` and `fetch_ddl`; `select` picks the payload kind. -/
def fetchStep (acc : Fetched α P) (i : DtItem P) : Fetched α P :=
  match i.dtData with
  | .commit => (acc.1, some i.position, some i.position)
  | d =>
      match select d with
      | some a => (acc.1 ++ [a], some i.position, acc.2.2)
      | none => acc

def fetchWith (data : List (DtItem P)) : Fetched α P :=
  data.foldl (fetchStep select) ([], none, none)

def receivedKind (d : DtData) : Bool :=
  d.isCommit || (select d).isSome

theorem fetchWith_eq (hcommit : select .commit = none) (data : List (DtItem P)) :
    fetchWith select data =
      (data.filterMap (select ·.dtData), lastPosition (receivedKind select) data,
        lastPosition DtData.isCommit data) := by
  unfold fetchWith
  induction data using List.reverseRecOn with
  | nil => rfl
  | append_singleton data i ih =>
      rw [List.foldl_append, ih, List.foldl_cons, List.foldl_nil, List.filterMap_append,
        lastPosition_append_singleton, lastPosition_append_singleton]
      unfold fetchStep
      cases h : i.dtData <;> cases hs : select i.dtData <;>
        simp_all [receivedKind, DtData.isCommit]

theorem fetchWith_map (hcommit : select .commit = none) (f : P → Q) (data : List (DtItem P)) :
    fetchWith select (data.map (DtItem.mapPosition f)) =
      ((fetchWith select data).1, (fetchWith select data).2.1.map f,
        (fetchWith select data).2.2.map f) := by
  simp [fetchWith_eq select hcommit, lastPosition_map, Function.comp_def]

end Select

def fetchDml (data : List (DtItem P)) : Fetched RowData P :=
  fetchWith DtData.dmlRow data

def fetchDdl (data : List (DtItem P)) : Fetched DdlData P :=
  fetchWith DtData.ddlData data

def ReceivedCoversCommit (data : List (DtItem P)) (fetched : Fetched α P) : Prop :=
  ∀ c, fetched.2.2 = some c → ∃ i j, ∃ hi : i < data.length, ∃ hj : j < data.length, i ≤ j ∧
    data[i].dtData.isCommit ∧ data[i].position = c ∧ fetched.2.1 = some data[j].position

theorem receivedCoversCommit_fetchWith (select : DtData → Option α) (hcommit : select .commit = none)
    (data : List (DtItem P)) : ReceivedCoversCommit data (fetchWith select data) := by
  rw [fetchWith_eq select hcommit]
  exact fun c hc => lastPosition_at_or_after (fun d hd => by simp [receivedKind, hd]) hc

theorem fetch_dml_ddl_law (data : List (DtItem P)) :
    fetchDml data = (data.filterMap (·.dtData.dmlRow),
        lastPosition (fun d => d.isCommit || d.dmlRow.isSome) data,
        lastPosition DtData.isCommit data) ∧
      fetchDdl data = (data.filterMap (·.dtData.ddlData),
        lastPosition (fun d => d.isCommit || d.ddlData.isSome) data,
        lastPosition DtData.isCommit data) ∧
      ReceivedCoversCommit data (fetchDml data) ∧ ReceivedCoversCommit data (fetchDdl data) :=
  ⟨fetchWith_eq _ rfl data, fetchWith_eq _ rfl data, receivedCoversCommit_fetchWith _ rfl data,
    receivedCoversCommit_fetchWith _ rfl data⟩

def fetchRawStep (acc : Fetched DtData P) (i : DtItem P) : Fetched DtData P :=
  match i.dtData with
  | .commit => (acc.1, some i.position, some i.position)
  | .redis entry =>
      (if entry.isPing then acc.1 else acc.1 ++ [.redis entry], some i.position, some i.position)
  | .begin => acc
  | d => (acc.1 ++ [d], some i.position, acc.2.2)

def fetchRaw (data : List (DtItem P)) : Fetched DtData P :=
  data.foldl fetchRawStep ([], none, none)

theorem fetchRaw_eq (data : List (DtItem P)) :
    fetchRaw data =
      (data.filterMap (rawPayload ·.dtData), lastPosition (fun d => !d.isBegin) data,
        lastPosition (fun d => d.isCommit || d.isRedis) data) := by
  unfold fetchRaw
  induction data using List.reverseRecOn with
  | nil => rfl
  | append_singleton data i ih =>
      rw [List.foldl_append, ih, List.foldl_cons, List.foldl_nil, List.filterMap_append,
        lastPosition_append_singleton, lastPosition_append_singleton]
      unfold fetchRawStep
      cases h : i.dtData with
      | redis entry =>
          by_cases hp : entry.isPing <;>
            simp [h, hp, rawPayload, DtData.isBegin, DtData.isCommit, DtData.isRedis]
      | _ => simp [h, rawPayload, DtData.isBegin, DtData.isCommit, DtData.isRedis]

theorem fetchRaw_map (f : P → Q) (data : List (DtItem P)) :
    fetchRaw (data.map (DtItem.mapPosition f)) =
      ((fetchRaw data).1, (fetchRaw data).2.1.map f, (fetchRaw data).2.2.map f) := by
  simp [fetchRaw_eq, lastPosition_map, Function.comp_def]

theorem getSinkMethod_map (f : P → Q) (data : List (DtItem P)) :
    getSinkMethod (data.map (DtItem.mapPosition f)) = getSinkMethod data := by
  induction data with
  | nil => rfl
  | cons i data ih => simp only [List.map_cons, getSinkMethod, DtItem.mapPosition_dtData, ih]

end CubetranCore.Pipeline
