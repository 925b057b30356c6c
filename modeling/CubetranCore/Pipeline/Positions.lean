import CubetranCore.Pipeline.Dispatch
import Mathlib.Data.List.Sort

namespace CubetranCore.Pipeline

variable {P : Type}

/-- The queue from index `k` on, each position paired with its queue index plus one. -/
def indexedFrom : Nat → List (DtItem P) → List (DtItem (P × Nat))
  | _, [] => []
  | k, i :: src => i.mapPosition (·, k + 1) :: indexedFrom (k + 1) src

def indexed (src : List (DtItem P)) : List (DtItem (P × Nat)) :=
  indexedFrom 0 src

/-- The initial syncer positions carry index 0, below every queue item. -/
def Syncer.indexed (s : Syncer P) : Syncer (P × Nat) :=
  s.mapPosition (·, 0)

theorem indexedFrom_map_fst (k : Nat) (src : List (DtItem P)) :
    (indexedFrom k src).map (DtItem.mapPosition Prod.fst) = src := by
  induction src generalizing k with
  | nil => rfl
  | cons i src ih => simp only [indexedFrom, List.map_cons, ih]; rfl

theorem indexedFrom_drop (k d : Nat) (src : List (DtItem P)) :
    (indexedFrom k src).drop d = indexedFrom (k + d) (src.drop d) := by
  induction src generalizing k d with
  | nil => simp [indexedFrom]
  | cons i src ih =>
      cases d with
      | zero => rfl
      | succ d => simp only [indexedFrom, List.drop_succ_cons, ih]; rw [Nat.add_right_comm]; rfl

theorem indexedFrom_take (k d : Nat) (src : List (DtItem P)) :
    (indexedFrom k src).take d = indexedFrom k (src.take d) := by
  induction src generalizing k d with
  | nil => simp [indexedFrom]
  | cons i src ih =>
      cases d with
      | zero => rfl
      | succ d => simp only [indexedFrom, List.take_succ_cons, ih]

theorem mem_indexedFrom {k : Nat} {src : List (DtItem P)} {i : DtItem (P × Nat)}
    (h : i ∈ indexedFrom k src) :
    ∃ j, ∃ hj : j < src.length, i = (src.get ⟨j, hj⟩).mapPosition (·, k + j + 1) := by
  induction src generalizing k with
  | nil => simp [indexedFrom] at h
  | cons a src ih =>
      rcases List.mem_cons.mp h with rfl | h
      · exact ⟨0, by simp, rfl⟩
      · obtain ⟨j, hj, rfl⟩ := ih h
        exact ⟨j + 1, by simpa using hj, by simp [Nat.add_right_comm, Nat.add_assoc]⟩

theorem tag_mem_indexedFrom {k : Nat} {src : List (DtItem P)} {i : DtItem (P × Nat)}
    (h : i ∈ indexedFrom k src) : k < i.position.2 ∧ i.position.2 ≤ k + src.length := by
  obtain ⟨j, hj, rfl⟩ := mem_indexedFrom h
  simp only [DtItem.mapPosition_position]
  omega

theorem indexedFrom_pairwise (k : Nat) (src : List (DtItem P)) :
    (indexedFrom k src).Pairwise (·.position.2 < ·.position.2) := by
  induction src generalizing k with
  | nil => exact .nil
  | cons i src ih =>
      refine .cons (fun a ha => ?_) (ih (k + 1))
      have := (tag_mem_indexedFrom ha).1
      simp only [DtItem.mapPosition_position]
      omega

def tag (x : Option (P × Nat)) : Nat :=
  (x.map Prod.snd).getD 0

@[simp] theorem tag_some (x : P × Nat) : tag (some x) = x.2 := rfl

@[simp] theorem tag_none : tag (none : Option (P × Nat)) = 0 := rfl

theorem getD_snd (x : Option (P × Nat)) (a : P) : (x.getD (a, 0)).2 = tag x := by
  cases x <;> rfl

theorem indexed_take_add (src : List (DtItem P)) (d n : Nat) :
    indexed (src.take (d + n)) = indexed (src.take d) ++ indexedFrom d ((src.drop d).take n) := by
  simp only [indexed, ← indexedFrom_take]
  rw [List.take_add, indexedFrom_drop, Nat.zero_add]

theorem tag_le_of_mem_indexed {src : List (DtItem P)} {d : Nat} {i : DtItem (P × Nat)}
    (h : i ∈ indexed (src.take d)) : i.position.2 ≤ d := by
  have := (tag_mem_indexedFrom h).2
  have := List.length_take_le d src
  omega

theorem lastPosition_mem {p : DtData → Bool} {data : List (DtItem P)} {x : P}
    (h : lastPosition p data = some x) : ∃ i ∈ data, p i.dtData ∧ i.position = x := by
  obtain ⟨i, hi, rfl⟩ := Option.map_eq_some'.mp h
  obtain ⟨hm, hp⟩ := List.mem_filter.mp (List.mem_of_getLast?_eq_some hi)
  exact ⟨i, hm, hp, rfl⟩

theorem lastPosition_tag_le {p q : DtData → Bool} (hpq : ∀ d, p d → q d)
    (data : List (DtItem (P × Nat))) (hs : data.Pairwise (·.position.2 < ·.position.2)) :
    tag (lastPosition p data) ≤ tag (lastPosition q data) := by
  induction data using List.reverseRecOn with
  | nil => exact le_rfl
  | append_singleton data i ih =>
      obtain ⟨hs, -, hlt⟩ := List.pairwise_append.mp hs
      rw [lastPosition_append_singleton, lastPosition_append_singleton]
      by_cases hp : p i.dtData
      · simp [hp, hpq _ hp]
      · by_cases hq : q i.dtData
        · simp only [hp, hq, if_true, if_false, Bool.false_eq_true]
          cases hx : lastPosition p data with
          | none => exact Nat.zero_le _
          | some x =>
              obtain ⟨a, ha, -, rfl⟩ := lastPosition_mem hx
              exact Nat.le_of_lt (hlt a ha i (List.mem_singleton_self i))
        · simpa [hp, hq] using ih hs

def commitKind (d : DtData) : Bool :=
  d.isCommit || d.isRedis

section Inversion

variable (cfg : PipelineConfig)

theorem sink_positions {data : List (DtItem P)} {calls calls' : List SinkCall} {count : Nat}
    {r c : Option P} (h : sink cfg data calls = .ok (count, r, c, calls')) :
    ∃ p q : DtData → Bool, (∀ d, p d → q d) ∧ (∀ d, p d → commitKind d) ∧
      (∀ d, q d → !d.isBegin) ∧ r = lastPosition q data ∧ c = lastPosition p data := by
  unfold sink at h
  split at h
  · unfold sinkDdl fetchDdl at h
    rw [fetchWith_eq _ rfl] at h
    obtain ⟨a, -, ha⟩ := map_eq_ok h
    cases ha
    refine ⟨DtData.isCommit, receivedKind DtData.ddlData, ?_, ?_, ?_, rfl, rfl⟩ <;>
      intro d <;> cases d <;> simp [receivedKind, commitKind, DtData.isCommit, DtData.isBegin,
        DtData.ddlData]
  · unfold sinkDml fetchDml at h
    rw [fetchWith_eq _ rfl] at h
    obtain ⟨a, -, ha⟩ := map_eq_ok h
    cases ha
    refine ⟨DtData.isCommit, receivedKind DtData.dmlRow, ?_, ?_, ?_, rfl, rfl⟩ <;>
      intro d <;> cases d <;> simp [receivedKind, commitKind, DtData.isCommit, DtData.isBegin,
        DtData.dmlRow]
  · unfold sinkRaw at h
    rw [fetchRaw_eq] at h
    obtain ⟨a, -, ha⟩ := map_eq_ok h
    cases ha
    refine ⟨commitKind, fun d => !d.isBegin, ?_, fun _ h => h, fun _ h => h, rfl, rfl⟩
    intro d; cases d <;> simp [commitKind, DtData.isCommit, DtData.isBegin, DtData.isRedis]

theorem dispatch_positions {g g' : BasePipeline P} {data : List (DtItem P)} {due : Bool}
    (h : dispatch cfg g data due = .ok g') :
    ∃ p q : DtData → Bool, (∀ d, p d → q d) ∧ (∀ d, p d → commitKind d) ∧
      (∀ d, q d → !d.isBegin) ∧
      g'.lastReceivedPosition = (lastPosition q data).or g.lastReceivedPosition ∧
      g'.lastCommitPosition = (lastPosition p data).or g.lastCommitPosition ∧
      g'.syncer = recordCheckpoint due g'.lastCommitPosition
        ((lastPosition q data).elim g.syncer fun x => { g.syncer with receivedPosition := x }) := by
  unfold dispatch at h
  rcases hs : sink cfg data g.calls with _ | ⟨count, r, c, calls⟩ <;> rw [hs] at h
  · cases h
  · cases h
    obtain ⟨p, q, hpq, hp, hq, rfl, rfl⟩ := sink_positions cfg hs
    refine ⟨p, q, hpq, hp, hq, rfl, rfl, ?_⟩
    cases lastPosition q data <;> rfl

end Inversion

@[simp] theorem recordCheckpoint_receivedPosition (due : Bool) (c : Option P) (syncer : Syncer P) :
    (recordCheckpoint due c syncer).receivedPosition = syncer.receivedPosition := by
  unfold recordCheckpoint; split <;> [split <;> rfl; rfl]

theorem recordCheckpoint_committedPosition (due : Bool) (c : Option P) (syncer : Syncer P) :
    (recordCheckpoint due c syncer).committedPosition =
      if due then c.getD syncer.committedPosition else syncer.committedPosition := by
  unfold recordCheckpoint; cases due <;> cases c <;> rfl

structure NamesDrained (src : List (DtItem P)) (s0 : Syncer P) (d : Nat)
    (g : BasePipeline (P × Nat)) : Prop where
  received : g.syncer.receivedPosition = g.lastReceivedPosition.getD (s0.receivedPosition, 0)
  lastReceived : ∀ x ∈ g.lastReceivedPosition,
    ∃ i ∈ indexed (src.take d), !i.dtData.isBegin ∧ i.position = x
  lastCommit : ∀ x ∈ g.lastCommitPosition,
    ∃ i ∈ indexed (src.take d), commitKind i.dtData ∧ i.position = x
  committed : g.syncer.committedPosition = (s0.committedPosition, 0) ∨
    ∃ i ∈ indexed (src.take d), commitKind i.dtData ∧ i.position = g.syncer.committedPosition
  commitLeReceived : tag g.lastCommitPosition ≤ tag g.lastReceivedPosition
  committedLeCommit : g.syncer.committedPosition.2 ≤ tag g.lastCommitPosition

variable {src : List (DtItem P)} {s0 : Syncer P} {d : Nat} {g g' : BasePipeline (P × Nat)}

theorem namesDrained_init (dataMarker : Option DataMarker) :
    NamesDrained src s0 0 (.init s0.indexed dataMarker) :=
  ⟨rfl, by simp [BasePipeline.init], by simp [BasePipeline.init], .inl rfl, le_rfl, le_rfl⟩

theorem NamesDrained.tag_lastReceived_le (hg : NamesDrained src s0 d g) :
    tag g.lastReceivedPosition ≤ d := by
  cases hx : g.lastReceivedPosition with
  | none => exact Nat.zero_le _
  | some x =>
      obtain ⟨i, hi, -, rfl⟩ := hg.lastReceived x hx
      exact tag_le_of_mem_indexed hi

theorem NamesDrained.tag_lastCommit_le (hg : NamesDrained src s0 d g) :
    tag g.lastCommitPosition ≤ d := by
  cases hx : g.lastCommitPosition with
  | none => exact Nat.zero_le _
  | some x =>
      obtain ⟨i, hi, -, rfl⟩ := hg.lastCommit x hx
      exact tag_le_of_mem_indexed hi

theorem names_or {k k' : DtData → Bool} (hk : ∀ d, k d → k' d)
    {B small big : List (DtItem (P × Nat))} (hB : ∀ i ∈ B, i ∈ big) (hsmall : ∀ i ∈ small, i ∈ big)
    {old : Option (P × Nat)} (hold : ∀ x ∈ old, ∃ i ∈ small, k' i.dtData ∧ i.position = x) :
    ∀ x ∈ (lastPosition k B).or old, ∃ i ∈ big, k' i.dtData ∧ i.position = x := by
  intro x hx
  cases hb : lastPosition k B with
  | some y =>
    rw [hb, Option.or_some, Option.mem_def, Option.some_inj] at hx
    obtain ⟨i, hi, hki, rfl⟩ := lastPosition_mem hb
    exact ⟨i, hB i hi, hk _ hki, hx⟩
  | none =>
    rw [hb, Option.none_or] at hx
    obtain ⟨i, hi, hki, rfl⟩ := hold x hx
    exact ⟨i, hsmall i hi, hki, rfl⟩

theorem tag_le_or {k : DtData → Bool} {B : List (DtItem (P × Nat))} {old : Option (P × Nat)}
    (hB : ∀ i ∈ B, d < i.position.2) (hold : tag old ≤ d) :
    tag old ≤ tag ((lastPosition k B).or old) := by
  cases hx : lastPosition k B with
  | none => exact le_rfl
  | some x =>
    obtain ⟨i, hi, -, rfl⟩ := lastPosition_mem hx
    have := hB i hi
    simp only [Option.or_some, tag_some]
    omega

theorem namesDrained_dispatch (cfg : PipelineConfig) (n : Nat) (due : Bool)
    (hg : NamesDrained src s0 d g)
    (h : dispatch cfg g (indexedFrom d ((src.drop d).take n)) due = .ok g') :
    NamesDrained src s0 (d + n) g' ∧
      g.syncer.receivedPosition.2 ≤ g'.syncer.receivedPosition.2 ∧
      g.syncer.committedPosition.2 ≤ g'.syncer.committedPosition.2 := by
  have hpair := indexedFrom_pairwise d ((src.drop d).take n)
  have htags : ∀ i ∈ indexedFrom d ((src.drop d).take n), d < i.position.2 :=
    fun i hi => (tag_mem_indexedFrom hi).1
  have hmem : ∀ i ∈ indexedFrom d ((src.drop d).take n), i ∈ indexed (src.take (d + n)) :=
    fun i hi => by rw [indexed_take_add]; exact List.mem_append_right _ hi
  generalize indexedFrom d ((src.drop d).take n) = B at h hpair htags hmem
  obtain ⟨p, q, hpq, hp, hq, hlr, hlc, hsy⟩ := dispatch_positions cfg h
  have hold : ∀ i ∈ indexed (src.take d), i ∈ indexed (src.take (d + n)) := fun i hi => by
    rw [indexed_take_add]; exact List.mem_append_left _ hi
  -- the loop-local positions move forward and name drained items
  have hlr_mono : tag g.lastReceivedPosition ≤ tag g'.lastReceivedPosition := by
    rw [hlr]; exact tag_le_or htags hg.tag_lastReceived_le
  have hlc_mono : tag g.lastCommitPosition ≤ tag g'.lastCommitPosition := by
    rw [hlc]; exact tag_le_or htags hg.tag_lastCommit_le
  have hlr' : ∀ x ∈ g'.lastReceivedPosition,
      ∃ i ∈ indexed (src.take (d + n)), !i.dtData.isBegin ∧ i.position = x := by
    rw [hlr]; exact names_or hq hmem hold hg.lastReceived
  have hlc' : ∀ x ∈ g'.lastCommitPosition,
      ∃ i ∈ indexed (src.take (d + n)), commitKind i.dtData ∧ i.position = x := by
    rw [hlc]; exact names_or hp hmem hold hg.lastCommit
  -- the syncer's positions
  have hreceived : g'.syncer.receivedPosition =
      g'.lastReceivedPosition.getD (s0.receivedPosition, 0) := by
    rw [hsy, recordCheckpoint_receivedPosition, hlr]
    cases lastPosition q B
    · exact hg.received
    · rfl
  have hcommitted : g'.syncer.committedPosition =
      if due then g'.lastCommitPosition.getD g.syncer.committedPosition
      else g.syncer.committedPosition := by
    rw [hsy, recordCheckpoint_committedPosition]
    cases lastPosition q B <;> rfl
  have hc_le : g'.syncer.committedPosition.2 ≤ tag g'.lastCommitPosition ∧
      g.syncer.committedPosition.2 ≤ g'.syncer.committedPosition.2 := by
    have := hg.committedLeCommit
    rw [hcommitted]
    cases due
    · exact ⟨le_trans this hlc_mono, le_rfl⟩
    · cases hx : g'.lastCommitPosition with
      | none => rw [hx] at hlc_mono; exact ⟨by simpa using le_trans this hlc_mono, le_rfl⟩
      | some x => rw [hx] at hlc_mono; exact ⟨le_rfl, le_trans this hlc_mono⟩
  have hkept : g.syncer.committedPosition = (s0.committedPosition, 0) ∨ ∃ i ∈ indexed (src.take (d + n)),
      commitKind i.dtData ∧ i.position = g.syncer.committedPosition :=
    hg.committed.imp id fun ⟨i, hi, hk, he⟩ => ⟨i, hold i hi, hk, he⟩
  refine ⟨⟨hreceived, hlr', hlc', ?_, ?_, hc_le.1⟩, ?_, hc_le.2⟩
  · rw [hcommitted]
    split
    · cases hx : g'.lastCommitPosition with
      | none => exact hkept
      | some x => exact .inr (hlc' x hx)
    · exact hkept
  · rw [hlc, hlr]
    cases hpb : lastPosition p B with
    | some c =>
        obtain ⟨r, hqb⟩ := Option.isSome_iff_exists.mp
          (lastPosition_isSome_mono hpq B (by rw [hpb]; rfl))
        have := lastPosition_tag_le hpq B hpair
        rw [hpb, hqb] at this
        simpa [hqb] using this
    | none =>
        rw [Option.none_or]
        exact (hg.commitLeReceived).trans (tag_le_or htags hg.tag_lastReceived_le)
  · rw [hreceived, hg.received, getD_snd, getD_snd]
    exact hlr_mono

theorem indexed_drop_take (src : List (DtItem P)) (d n : Nat) :
    ((indexed src).drop d).take n = indexedFrom d ((src.drop d).take n) := by
  rw [indexed, indexedFrom_drop, indexedFrom_take, Nat.zero_add]

theorem namesDrained_runTicks (cfg : PipelineConfig) (ticks : List (Nat × Bool))
    {rest : List (DtItem (P × Nat))} (hg : NamesDrained src s0 d g)
    (h : runTicks cfg g ((indexed src).drop d) ticks = .ok (g', rest)) :
    ∃ d', rest = (indexed src).drop d' ∧ NamesDrained src s0 d' g' := by
  induction ticks generalizing d g with
  | nil => cases h; exact ⟨d, rfl, hg⟩
  | cons t ticks ih =>
      obtain ⟨n, due⟩ := t
      simp only [runTicks, indexed_drop_take, List.drop_drop] at h
      obtain ⟨g₁, hs, h⟩ := bind_eq_ok h
      have hg' : NamesDrained src s0 d (recordBufferSize g ((indexed src).drop d)) :=
        ⟨hg.1, hg.2, hg.3, hg.4, hg.5, hg.6⟩
      exact ih (namesDrained_dispatch cfg n due hg' hs).1 h

def NamesItem (src : List (DtItem P)) (kind : DtData → Bool) (d : Nat) (x : P × Nat) : Prop :=
  ∃ k, ∃ hk : k < src.length, k < d ∧ kind (src.get ⟨k, hk⟩).dtData ∧
    x = ((src.get ⟨k, hk⟩).position, k + 1)

theorem namesItem_of_mem {kind : DtData → Bool} {i : DtItem (P × Nat)} {x : P × Nat}
    (hi : i ∈ indexed (src.take d)) (hk : kind i.dtData) (hx : i.position = x) :
    NamesItem src kind d x := by
  obtain ⟨j, hj, rfl⟩ := mem_indexedFrom hi
  have hjd : j < d := lt_of_lt_of_le hj (List.length_take_le d src)
  have hjs : j < src.length := lt_of_lt_of_le hj (List.length_take_le' d src)
  refine ⟨j, hjs, hjd, ?_, ?_⟩
  · simpa [List.getElem_take] using hk
  · rw [← hx]; simp [List.getElem_take, Nat.add_comm]

theorem NamesDrained.received_names (hg : NamesDrained src s0 d g) :
    g.syncer.receivedPosition = (s0.receivedPosition, 0) ∨
      NamesItem src (fun x => !x.isBegin) d g.syncer.receivedPosition := by
  rw [hg.received]
  cases hx : g.lastReceivedPosition with
  | none => exact .inl rfl
  | some x =>
      obtain ⟨i, hi, hk, he⟩ := hg.lastReceived x hx
      exact .inr (namesItem_of_mem hi hk he)

theorem NamesDrained.committed_names (hg : NamesDrained src s0 d g) :
    g.syncer.committedPosition = (s0.committedPosition, 0) ∨
      NamesItem src commitKind d g.syncer.committedPosition :=
  hg.committed.imp id fun ⟨_, hi, hk, he⟩ => namesItem_of_mem hi hk he

theorem NamesDrained.committed_le_received (hg : NamesDrained src s0 d g) :
    g.syncer.committedPosition.2 ≤ g.syncer.receivedPosition.2 := by
  rw [hg.received, getD_snd]
  exact le_trans hg.committedLeCommit hg.commitLeReceived

variable [Preorder P]

theorem position_le_of_tag_le
    (hs : (s0.committedPosition :: s0.receivedPosition :: src.map (·.position)).Sorted (· ≤ ·))
    {kx ky : DtData → Bool} {d d' : Nat} {x y : P × Nat}
    (hx : x = (s0.committedPosition, 0) ∨ x = (s0.receivedPosition, 0) ∨ NamesItem src kx d x)
    (hy : y = (s0.receivedPosition, 0) ∨ NamesItem src ky d' y) (hxy : x.2 ≤ y.2) : x.1 ≤ y.1 := by
  obtain ⟨hc, hs⟩ := List.sorted_cons.mp hs
  obtain ⟨hr, hs⟩ := List.sorted_cons.mp hs
  have hmem : ∀ k (hk : k < src.length), (src.get ⟨k, hk⟩).position ∈ src.map (·.position) :=
    fun k hk => List.mem_map_of_mem _ (List.get_mem _ _ _)
  rcases hy with rfl | ⟨k, hk, -, -, rfl⟩
  · rcases hx with rfl | rfl | ⟨j, hj, -, -, rfl⟩
    · exact hc _ (List.mem_cons_self _ _)
    · exact le_rfl
    · simp at hxy
  · rcases hx with rfl | rfl | ⟨j, hj, -, -, rfl⟩
    · exact hc _ (List.mem_cons_of_mem _ (hmem k hk))
    · exact hr _ (hmem k hk)
    · have := hs.rel_get_of_le (a := ⟨j, by simpa using hj⟩) (b := ⟨k, by simpa using hk⟩)
        (by simpa using hxy)
      simpa using this

def FollowsQueue [Preorder P] (cfg : PipelineConfig) (src : List (DtItem P)) (s0 : Syncer P)
    (dataMarker : Option DataMarker) (ticks : List (Nat × Bool)) (s : BasePipeline P)
    (rest : List (DtItem P)) : Prop :=
  ∃ d g, runTicks cfg (.init s0.indexed dataMarker) (indexed src) ticks =
      .ok (g, (indexed src).drop d) ∧
    s = g.mapPosition Prod.fst ∧ rest = src.drop d ∧
    (g.syncer.receivedPosition = (s0.receivedPosition, 0) ∨
      NamesItem src (fun x => !x.isBegin) d g.syncer.receivedPosition) ∧
    (g.syncer.committedPosition = (s0.committedPosition, 0) ∨
      NamesItem src commitKind d g.syncer.committedPosition) ∧
    g.syncer.committedPosition.2 ≤ g.syncer.receivedPosition.2 ∧
    (∀ n due g', dispatch cfg g (((indexed src).drop d).take n) due = .ok g' →
      g.syncer.receivedPosition.2 ≤ g'.syncer.receivedPosition.2 ∧
      g.syncer.committedPosition.2 ≤ g'.syncer.committedPosition.2) ∧
    ((s0.committedPosition :: s0.receivedPosition :: src.map (·.position)).Sorted (· ≤ ·) →
      s.syncer.committedPosition ≤ s.syncer.receivedPosition ∧
      ∀ n due s', dispatch cfg s (rest.take n) due = .ok s' →
        s.syncer.receivedPosition ≤ s'.syncer.receivedPosition)

theorem syncer_positions_follow_queue (cfg : PipelineConfig) (src : List (DtItem P))
    (s0 : Syncer P) (dataMarker : Option DataMarker) (ticks : List (Nat × Bool))
    (s : BasePipeline P) (rest : List (DtItem P))
    (h : runTicks cfg (.init s0 dataMarker) src ticks = .ok (s, rest)) :
    FollowsQueue cfg src s0 dataMarker ticks s rest := by
  have hmap := runTicks_map cfg Prod.fst (.init s0.indexed dataMarker) (indexed src) ticks
  rw [show (BasePipeline.init s0.indexed dataMarker).mapPosition Prod.fst = .init s0 dataMarker
    from rfl, indexed, indexedFrom_map_fst, h] at hmap
  obtain ⟨⟨g, restT⟩, hrun, hgr⟩ := map_eq_ok hmap.symm
  obtain ⟨d, rfl, hg⟩ := namesDrained_runTicks cfg ticks (namesDrained_init dataMarker) hrun
  obtain ⟨rfl, rfl⟩ := Prod.mk.inj hgr
  have hstep : ∀ n due g', dispatch cfg g (((indexed src).drop d).take n) due = .ok g' →
      NamesDrained src s0 (d + n) g' ∧ g.syncer.receivedPosition.2 ≤ g'.syncer.receivedPosition.2 ∧
        g.syncer.committedPosition.2 ≤ g'.syncer.committedPosition.2 := fun n due g' hd => by
    rw [indexed_drop_take] at hd
    exact namesDrained_dispatch cfg n due hg hd
  refine ⟨d, g, hrun, rfl, by rw [indexed, indexedFrom_drop, indexedFrom_map_fst],
    hg.received_names, hg.committed_names, hg.committed_le_received,
    fun n due g' hd => (hstep n due g' hd).2, fun hs => ⟨?_, ?_⟩⟩
  · exact position_le_of_tag_le hs (hg.committed_names.imp_right .inr) hg.received_names
      hg.committed_le_received
  · intro n due s' hd
    have hnat := dispatch_map cfg Prod.fst g (((indexed src).drop d).take n) due
    dsimp only at hd ⊢
    rw [List.map_take, hd] at hnat
    obtain ⟨g', hg', rfl⟩ := map_eq_ok hnat.symm
    obtain ⟨hg'', hr, -⟩ := hstep n due g' hg'
    exact position_le_of_tag_le hs (.inr (hg.received_names.imp_right id)) hg''.received_names hr

theorem syncer_positions_follow_dml_commit :
    runTicks ⟨1, none, fun _ => true⟩ (.init ⟨0, 0⟩ none)
        [⟨.dml ⟨"db1", "t", .insert, none, some ∅, 0⟩, 5, ""⟩, ⟨.commit, 7, ""⟩] [(2, true)] =
      .ok (⟨⟨7, 7⟩, none, [(.bufferSize, 2, 1), (.sinkedCount, 1, 1)],
        [.sinkDml [⟨"db1", "t", .insert, none, some ∅, 0⟩]], some 7, some 7⟩, []) ∧
    FollowsQueue ⟨1, none, fun _ => true⟩
      [⟨.dml ⟨"db1", "t", .insert, none, some ∅, 0⟩, 5, ""⟩, ⟨.commit, 7, ""⟩] ⟨0, 0⟩ none
      [(2, true)]
      ⟨⟨7, 7⟩, none, [(.bufferSize, 2, 1), (.sinkedCount, 1, 1)],
        [.sinkDml [⟨"db1", "t", .insert, none, some ∅, 0⟩]], some 7, some 7⟩ [] :=
  ⟨rfl, syncer_positions_follow_queue _ _ _ _ _ _ _ rfl⟩

end CubetranCore.Pipeline
