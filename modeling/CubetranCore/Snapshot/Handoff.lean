import CubetranCore.Pipeline.CallLog

namespace CubetranCore.Snapshot

open Pipeline

variable {P : Type}

/-- Where `MysqlSnapshotExtractor::extract_internal` stands; `rows` are the rows its scan has
still to push, in scan order. -/
inductive ExtractorPc (P : Type) where
  | spin (rows : List (DtItem P))
  | push (row : DtItem P) (rows : List (DtItem P))
  | drainWait
  | store
  | done
  | failed

/-- Where the loop of `BasePipeline::start` stands. -/
inductive PipelinePc (P : Type) where
  | guard
  | guardEmpty
  | body
  | checkFull
  | draining (batch : List (DtItem P))
  | dispatching (batch : List (DtItem P))
  | exited

def PipelinePc.held : PipelinePc P → List (DtItem P)
  | .draining batch => batch
  | .dispatching batch => batch
  | _ => []

/-- The two tasks, their shared queue and flag; `pushed` and `dispatched` record what went into
the queue and what `dispatch` was handed, in order. -/
structure Handoff (P : Type) where
  buffer : List (DtItem P)
  shutDown : Bool
  extractor : ExtractorPc P
  pipelinePc : PipelinePc P
  pipeline : BasePipeline P
  pushed : List (DtItem P)
  dispatched : List (DtItem P)

def Handoff.init (rows : List (DtItem P)) (pipeline : BasePipeline P) : Handoff P :=
  ⟨[], false, .spin rows, .guard, pipeline, [], []⟩

/-- One atomic step of either task. A read that finds the queue full (or not yet empty) leaves
the state as it is, and is not listed. The `BufferSize` counter at the top of the loop body is taken
in the same step as the read of the sink interval. -/
inductive Step (cfg : PipelineConfig) (capacity : Nat) : Handoff P → Handoff P → Prop where
  | notFull {s : Handoff P} {r rows} (he : s.extractor = .spin (r :: rows))
      (hl : s.buffer.length < capacity) : Step cfg capacity s { s with extractor := .push r rows }
  | pushRow {s : Handoff P} {r rows} (he : s.extractor = .push r rows) :
      Step cfg capacity s
        (if s.buffer.length < capacity then
          { s with buffer := s.buffer ++ [r], pushed := s.pushed ++ [r], extractor := .spin rows }
        else { s with extractor := .spin rows })
  | scanDone {s : Handoff P} (he : s.extractor = .spin []) :
      Step cfg capacity s { s with extractor := .drainWait }
  | empty {s : Handoff P} (he : s.extractor = .drainWait) (hb : s.buffer = []) :
      Step cfg capacity s { s with extractor := .store }
  | storeFlag {s : Handoff P} (he : s.extractor = .store) :
      Step cfg capacity s { s with shutDown := true, extractor := .done }
  | spinFail {s : Handoff P} {rows} (he : s.extractor = .spin rows) :
      Step cfg capacity s { s with extractor := .failed }
  | pushFail {s : Handoff P} {r rows} (he : s.extractor = .push r rows) :
      Step cfg capacity s { s with extractor := .failed }
  | loadRunning {s : Handoff P} (hp : s.pipelinePc = .guard) (hf : s.shutDown = false) :
      Step cfg capacity s { s with pipelinePc := .body }
  | loadShutDown {s : Handoff P} (hp : s.pipelinePc = .guard) (hf : s.shutDown = true) :
      Step cfg capacity s { s with pipelinePc := .guardEmpty }
  | notEmpty {s : Handoff P} {x rest} (hp : s.pipelinePc = .guardEmpty)
      (hb : s.buffer = x :: rest) : Step cfg capacity s { s with pipelinePc := .body }
  | exit {s : Handoff P} (hp : s.pipelinePc = .guardEmpty) (hb : s.buffer = []) :
      Step cfg capacity s { s with pipelinePc := .exited }
  | intervalElapsed {s : Handoff P} (hp : s.pipelinePc = .body) :
      Step cfg capacity s
        { s with pipelinePc := .draining [], pipeline := recordBufferSize s.pipeline s.buffer }
  | intervalPending {s : Handoff P} (hp : s.pipelinePc = .body) :
      Step cfg capacity s
        { s with pipelinePc := .checkFull, pipeline := recordBufferSize s.pipeline s.buffer }
  | full {s : Handoff P} (hp : s.pipelinePc = .checkFull) (hl : capacity ≤ s.buffer.length) :
      Step cfg capacity s { s with pipelinePc := .draining [] }
  | notFullSkip {s : Handoff P} (hp : s.pipelinePc = .checkFull)
      (hl : s.buffer.length < capacity) : Step cfg capacity s { s with pipelinePc := .dispatching [] }
  | pop {s : Handoff P} {batch x rest} (hp : s.pipelinePc = .draining batch)
      (hb : s.buffer = x :: rest) :
      Step cfg capacity s { s with buffer := rest, pipelinePc := .draining (batch ++ [x]) }
  | drained {s : Handoff P} {batch} (hp : s.pipelinePc = .draining batch) :
      Step cfg capacity s { s with pipelinePc := .dispatching batch }
  | dispatch {s : Handoff P} {batch due pipeline₁} (hp : s.pipelinePc = .dispatching batch)
      (hd : Pipeline.dispatch cfg s.pipeline batch due = .ok pipeline₁) :
      Step cfg capacity s
        { s with pipelinePc := .guard, pipeline := pipeline₁, dispatched := s.dispatched ++ batch }

def ExtractorPc.Pending (rows pushed : List (DtItem P)) : ExtractorPc P → Prop
  | .spin rest => pushed ++ rest = rows
  | .push r rest => pushed ++ r :: rest = rows
  | .failed => True
  | _ => pushed = rows

structure Inv (rows : List (DtItem P)) (capacity : Nat) (s : Handoff P) : Prop where
  conserved : s.dispatched ++ s.pipelinePc.held ++ s.buffer = s.pushed
  bounded : s.buffer.length ≤ capacity
  room : ∀ r rest, s.extractor = .push r rest → s.buffer.length < capacity
  pending : s.extractor.Pending rows s.pushed
  flag : s.shutDown = true → s.extractor = .done
  guardEmpty : s.pipelinePc = .guardEmpty → s.shutDown = true
  exited : s.pipelinePc = .exited → s.buffer = [] ∧ s.shutDown = true

variable {rows : List (DtItem P)} {capacity : Nat} {s s' : Handoff P}

theorem inv_init (pipeline : BasePipeline P) : Inv rows capacity (.init rows pipeline) :=
  ⟨rfl, Nat.zero_le _, (fun _ _ h => nomatch h), rfl, (fun h => nomatch h), (fun h => nomatch h),
    (fun h => nomatch h)⟩

theorem Inv.with_pipelinePc (hi : Inv rows capacity s) (pc : PipelinePc P) (p : BasePipeline P)
    (hheld : pc.held = s.pipelinePc.held) (hge : pc = .guardEmpty → s.shutDown = true)
    (hex : pc = .exited → s.buffer = [] ∧ s.shutDown = true) :
    Inv rows capacity { s with pipelinePc := pc, pipeline := p } :=
  ⟨by rw [← hi.conserved]; simp [hheld], hi.bounded, hi.room, hi.pending, hi.flag, hge, hex⟩

theorem Inv.with_extractor (hi : Inv rows capacity s) (e : ExtractorPc P)
    (hdone : s.extractor ≠ .done) (hroom : ∀ r rest, e = .push r rest → s.buffer.length < capacity)
    (hpend : e.Pending rows s.pushed) : Inv rows capacity { s with extractor := e } := by
  have hf : s.shutDown = false := by
    cases h : s.shutDown
    · rfl
    · exact absurd (hi.flag h) hdone
  exact ⟨hi.conserved, hi.bounded, hroom, hpend, fun h => by simp [hf] at h,
    fun h => by simp [hi.guardEmpty h] at hf, fun h => by simp [(hi.exited h).2] at hf⟩

theorem inv_step {cfg : PipelineConfig} (hi : Inv rows capacity s) (h : Step cfg capacity s s') :
    Inv rows capacity s' := by
  have hpend := hi.pending
  cases h with
  | notFull he hl =>
      refine hi.with_extractor _ (by simp [he]) (fun _ _ h => by cases h; exact hl) ?_
      rw [he] at hpend; exact hpend
  | pushRow he =>
      rw [he] at hpend
      split
      · next hl =>
          refine ⟨?_, by simpa using hl, (fun _ _ h => nomatch h), ?_, fun hf => ?_, ?_, ?_⟩
          · simp [← hi.conserved]
          · simpa [ExtractorPc.Pending] using hpend
          · have := hi.flag hf; simp [he] at this
          · intro hp; have := hi.flag (hi.guardEmpty hp); simp [he] at this
          · intro hp; have := hi.flag (hi.exited hp).2; simp [he] at this
      · next hl => exact absurd (hi.room _ _ he) hl
  | scanDone he =>
      rw [he] at hpend
      exact hi.with_extractor _ (by simp [he]) (fun _ _ h => nomatch h)
        (by simpa [ExtractorPc.Pending] using hpend)
  | empty he hb =>
      rw [he] at hpend
      exact hi.with_extractor _ (by simp [he]) (fun _ _ h => nomatch h) hpend
  | storeFlag he =>
      rw [he] at hpend
      exact ⟨hi.conserved, hi.bounded, (fun _ _ h => nomatch h), hpend, fun _ => rfl,
        fun _ => rfl, fun hp => ⟨(hi.exited hp).1, rfl⟩⟩
  | spinFail he | pushFail he =>
      exact hi.with_extractor _ (by simp [he]) (fun _ _ h => nomatch h) trivial
  | loadShutDown hp hf =>
      exact hi.with_pipelinePc _ _ (by rw [hp]; rfl) (fun _ => hf) (fun h => nomatch h)
  | exit hp hb =>
      exact hi.with_pipelinePc _ _ (by rw [hp]; rfl) (fun h => nomatch h)
        (fun _ => ⟨hb, hi.guardEmpty hp⟩)
  | loadRunning hp _ | notEmpty hp _ | intervalElapsed hp | intervalPending hp | full hp _
    | notFullSkip hp _ | drained hp =>
      exact hi.with_pipelinePc _ _ (by rw [hp]; rfl) (fun h => nomatch h) (fun h => nomatch h)
  | pop hp hb =>
      refine ⟨?_, ?_, fun r rest he => ?_, hi.pending, hi.flag, (fun h => nomatch h),
        (fun h => nomatch h)⟩
      · rw [← hi.conserved, hp, hb]; simp [PipelinePc.held]
      · have := hi.bounded; rw [hb] at this; simp at this ⊢; omega
      · have := hi.room r rest he; rw [hb] at this; simp at this ⊢; omega
  | dispatch hp hd =>
      refine ⟨?_, hi.bounded, hi.room, hi.pending, hi.flag, (fun h => nomatch h),
        (fun h => nomatch h)⟩
      rw [← hi.conserved, hp]; simp [PipelinePc.held]

theorem inv_reachable {cfg : PipelineConfig} {pipeline : BasePipeline P}
    (h : Relation.ReflTransGen (Step cfg capacity) (.init rows pipeline) s) : Inv rows capacity s := by
  induction h with
  | refl => exact inv_init pipeline
  | tail _ hs ih => exact inv_step ih hs

theorem Inv.dispatched_of_exited (hi : Inv rows capacity s) (hp : s.pipelinePc = .exited) :
    s.pushed = rows ∧ s.dispatched = rows := by
  obtain ⟨hb, hf⟩ := hi.exited hp
  have hpend : s.pushed = rows := by simpa [hi.flag hf, ExtractorPc.Pending] using hi.pending
  refine ⟨hpend, ?_⟩
  rw [← hpend]
  simpa [hp, hb, PipelinePc.held] using hi.conserved

def SinksBatches (cfg : PipelineConfig) (pipeline₀ : BasePipeline P) (s : Handoff P) : Prop :=
  ∃ batches news, batches.flatten = s.dispatched ∧ List.Forall₂ (BatchLog cfg) batches news ∧
    s.pipeline.calls = pipeline₀.calls ++ news.flatten

theorem sinksBatches_step {cfg : PipelineConfig} {pipeline₀ : BasePipeline P}
    (hs : SinksBatches cfg pipeline₀ s) (h : Step cfg capacity s s') : SinksBatches cfg pipeline₀ s' := by
  obtain ⟨batches, news, hb, hlog, hcalls⟩ := hs
  cases h with
  | @dispatch batch due pipeline₁ hp hd =>
    obtain ⟨new, hnew, hbl⟩ := dispatch_calls cfg hd
    exact ⟨batches ++ [batch], news ++ [new], by simp [hb], List.rel_append hlog (.cons hbl .nil),
      by simp [hnew, hcalls]⟩
  | pushRow he => split <;> exact ⟨batches, news, hb, hlog, hcalls⟩
  | _ => exact ⟨batches, news, hb, hlog, hcalls⟩

theorem sinksBatches_reachable {cfg : PipelineConfig} {pipeline : BasePipeline P}
    (h : Relation.ReflTransGen (Step cfg capacity) (.init rows pipeline) s) :
    SinksBatches cfg pipeline s := by
  induction h with
  | refl => exact ⟨[], [], rfl, .nil, by simp [Handoff.init]⟩
  | tail _ hs ih => exact sinksBatches_step ih hs

def LosesNoRow (cfg : PipelineConfig) (rows : List (DtItem P)) (capacity : Nat)
    (pipeline₀ : BasePipeline P) (s : Handoff P) : Prop :=
  (∀ r rest, s.extractor = .push r rest → s.buffer.length < capacity ∧ s.pushed ++ r :: rest = rows) ∧
  (s.pipelinePc = .exited → s.pushed = rows ∧ ∃ batches news, batches.flatten = rows ∧
    List.Forall₂ (BatchLog cfg) batches news ∧ s.pipeline.calls = pipeline₀.calls ++ news.flatten)

theorem snapshot_handoff_loses_no_row (cfg : PipelineConfig) (capacity : Nat)
    (rows : List (DtItem P)) (pipeline : BasePipeline P) (s : Handoff P)
    (h : Relation.ReflTransGen (Step cfg capacity) (.init rows pipeline) s) :
    LosesNoRow cfg rows capacity pipeline s := by
  have hi := inv_reachable h
  refine ⟨fun r rest he => ⟨hi.room r rest he, ?_⟩, fun hp => ?_⟩
  · have := hi.pending; rwa [he] at this
  · obtain ⟨hpushed, hdispatched⟩ := hi.dispatched_of_exited hp
    obtain ⟨batches, news, hb, hlog, hcalls⟩ := sinksBatches_reachable h
    exact ⟨hpushed, batches, news, hb.trans hdispatched, hlog, hcalls⟩

theorem snapshot_handoff_loses_no_row_of_two_rows :
    ∃ s : Handoff Nat,
      Relation.ReflTransGen (Step ⟨1, none, fun _ => true⟩ 2)
        (.init [⟨.dml ⟨"db", "t", .insert, none, some ∅, 0⟩, 1, ""⟩,
          ⟨.dml ⟨"db", "t", .insert, none, some ∅, 0⟩, 2, ""⟩] (BasePipeline.init ⟨0, 0⟩ none)) s ∧
      s.pipelinePc = .exited ∧
      LosesNoRow ⟨1, none, fun _ => true⟩ [⟨.dml ⟨"db", "t", .insert, none, some ∅, 0⟩, 1, ""⟩,
          ⟨.dml ⟨"db", "t", .insert, none, some ∅, 0⟩, 2, ""⟩] 2 (BasePipeline.init ⟨0, 0⟩ none) s := by
  have hd : Pipeline.dispatch ⟨1, none, fun _ => true⟩
      (recordBufferSize (BasePipeline.init ⟨0, 0⟩ none) [⟨.dml ⟨"db", "t", .insert, none, some ∅, 0⟩, 1, ""⟩,
        ⟨.dml ⟨"db", "t", .insert, none, some ∅, 0⟩, 2, ""⟩])
      [(⟨.dml ⟨"db", "t", .insert, none, some ∅, 0⟩, 1, ""⟩ : DtItem Nat),
        ⟨.dml ⟨"db", "t", .insert, none, some ∅, 0⟩, 2, ""⟩] false =
      .ok ⟨⟨2, 0⟩, none, [(.bufferSize, 2, 1), (.sinkedCount, 2, 1)],
        [.sinkDml [⟨"db", "t", .insert, none, some ∅, 0⟩, ⟨"db", "t", .insert, none, some ∅, 0⟩]],
        some 2, none⟩ := rfl
  obtain ⟨s, hrun, hexit⟩ : ∃ s : Handoff Nat,
      Relation.ReflTransGen (Step ⟨1, none, fun _ => true⟩ 2)
        (.init [⟨.dml ⟨"db", "t", .insert, none, some ∅, 0⟩, 1, ""⟩,
          ⟨.dml ⟨"db", "t", .insert, none, some ∅, 0⟩, 2, ""⟩] (BasePipeline.init ⟨0, 0⟩ none)) s ∧
      s.pipelinePc = .exited :=
    ⟨_, .head (Step.notFull rfl (by decide)) (.head (Step.pushRow rfl) (.head (Step.notFull rfl
      (by decide)) (.head (Step.pushRow rfl) (.head (Step.scanDone rfl) (.head (Step.loadRunning rfl rfl)
      (.head (Step.intervalElapsed rfl) (.head (Step.pop rfl rfl) (.head (Step.pop rfl rfl)
      (.head (Step.drained rfl) (.head (Step.dispatch rfl hd) (.head (Step.empty rfl rfl)
      (.head (Step.storeFlag rfl) (.head (Step.loadShutDown rfl rfl)
      (.head (Step.exit rfl rfl) .refl)))))))))))))), rfl⟩
  exact ⟨s, hrun, hexit, snapshot_handoff_loses_no_row _ _ _ _ s hrun⟩

end CubetranCore.Snapshot
