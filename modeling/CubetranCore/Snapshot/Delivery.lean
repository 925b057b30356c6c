import CubetranCore.Snapshot.Handoff

namespace CubetranCore.Snapshot

open Pipeline

variable {P : Type}

theorem getSinkMethod_of_dml {batch : List (DtItem P)}
    (h : ∀ i ∈ batch, (i.dtData.dmlRow).isSome) (hne : batch ≠ []) : getSinkMethod batch = .dml := by
  match batch, hne with
  | i :: rest, _ =>
    have hi := h i (List.mem_cons_self i rest)
    cases hd : i.dtData with
    | dml rd => simp [getSinkMethod, hd]
    | _ => simp [DtData.dmlRow, hd] at hi

theorem batchLog_dmlRows_of_dml {cfg : PipelineConfig} (hlua : cfg.luaProcessor = none)
    {batch : List (DtItem P)} {new : List SinkCall} (h : ∀ i ∈ batch, (i.dtData.dmlRow).isSome)
    (hlog : BatchLog cfg batch new) :
    new.flatMap SinkCall.dmlRows = batch.filterMap (·.dtData.dmlRow) := by
  rw [batchLog_dmlRows cfg hlua hlog]
  by_cases hb : batch = []
  · subst hb; rfl
  · rw [if_pos (getSinkMethod_of_dml h hb)]

variable {cfg : PipelineConfig} {capacity : Nat} {rows : List (DtItem P)}
  {pipeline : BasePipeline P} {s s' : Handoff P}

theorem Inv.dispatched_held_prefix (hi : Inv rows capacity s) :
    s.dispatched ++ s.pipelinePc.held <+: s.pushed :=
  ⟨s.buffer, hi.conserved⟩

theorem pushed_prefix_step (hi : Inv rows capacity s) (hp : s.pushed <+: rows)
    (h : Step cfg capacity s s') : s'.pushed <+: rows := by
  cases h with
  | pushRow he =>
    have hpend := hi.pending
    rw [he] at hpend
    split
    · exact ⟨_, by rw [List.append_assoc, List.singleton_append]; exact hpend⟩
    · exact hp
  | _ => exact hp

theorem pushed_prefix_reachable
    (h : Relation.ReflTransGen (Step cfg capacity) (.init rows pipeline) s) :
    Inv rows capacity s ∧ s.pushed <+: rows := by
  induction h with
  | refl => exact ⟨inv_init pipeline, List.nil_prefix⟩
  | tail _ hs ih => exact ⟨inv_step ih.1 hs, pushed_prefix_step ih.1 ih.2 hs⟩

theorem sinksBatches_dmlRows (hlua : cfg.luaProcessor = none)
    (hdml : ∀ i ∈ s.dispatched, (i.dtData.dmlRow).isSome) (hs : SinksBatches cfg pipeline s) :
    s.pipeline.calls.flatMap SinkCall.dmlRows =
      pipeline.calls.flatMap SinkCall.dmlRows ++ s.dispatched.filterMap (·.dtData.dmlRow) := by
  obtain ⟨batches, news, hb, hlog, hcalls⟩ := hs
  have hlog' : List.Forall₂ (fun b new => (∀ i ∈ b, (i.dtData.dmlRow).isSome) ∧ BatchLog cfg b new)
      batches news :=
    (List.forall₂_and_left _ _).mpr
      ⟨fun b hb' i hi => hdml i (hb ▸ List.mem_flatten_of_mem hb' hi), hlog⟩
  have hrows : news.flatten.flatMap SinkCall.dmlRows = batches.flatMap (·.filterMap (·.dtData.dmlRow)) := by
    rw [List.flatten_eq_flatMap, List.flatMap_assoc]
    exact flatMap_eq_of_forall₂ (fun _ _ h => batchLog_dmlRows_of_dml hlua h.1 h.2) hlog'
  rw [hcalls, List.flatMap_append, hrows, ← hb]
  simp [List.flatMap]

theorem snapshot_task_sinks_each_row_once (hlua : cfg.luaProcessor = none)
    (hdml : ∀ i ∈ rows, (i.dtData.dmlRow).isSome)
    (h : Relation.ReflTransGen (Step cfg capacity) (.init rows pipeline) s) :
    (∃ sunk, s.pipeline.calls.flatMap SinkCall.dmlRows =
        pipeline.calls.flatMap SinkCall.dmlRows ++ sunk ∧
      sunk <+: rows.filterMap (·.dtData.dmlRow)) ∧
    (s.pipelinePc = .exited → s.pipeline.calls.flatMap SinkCall.dmlRows =
      pipeline.calls.flatMap SinkCall.dmlRows ++ rows.filterMap (·.dtData.dmlRow)) := by
  obtain ⟨hi, hp⟩ := pushed_prefix_reachable h
  have hdisp : s.dispatched <+: rows :=
    ((List.prefix_append _ _).trans hi.dispatched_held_prefix).trans hp
  have hsunk := sinksBatches_dmlRows hlua (fun i hi' => hdml i (hdisp.subset hi'))
    (sinksBatches_reachable h)
  exact ⟨⟨_, hsunk, hdisp.filterMap _⟩, fun hex => by rw [hsunk, (hi.dispatched_of_exited hex).2]⟩

theorem snapshot_task_sinks_one_row :
    ∃ s : Handoff Nat,
      Relation.ReflTransGen (Step ⟨1, none, fun _ => true⟩ 1)
        (.init [⟨.dml ⟨"db", "t", .insert, none, some ∅, 0⟩, 7, ""⟩] (BasePipeline.init ⟨0, 0⟩ none)) s ∧
      s.pipelinePc = .exited ∧
      s.pipeline.calls.flatMap SinkCall.dmlRows =
        (BasePipeline.init ⟨0, 0⟩ none : BasePipeline Nat).calls.flatMap SinkCall.dmlRows ++
          [(⟨.dml ⟨"db", "t", .insert, none, some ∅, 0⟩, 7, ""⟩ : DtItem Nat)].filterMap
            (·.dtData.dmlRow) := by
  have hd : Pipeline.dispatch ⟨1, none, fun _ => true⟩
      (recordBufferSize (BasePipeline.init ⟨0, 0⟩ none) [⟨.dml ⟨"db", "t", .insert, none, some ∅, 0⟩, 7, ""⟩])
      [(⟨.dml ⟨"db", "t", .insert, none, some ∅, 0⟩, 7, ""⟩ : DtItem Nat)] false =
      .ok ⟨⟨7, 0⟩, none, [(.bufferSize, 1, 1), (.sinkedCount, 1, 1)],
        [.sinkDml [⟨"db", "t", .insert, none, some ∅, 0⟩]], some 7, none⟩ := rfl
  obtain ⟨s, hrun, hexit⟩ : ∃ s : Handoff Nat,
      Relation.ReflTransGen (Step ⟨1, none, fun _ => true⟩ 1)
        (.init [⟨.dml ⟨"db", "t", .insert, none, some ∅, 0⟩, 7, ""⟩] (BasePipeline.init ⟨0, 0⟩ none)) s ∧
      s.pipelinePc = .exited :=
    ⟨_, .head (Step.notFull rfl (by decide)) (.head (Step.pushRow rfl) (.head (Step.scanDone rfl)
      (.head (Step.loadRunning rfl rfl) (.head (Step.intervalElapsed rfl) (.head (Step.pop rfl rfl)
      (.head (Step.drained rfl) (.head (Step.dispatch rfl hd)
      (.head (Step.empty rfl rfl) (.head (Step.storeFlag rfl) (.head (Step.loadShutDown rfl rfl)
      (.head (Step.exit rfl rfl) .refl))))))))))), rfl⟩
  exact ⟨s, hrun, hexit, (snapshot_task_sinks_each_row_once (by rfl) (by decide) hrun).2 hexit⟩

end CubetranCore.Snapshot
