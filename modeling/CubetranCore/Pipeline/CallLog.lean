import CubetranCore.Pipeline.Dispatch

namespace CubetranCore.Pipeline

variable {P α : Type}

def SinkCall.dmlRows : SinkCall → List RowData
  | .sinkDml data => data
  | _ => []

def SinkCall.ddls : SinkCall → List DdlData
  | .sinkDdl data => data
  | _ => []

def SinkCall.raws : SinkCall → List DtData
  | .sinkRaw data => data
  | _ => []

def drainedBatches : List (DtItem P) → List (Nat × Bool) → List (List (DtItem P))
  | _, [] => []
  | queue, (n, _) :: ticks => queue.take n :: drainedBatches (queue.drop n) ticks

/-- The `refresh_meta` calls `sink_ddl` makes after `parallelizer.sink_ddl`: one per sinker, in
order. -/
def refreshCalls (sinkers : Nat) (data : List DdlData) : List SinkCall :=
  (List.range sinkers).map fun k => .refreshMeta k data

def BatchLog (cfg : PipelineConfig) (data : List (DtItem P)) (new : List SinkCall) : Prop :=
  match getSinkMethod data with
  | .dml => (data.filterMap (·.dtData.dmlRow) = [] ∧ new = []) ∨
      (data.filterMap (·.dtData.dmlRow) ≠ [] ∧
        ∃ rows, process cfg (data.filterMap (·.dtData.dmlRow)) = .ok rows ∧ new = [.sinkDml rows])
  | .ddl => new = if (data.filterMap (·.dtData.ddlData)).isEmpty then [] else
      .sinkDdl (data.filterMap (·.dtData.ddlData)) ::
        refreshCalls cfg.sinkers (data.filterMap (·.dtData.ddlData))
  | .raw => new = if (data.filterMap (rawPayload ·.dtData)).isEmpty then [] else
      [.sinkRaw (data.filterMap (rawPayload ·.dtData))]

/-- The `count` a `sink_*` function returns for a batch: the number of payloads its path fetched. -/
def sunkCount (data : List (DtItem P)) : Nat :=
  match getSinkMethod data with
  | .dml => (data.filterMap (·.dtData.dmlRow)).length
  | .ddl => (data.filterMap (·.dtData.ddlData)).length
  | .raw => (data.filterMap (rawPayload ·.dtData)).length

section Calls

variable (cfg : PipelineConfig)

theorem call_eq_ok {c : SinkCall} {calls calls' : List SinkCall} (h : call cfg c calls = .ok calls') :
    calls' = calls ++ [c] := by
  unfold call at h
  split at h <;> cases h
  rfl

theorem foldlM_refreshMeta {data : List DdlData} :
    ∀ {ks : List Nat} {calls calls' : List SinkCall},
      ks.foldlM (fun calls k => call cfg (.refreshMeta k data) calls) calls = .ok calls' →
      calls' = calls ++ ks.map fun k => .refreshMeta k data
  | [], _, _, h => by cases h; simp
  | k :: ks, calls, calls', h => by
    obtain ⟨calls₁, h₁, h⟩ := bind_eq_ok h
    rw [foldlM_refreshMeta h, call_eq_ok cfg h₁]
    simp

theorem sink_inv {data : List (DtItem P)} {calls calls' : List SinkCall} {count : Nat}
    {r c : Option P} (h : sink cfg data calls = .ok (count, r, c, calls')) :
    count = sunkCount data ∧ ∃ new, calls' = calls ++ new ∧ BatchLog cfg data new := by
  unfold sink at h
  unfold BatchLog sunkCount
  split at h <;> rename_i hm <;> rw [hm] <;> dsimp only
  · unfold sinkDdl fetchDdl at h
    rw [fetchWith_eq _ rfl] at h
    obtain ⟨calls₁, hd, he⟩ := map_eq_ok h
    cases he
    refine ⟨rfl, ?_⟩
    unfold deliverDdl at hd
    split at hd <;> rename_i hlen
    · obtain ⟨calls₂, h₂, hd⟩ := bind_eq_ok hd
      unfold refreshMeta at hd
      refine ⟨_, (foldlM_refreshMeta cfg hd).trans (by rw [call_eq_ok cfg h₂, List.append_assoc]),
        ?_⟩
      rw [if_neg (by simpa [List.isEmpty_iff, List.length_pos] using hlen)]
      rfl
    · cases hd
      exact ⟨[], by simp, by simp_all [List.length_pos]⟩
  · unfold sinkDml fetchDml at h
    rw [fetchWith_eq _ rfl] at h
    obtain ⟨calls₁, hd, he⟩ := map_eq_ok h
    cases he
    refine ⟨rfl, ?_⟩
    unfold deliverDml at hd
    split at hd <;> rename_i hlen
    · obtain ⟨rows, hp, hd⟩ := bind_eq_ok hd
      exact ⟨_, call_eq_ok cfg hd, .inr ⟨List.length_pos.mp hlen, rows, hp, rfl⟩⟩
    · cases hd
      exact ⟨[], by simp, .inl ⟨by simpa [List.length_pos] using hlen, rfl⟩⟩
  · unfold sinkRaw at h
    rw [fetchRaw_eq] at h
    obtain ⟨calls₁, hd, he⟩ := map_eq_ok h
    cases he
    refine ⟨rfl, ?_⟩
    unfold deliverRaw at hd
    split at hd <;> rename_i hlen
    · exact ⟨_, call_eq_ok cfg hd,
        by rw [if_neg (by simpa [List.isEmpty_iff, List.length_pos] using hlen)]⟩
    · cases hd
      exact ⟨[], by simp, by simp_all [List.length_pos]⟩

theorem dispatch_calls {s s' : BasePipeline P} {data : List (DtItem P)} {due : Bool}
    (h : dispatch cfg s data due = .ok s') :
    ∃ new, s'.calls = s.calls ++ new ∧ BatchLog cfg data new := by
  obtain ⟨count, r, c, hs⟩ := dispatch_sink cfg h
  exact (sink_inv cfg hs).2

theorem runTicks_calls :
    ∀ {ticks : List (Nat × Bool)} {s s' : BasePipeline P} {queue rest : List (DtItem P)},
      runTicks cfg s queue ticks = .ok (s', rest) →
      queue = (drainedBatches queue ticks).flatten ++ rest ∧
      ∃ news : List (List SinkCall), s'.calls = s.calls ++ news.flatten ∧
        List.Forall₂ (BatchLog cfg) (drainedBatches queue ticks) news
  | [], _, _, _, _, h => by cases h; exact ⟨rfl, [], by simp, .nil⟩
  | (n, due) :: ticks, s, s', queue, rest, h => by
    obtain ⟨s₁, h₁, hrun⟩ := bind_eq_ok h
    obtain ⟨hq, news, hcalls, hlog⟩ := runTicks_calls hrun
    obtain ⟨new, hnew, hb⟩ := dispatch_calls cfg h₁
    refine ⟨?_, new :: news, by rw [hcalls, hnew]; simp, .cons hb hlog⟩
    conv_lhs => rw [← List.take_append_drop n queue, hq]
    simp [drainedBatches]

theorem batchLog_dmlRows (hlua : cfg.luaProcessor = none) {data : List (DtItem P)}
    {new : List SinkCall} (h : BatchLog cfg data new) :
    new.flatMap SinkCall.dmlRows =
      if getSinkMethod data = .dml then data.filterMap (·.dtData.dmlRow) else [] := by
  unfold BatchLog at h
  cases hm : getSinkMethod data <;> rw [hm] at h <;> dsimp only at h <;> subst_vars
  · split <;> simp [SinkCall.dmlRows]
  · split <;> simp [SinkCall.dmlRows, refreshCalls]
  · rcases h with ⟨hnil, rfl⟩ | ⟨-, rows, hp, rfl⟩
    · simp [hnil]
    · simp only [process, hlua, pure, Except.pure, Except.ok.injEq] at hp
      simp [SinkCall.dmlRows, hp]

theorem batchLog_ddls {data : List (DtItem P)} {new : List SinkCall} (h : BatchLog cfg data new) :
    new.flatMap SinkCall.ddls =
      if getSinkMethod data = .ddl then data.filterMap (·.dtData.ddlData) else [] := by
  unfold BatchLog at h
  cases hm : getSinkMethod data <;> rw [hm] at h <;> dsimp only at h
  · subst h; split <;> simp [SinkCall.ddls]
  · subst h; split <;> simp_all [SinkCall.ddls, refreshCalls, List.isEmpty_iff]
  · rcases h with ⟨-, rfl⟩ | ⟨-, rows, -, rfl⟩ <;> rfl

theorem batchLog_raws {data : List (DtItem P)} {new : List SinkCall} (h : BatchLog cfg data new) :
    new.flatMap SinkCall.raws =
      if getSinkMethod data = .raw then data.filterMap (rawPayload ·.dtData) else [] := by
  unfold BatchLog at h
  cases hm : getSinkMethod data <;> rw [hm] at h <;> dsimp only at h
  · subst h; split <;> simp_all [SinkCall.raws, List.isEmpty_iff]
  · subst h; split <;> simp [SinkCall.raws, refreshCalls]
  · rcases h with ⟨-, rfl⟩ | ⟨-, rows, -, rfl⟩ <;> rfl

def LogBlock (sinkers : Nat) (b : List SinkCall) : Prop :=
  (∃ rows, b = [.sinkDml rows]) ∨ (∃ data, data ≠ [] ∧ b = [.sinkRaw data]) ∨
    (∃ data, data ≠ [] ∧ b = .sinkDdl data :: refreshCalls sinkers data)

theorem batchLog_block {data : List (DtItem P)} {new : List SinkCall} (h : BatchLog cfg data new) :
    new = [] ∨ LogBlock cfg.sinkers new := by
  unfold BatchLog at h
  cases hm : getSinkMethod data <;> rw [hm] at h <;> dsimp only at h <;> subst_vars
  · split
    · exact .inl rfl
    · next hne => exact .inr (.inr (.inl ⟨_, mt List.isEmpty_iff.mpr hne, rfl⟩))
  · split
    · exact .inl rfl
    · next hne => exact .inr (.inr (.inr ⟨_, mt List.isEmpty_iff.mpr hne, rfl⟩))
  · rcases h with ⟨-, rfl⟩ | ⟨-, rows, -, rfl⟩
    · exact .inl rfl
    · exact .inr (.inl ⟨rows, rfl⟩)

end Calls

theorem forall_mem_of_forall₂ {β γ : Type} {R : β → γ → Prop} {Q : γ → Prop}
    (hR : ∀ a b, R a b → Q b) : ∀ {as : List β} {bs : List γ}, List.Forall₂ R as bs → ∀ b ∈ bs, Q b
  | _, _, .nil => fun _ hb => nomatch hb
  | _, _, .cons hab h => by
    intro b hb
    rcases List.mem_cons.mp hb with rfl | hb
    · exact hR _ _ hab
    · exact forall_mem_of_forall₂ hR h b hb

theorem drainedBatches_length :
    ∀ (queue : List (DtItem P)) (ticks : List (Nat × Bool)),
      (drainedBatches queue ticks).length = ticks.length
  | _, [] => rfl
  | queue, (n, _) :: ticks => by simp [drainedBatches, drainedBatches_length (queue.drop n) ticks]

theorem flatMap_eq_of_forall₂ {β γ : Type} {R : β → γ → Prop} {f : β → List α} {g : γ → List α}
    (hfg : ∀ a b, R a b → g b = f a) :
    ∀ {as : List β} {bs : List γ}, List.Forall₂ R as bs → bs.flatMap g = as.flatMap f
  | _, _, .nil => rfl
  | _, _, .cons hab h => by simp [hfg _ _ hab, flatMap_eq_of_forall₂ hfg h]

theorem flatMap_sublist_flatMap {β : Type} {f g : β → List α} :
    ∀ {bs : List β}, (∀ b ∈ bs, (f b).Sublist (g b)) → (bs.flatMap f).Sublist (bs.flatMap g)
  | [], _ => List.Sublist.slnil
  | b :: bs, h => by
    simpa using (h b (List.mem_cons_self _ _)).append
      (flatMap_sublist_flatMap fun b' hb' => h b' (List.mem_cons_of_mem _ hb'))

theorem eq_of_flatMap_eq {β : Type} {f g : β → List α} :
    ∀ {bs : List β}, (∀ b ∈ bs, (f b).Sublist (g b)) → bs.flatMap f = bs.flatMap g →
      ∀ b ∈ bs, f b = g b
  | [], _, _ => fun _ hb => nomatch hb
  | b :: bs, h, heq => by
    have hb := h b (List.mem_cons_self _ _)
    have hbs : ∀ b' ∈ bs, (f b').Sublist (g b') := fun b' hb' => h b' (List.mem_cons_of_mem _ hb')
    simp only [List.flatMap_cons] at heq
    have hlen := congrArg List.length heq
    simp only [List.length_append] at hlen
    have hfb : f b = g b := hb.eq_of_length (by
      have := hb.length_le
      have := (flatMap_sublist_flatMap hbs).length_le
      omega)
    rw [hfb, List.append_cancel_left_eq] at heq
    intro b' hb'
    rcases List.mem_cons.mp hb' with rfl | hb'
    · exact hfb
    · exact eq_of_flatMap_eq hbs heq b' hb'

def DeliversKind (of : SinkCall → List α) (sel : DtData → Option α) (m : SinkMethod)
    (before after : List SinkCall) (batches : List (List (DtItem P))) : Prop :=
  ∃ L, after.flatMap of = before.flatMap of ++ L ∧
    L.Sublist (batches.flatten.filterMap (sel ·.dtData)) ∧
    (L = batches.flatten.filterMap (sel ·.dtData) ↔
      ∀ b ∈ batches, b.filterMap (sel ·.dtData) ≠ [] → getSinkMethod b = m)

theorem deliversKind_of_eq {of : SinkCall → List α} {sel : DtData → Option α} {m : SinkMethod}
    {before after : List SinkCall} {batches : List (List (DtItem P))}
    (h : after.flatMap of = before.flatMap of ++
      batches.flatMap fun b => if getSinkMethod b = m then b.filterMap (sel ·.dtData) else []) :
    DeliversKind of sel m before after batches := by
  have hsub : ∀ b ∈ batches, (if getSinkMethod b = m then b.filterMap (sel ·.dtData) else []).Sublist
      (b.filterMap (sel ·.dtData)) := fun b _ => by
    split
    · exact List.Sublist.refl _
    · exact List.nil_sublist _
  have hall : batches.flatten.filterMap (sel ·.dtData) = batches.flatMap (·.filterMap (sel ·.dtData)) := by
    simp [List.flatMap]
  refine ⟨_, h, hall ▸ flatMap_sublist_flatMap hsub, ?_⟩
  rw [hall]
  constructor
  · intro heq b hb hne
    by_contra hm
    have := eq_of_flatMap_eq hsub heq b hb
    rw [if_neg hm] at this
    exact hne this.symm
  · intro hm
    refine List.flatMap_congr fun b hb => ?_
    by_cases hb' : b.filterMap (sel ·.dtData) = []
    · rw [hb']; split <;> rfl
    · rw [if_pos (hm b hb hb')]

section Runs

variable (cfg : PipelineConfig) {s s' : BasePipeline P} {queue rest : List (DtItem P)}
  {ticks : List (Nat × Bool)}

theorem runTicks_deliversKind {of : SinkCall → List α} {sel : DtData → Option α} {m : SinkMethod}
    (hbatch : ∀ (data : List (DtItem P)) new, BatchLog cfg data new →
      new.flatMap of = if getSinkMethod data = m then data.filterMap (sel ·.dtData) else [])
    (h : runTicks cfg s queue ticks = .ok (s', rest)) :
    DeliversKind of sel m s.calls s'.calls (drainedBatches queue ticks) := by
  obtain ⟨-, news, hcalls, hlog⟩ := runTicks_calls cfg h
  apply deliversKind_of_eq
  rw [hcalls, List.flatMap_append, List.flatten_eq_flatMap, List.flatMap_assoc]
  exact congrArg _ (flatMap_eq_of_forall₂ hbatch hlog)

theorem start_delivers_drained_payloads_in_order (hlua : cfg.luaProcessor = none)
    (h : runTicks cfg s queue ticks = .ok (s', rest)) :
    queue = (drainedBatches queue ticks).flatten ++ rest ∧
    DeliversKind SinkCall.dmlRows DtData.dmlRow .dml s.calls s'.calls (drainedBatches queue ticks) ∧
    DeliversKind SinkCall.ddls DtData.ddlData .ddl s.calls s'.calls (drainedBatches queue ticks) ∧
    DeliversKind SinkCall.raws rawPayload .raw s.calls s'.calls (drainedBatches queue ticks) :=
  ⟨(runTicks_calls cfg h).1,
    runTicks_deliversKind cfg (fun _ _ => batchLog_dmlRows cfg hlua) h,
    runTicks_deliversKind cfg (fun _ _ => batchLog_ddls cfg) h,
    runTicks_deliversKind cfg (fun _ _ => batchLog_raws cfg) h⟩

theorem start_delivers_drained_payloads_in_order_on_mixed_batch :
    runTicks ⟨1, none, fun _ => true⟩ (.init ⟨0, 0⟩ none)
        [⟨.dml ⟨"db1", "t", .insert, none, some ∅, 0⟩, 1, ""⟩,
          ⟨.ddl ⟨"db1", "t", "alter table t add c int", .alterTable⟩, 2, ""⟩, ⟨.commit, 3, ""⟩]
        [(3, false)] =
      .ok (⟨⟨3, 0⟩, none, [(.bufferSize, 3, 1), (.sinkedCount, 1, 1)],
        [.sinkDml [⟨"db1", "t", .insert, none, some ∅, 0⟩]], some 3, some 3⟩, []) ∧
    DeliversKind SinkCall.ddls DtData.ddlData .ddl [] [.sinkDml [⟨"db1", "t", .insert, none, some ∅, 0⟩]]
      [[⟨.dml ⟨"db1", "t", .insert, none, some ∅, 0⟩, 1, ""⟩,
        ⟨.ddl ⟨"db1", "t", "alter table t add c int", .alterTable⟩, 2, ""⟩, ⟨.commit, 3, ""⟩]] :=
  have h : runTicks ⟨1, none, fun _ => true⟩ (.init ⟨0, 0⟩ none)
      [⟨.dml ⟨"db1", "t", .insert, none, some ∅, 0⟩, 1, ""⟩,
        ⟨.ddl ⟨"db1", "t", "alter table t add c int", .alterTable⟩, 2, ""⟩, ⟨.commit, 3, ""⟩]
      [(3, false)] =
      .ok (⟨⟨3, 0⟩, none, [(.bufferSize, 3, 1), (.sinkedCount, 1, 1)],
        [.sinkDml [⟨"db1", "t", .insert, none, some ∅, 0⟩]], some 3, some 3⟩, []) := rfl
  ⟨h, (start_delivers_drained_payloads_in_order ⟨1, none, fun _ => true⟩ rfl h).2.2.1⟩

theorem start_call_log_splits_into_tick_blocks (h : runTicks cfg s queue ticks = .ok (s', rest)) :
    ∃ blocks : List (List SinkCall), s'.calls = s.calls ++ blocks.flatten ∧
      blocks.length ≤ ticks.length ∧ ∀ b ∈ blocks, LogBlock cfg.sinkers b := by
  obtain ⟨-, news, hcalls, hlog⟩ := runTicks_calls cfg h
  have hnews := forall_mem_of_forall₂ (fun _ _ hb => batchLog_block cfg hb) hlog
  refine ⟨news.filter (!·.isEmpty), by rw [hcalls, List.flatten_filter_not_isEmpty], ?_, ?_⟩
  · calc (news.filter (!·.isEmpty)).length ≤ news.length := List.length_filter_le _ _
      _ = (drainedBatches queue ticks).length := hlog.length_eq.symm
      _ = ticks.length := drainedBatches_length _ _
  · intro b hb
    obtain ⟨hb, hne⟩ := List.mem_filter.mp hb
    exact (hnews b hb).resolve_left fun hnil => by simp [hnil] at hne

theorem start_call_log_splits_into_tick_blocks_on_ddl :
    runTicks ⟨2, none, fun _ => true⟩ (.init ⟨0, 0⟩ none)
        [⟨.ddl ⟨"db1", "t", "alter table t add c int", .alterTable⟩, 1, ""⟩, ⟨.commit, 2, ""⟩]
        [(2, false)] =
      .ok (⟨⟨2, 0⟩, none, [(.bufferSize, 2, 1), (.sinkedCount, 1, 1)],
        [.sinkDdl [⟨"db1", "t", "alter table t add c int", .alterTable⟩],
          .refreshMeta 0 [⟨"db1", "t", "alter table t add c int", .alterTable⟩],
          .refreshMeta 1 [⟨"db1", "t", "alter table t add c int", .alterTable⟩]], some 2, some 2⟩, []) ∧
    ∃ blocks : List (List SinkCall),
      [.sinkDdl [⟨"db1", "t", "alter table t add c int", .alterTable⟩],
        .refreshMeta 0 [⟨"db1", "t", "alter table t add c int", .alterTable⟩],
        .refreshMeta 1 [⟨"db1", "t", "alter table t add c int", .alterTable⟩]] = [] ++ blocks.flatten ∧
      blocks.length ≤ 1 ∧ ∀ b ∈ blocks, LogBlock 2 b :=
  have h : runTicks ⟨2, none, fun _ => true⟩ (.init ⟨0, 0⟩ none)
      [⟨.ddl ⟨"db1", "t", "alter table t add c int", .alterTable⟩, 1, ""⟩, ⟨.commit, 2, ""⟩]
      [(2, false)] =
      .ok (⟨⟨2, 0⟩, none, [(.bufferSize, 2, 1), (.sinkedCount, 1, 1)],
        [.sinkDdl [⟨"db1", "t", "alter table t add c int", .alterTable⟩],
          .refreshMeta 0 [⟨"db1", "t", "alter table t add c int", .alterTable⟩],
          .refreshMeta 1 [⟨"db1", "t", "alter table t add c int", .alterTable⟩]], some 2, some 2⟩, []) :=
    rfl
  ⟨h, start_call_log_splits_into_tick_blocks ⟨2, none, fun _ => true⟩ h⟩

end Runs

end CubetranCore.Pipeline
