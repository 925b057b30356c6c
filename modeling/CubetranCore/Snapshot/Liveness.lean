import CubetranCore.Snapshot.Handoff

namespace CubetranCore.Snapshot

open Pipeline

variable {P : Type}

section Stalled

variable {cfg : PipelineConfig} {capacity : Nat} {rows : List (DtItem P)}
  {pipeline : BasePipeline P} {s s' : Handoff P}

structure Stalled (s : Handoff P) : Prop where
  failed : s.extractor = .failed
  flagDown : s.shutDown = false
  notGuardEmpty : s.pipelinePc ≠ .guardEmpty
  notExited : s.pipelinePc ≠ .exited

theorem stalled_step (hs : Stalled s) (h : Step cfg capacity s s') : Stalled s' := by
  obtain ⟨hf, hflag, hge, hex⟩ := hs
  cases h with
  | notFull he _ | pushRow he | spinFail he | pushFail he => rw [hf] at he; cases he
  | scanDone he | empty he _ | storeFlag he => rw [hf] at he; cases he
  | loadShutDown _ hup => rw [hflag] at hup; cases hup
  | exit hp _ => exact absurd hp hge
  | loadRunning _ _ | notEmpty _ _ | intervalElapsed _ | intervalPending _ | full _ _
    | notFullSkip _ _ | pop _ _ | drained _ | dispatch _ _ => exact ⟨hf, hflag, nofun, nofun⟩

theorem stalled_reachable (hs : Stalled s) (h : Relation.ReflTransGen (Step cfg capacity) s s') :
    Stalled s' := by
  induction h with
  | refl => exact hs
  | tail _ hstep ih => exact stalled_step ih hstep

theorem Inv.flag_down (hi : Inv rows capacity s) (hdone : s.extractor ≠ .done) :
    s.shutDown = false := by
  cases hup : s.shutDown
  · rfl
  · exact absurd (hi.flag hup) hdone

theorem Inv.stalled_of_failed (hi : Inv rows capacity s) (hf : s.extractor = .failed) :
    Stalled s := by
  have hflag := hi.flag_down (by rw [hf]; nofun)
  exact ⟨hf, hflag, fun hp => by simp [hi.guardEmpty hp] at hflag,
    fun hp => by simp [(hi.exited hp).2] at hflag⟩

theorem failed_extractor_never_lets_start_return
    (h₀ : Relation.ReflTransGen (Step cfg capacity) (.init rows pipeline) s)
    (hf : s.extractor = .failed) (h : Relation.ReflTransGen (Step cfg capacity) s s') :
    s'.pipelinePc ≠ .exited :=
  (stalled_reachable ((inv_reachable h₀).stalled_of_failed hf) h).notExited

end Stalled

def DispatchReturns (P : Type) (cfg : PipelineConfig) : Prop :=
  ∀ (p : BasePipeline P) batch due, ∃ p', Pipeline.dispatch cfg p batch due = .ok p'

theorem dispatchReturns_of_accepts {cfg : PipelineConfig} (hacc : ∀ c, cfg.accepts c = true)
    (hlua : cfg.luaProcessor = none) : DispatchReturns P cfg := by
  have hcall : ∀ c calls, call cfg c calls = .ok (calls ++ [c]) := fun c calls => by
    simp [call, hacc]
  have hrefresh : ∀ data (ks : List Nat) calls, ∃ calls',
      ks.foldlM (fun calls k => call cfg (.refreshMeta k data) calls) calls = .ok calls' := by
    intro data ks
    induction ks with
    | nil => exact fun calls => ⟨calls, rfl⟩
    | cons k ks ih =>
      intro calls
      rw [List.foldlM_cons, hcall, ok_bind]
      exact ih _
  have hmap : ∀ (f : List SinkCall → Sunk P) {x : Except Fault (List SinkCall)},
      (∃ calls, x = .ok calls) → ∃ r, x.map f = .ok r := by
    rintro f x ⟨calls, rfl⟩
    exact ⟨_, rfl⟩
  intro p batch due
  have hsink : ∃ r, sink cfg batch p.calls = .ok r := by
    unfold sink sinkDdl sinkDml sinkRaw
    split <;> dsimp only <;> apply hmap
    · unfold deliverDdl refreshMeta
      split
      · rw [hcall, ok_bind]
        exact hrefresh _ _ _
      · exact ⟨_, rfl⟩
    · unfold deliverDml process
      split
      · exact ⟨p.calls ++ [.sinkDml (fetchDml batch).1], by simp only [hlua, pure_bind, hcall]⟩
      · exact ⟨_, rfl⟩
    · unfold deliverRaw
      split
      · exact ⟨_, hcall _ _⟩
      · exact ⟨_, rfl⟩
  obtain ⟨r, hr⟩ := hsink
  exact ⟨_, by simp only [dispatch, hr, unwrap_ok, ok_bind]; rfl⟩

section Progress

variable (cfg : PipelineConfig) (capacity : Nat)

def ExtractorPc.stepsLeft : ExtractorPc P → Nat
  | .spin rows => 2 * rows.length + 4
  | .push _ rows => 2 * rows.length + 5
  | .drainWait => 3
  | .store => 2
  | .done => 1
  | .failed => 0

structure PipelineRun (s s' : Handoff P) : Prop where
  run : Relation.ReflTransGen (Step cfg capacity) s s'
  extractor : s'.extractor = s.extractor
  shutDown : s'.shutDown = s.shutDown

theorem pops : ∀ (buffer : List (DtItem P)) (s : Handoff P) (batch : List (DtItem P)),
    s.pipelinePc = .draining batch → s.buffer = buffer →
    ∃ s', PipelineRun cfg capacity s s' ∧ s'.pipelinePc = .draining (batch ++ buffer) ∧ s'.buffer = []
  | [], s, batch, hp, hb => ⟨s, ⟨.refl, rfl, rfl⟩, by rw [hp, List.append_nil], hb⟩
  | x :: rest, s, batch, hp, hb => by
    obtain ⟨s', h, hp', hb'⟩ :=
      pops rest { s with buffer := rest, pipelinePc := .draining (batch ++ [x]) } _ rfl rfl
    exact ⟨s', ⟨.head (Step.pop hp hb) h.run, h.extractor, h.shutDown⟩, by simpa using hp', hb'⟩

theorem finish_draining (hd : DispatchReturns P cfg) (s : Handoff P) {batch : List (DtItem P)}
    (hp : s.pipelinePc = .draining batch) :
    ∃ s', PipelineRun cfg capacity s s' ∧ s'.pipelinePc = .guard ∧ s'.buffer = [] := by
  obtain ⟨s₁, h₁, hp₁, hb₁⟩ := pops cfg capacity s.buffer s batch hp rfl
  obtain ⟨p', hp'⟩ := hd s₁.pipeline (batch ++ s.buffer) false
  exact ⟨_, ⟨(h₁.run.tail (Step.drained hp₁)).tail (Step.dispatch rfl hp'), h₁.extractor,
    h₁.shutDown⟩, rfl, hb₁⟩

theorem tick_from_body (hd : DispatchReturns P cfg) (s : Handoff P) (hp : s.pipelinePc = .body) :
    ∃ s', PipelineRun cfg capacity s s' ∧ s'.pipelinePc = .guard ∧ s'.buffer = [] := by
  obtain ⟨s', h, hp', hb'⟩ := finish_draining cfg capacity hd
    { s with pipelinePc := .draining [], pipeline := recordBufferSize s.pipeline s.buffer } rfl
  exact ⟨s', ⟨.head (Step.intervalElapsed hp) h.run, h.extractor, h.shutDown⟩, hp', hb'⟩

theorem to_guard (hd : DispatchReturns P cfg) (s : Handoff P) (hge : s.pipelinePc ≠ .guardEmpty)
    (hex : s.pipelinePc ≠ .exited) :
    ∃ s', PipelineRun cfg capacity s s' ∧ s'.pipelinePc = .guard := by
  cases hp : s.pipelinePc with
  | guard => exact ⟨s, ⟨.refl, rfl, rfl⟩, hp⟩
  | guardEmpty => exact absurd hp hge
  | exited => exact absurd hp hex
  | body =>
    obtain ⟨s', h, hp', -⟩ := tick_from_body cfg capacity hd s hp
    exact ⟨s', h, hp'⟩
  | checkFull =>
    by_cases hl : capacity ≤ s.buffer.length
    · obtain ⟨s', h, hp', -⟩ :=
        finish_draining cfg capacity hd { s with pipelinePc := .draining [] } rfl
      exact ⟨s', ⟨.head (Step.full hp hl) h.run, h.extractor, h.shutDown⟩, hp'⟩
    · obtain ⟨p', hp'⟩ := hd s.pipeline [] false
      exact ⟨_, ⟨.head (Step.notFullSkip hp (Nat.lt_of_not_le hl)) (.single (Step.dispatch rfl hp')),
        rfl, rfl⟩, rfl⟩
  | draining batch =>
    obtain ⟨s', h, hp', -⟩ := finish_draining cfg capacity hd s hp
    exact ⟨s', h, hp'⟩
  | dispatching batch =>
    obtain ⟨p', hp'⟩ := hd s.pipeline batch false
    exact ⟨_, ⟨.single (Step.dispatch hp hp'), rfl, rfl⟩, rfl⟩

theorem exit_from_guardEmpty (hd : DispatchReturns P cfg) (s : Handoff P)
    (hp : s.pipelinePc = .guardEmpty) (hflag : s.shutDown = true) :
    ∃ s', Relation.ReflTransGen (Step cfg capacity) s s' ∧ s'.pipelinePc = .exited := by
  cases hb : s.buffer with
  | nil => exact ⟨_, .single (Step.exit hp hb), rfl⟩
  | cons x rest =>
    obtain ⟨s₁, h₁, hp₁, hb₁⟩ := tick_from_body cfg capacity hd { s with pipelinePc := .body } rfl
    exact ⟨_, ((h₁.run.head (Step.notEmpty hp hb)).tail
      (Step.loadShutDown hp₁ (h₁.shutDown.trans hflag))).tail (Step.exit rfl hb₁), rfl⟩

theorem pushRow_step (s : Handoff P) {r : DtItem P} {rest : List (DtItem P)}
    (he : s.extractor = .push r rest) :
    ∃ s', Step cfg capacity s s' ∧ s'.extractor = .spin rest ∧ s'.pipelinePc = s.pipelinePc :=
  ⟨_, Step.pushRow he, by split <;> rfl, by split <;> rfl⟩

variable {cfg capacity} {rows : List (DtItem P)} {pipeline : BasePipeline P} {s s' : Handoff P}

theorem flag_of_done_step (hdone : s.extractor = .done → s.shutDown = true)
    (h : Step cfg capacity s s') : s'.extractor = .done → s'.shutDown = true := by
  cases h with
  | storeFlag _ => exact fun _ => rfl
  | pushRow _ => split <;> (intro he; cases he)
  | notFull _ _ | scanDone _ | empty _ _ | spinFail _ | pushFail _ => intro he; cases he
  | loadRunning _ _ | loadShutDown _ _ | notEmpty _ _ | exit _ _ | intervalElapsed _
    | intervalPending _ | full _ _ | notFullSkip _ _ | pop _ _ | drained _ | dispatch _ _ => exact hdone

theorem flag_of_done_reachable
    (h : Relation.ReflTransGen (Step cfg capacity) (.init rows pipeline) s) :
    s.extractor = .done → s.shutDown = true := by
  induction h with
  | refl => nofun
  | tail _ hs ih => exact flag_of_done_step ih hs

theorem exit_reachable_of_guard (hd : DispatchReturns P cfg) (hcap : 0 < capacity) :
    ∀ n (s : Handoff P), s.extractor.stepsLeft = n →
      Relation.ReflTransGen (Step cfg capacity) (.init rows pipeline) s → s.pipelinePc = .guard →
      s.extractor ≠ .failed →
      ∃ s', Relation.ReflTransGen (Step cfg capacity) s s' ∧ s'.pipelinePc = .exited := by
  intro n
  induction n using Nat.strong_induction_on with
  | _ n ih =>
  intro s hn h₀ hp hf
  have hi := inv_reachable h₀
  -- a run to a state at the guard whose extractor has fewer steps left
  have next : ∀ s', Relation.ReflTransGen (Step cfg capacity) s s' → s'.extractor.stepsLeft < n →
      s'.pipelinePc = .guard → s'.extractor ≠ .failed →
      ∃ s'', Relation.ReflTransGen (Step cfg capacity) s s'' ∧ s''.pipelinePc = .exited :=
    fun s' h hlt hp' hf' =>
      let ⟨s'', h', hex⟩ := ih _ hlt s' rfl (h₀.trans h) hp' hf'
      ⟨s'', h.trans h', hex⟩
  -- a tick that empties the queue, the flag being down
  have tick : s.extractor ≠ .done → ∃ s₁, Relation.ReflTransGen (Step cfg capacity) s s₁ ∧
      s₁.pipelinePc = .guard ∧ s₁.buffer = [] ∧ s₁.extractor = s.extractor := fun hdone =>
    let ⟨s₁, h₁, hp₁, hb₁⟩ := tick_from_body cfg capacity hd { s with pipelinePc := .body } rfl
    ⟨s₁, h₁.run.head (Step.loadRunning hp (hi.flag_down hdone)), hp₁, hb₁, h₁.extractor⟩
  cases hext : s.extractor with
  | spin rest =>
    cases rest with
    | nil => exact next _ (.single (Step.scanDone hext)) (by rw [← hn, hext]; simp [ExtractorPc.stepsLeft]) hp nofun
    | cons r rest =>
      -- push `r` into the queue the tick emptied
      obtain ⟨s₁, h₁, hp₁, hb₁, he₁⟩ := tick (by rw [hext]; nofun)
      obtain ⟨s₂, h₂, he₂, hp₂⟩ := pushRow_step cfg capacity { s₁ with extractor := .push r rest } rfl
      refine next s₂ ((h₁.tail (Step.notFull (he₁.trans hext) (by rw [hb₁]; exact hcap))).tail h₂)
        ?_ (hp₂.trans hp₁) (by rw [he₂]; nofun)
      rw [he₂, ← hn, hext]
      simp only [ExtractorPc.stepsLeft, List.length_cons]
      omega
  | push r rest =>
    obtain ⟨s₁, h₁, he₁, hp₁⟩ := pushRow_step cfg capacity s hext
    refine next s₁ (.single h₁) ?_ (hp₁.trans hp) (by rw [he₁]; nofun)
    rw [he₁, ← hn, hext]
    simp only [ExtractorPc.stepsLeft]
    omega
  | drainWait =>
    -- the queue empties, and the extractor goes on to store the flag
    obtain ⟨s₁, h₁, hp₁, hb₁, he₁⟩ := tick (by rw [hext]; nofun)
    exact next _ (h₁.tail (Step.empty (he₁.trans hext) hb₁)) (by rw [← hn, hext]; simp [ExtractorPc.stepsLeft]) hp₁ nofun
  | store => exact next _ (.single (Step.storeFlag hext)) (by rw [← hn, hext]; simp [ExtractorPc.stepsLeft]) hp nofun
  | done =>
    have hflag := flag_of_done_reachable h₀ hext
    obtain ⟨s', h', hex⟩ :=
      exit_from_guardEmpty cfg capacity hd { s with pipelinePc := .guardEmpty } rfl hflag
    exact ⟨s', .head (Step.loadShutDown hp hflag) h', hex⟩
  | failed => exact absurd hext hf

theorem start_can_return (hd : DispatchReturns P cfg) (hcap : 0 < capacity)
    (h₀ : Relation.ReflTransGen (Step cfg capacity) (.init rows pipeline) s)
    (hf : s.extractor ≠ .failed) :
    ∃ s', Relation.ReflTransGen (Step cfg capacity) s s' ∧ s'.pipelinePc = .exited := by
  by_cases hex : s.pipelinePc = .exited
  · exact ⟨s, .refl, hex⟩
  by_cases hge : s.pipelinePc = .guardEmpty
  · exact exit_from_guardEmpty cfg capacity hd s hge ((inv_reachable h₀).guardEmpty hge)
  obtain ⟨s₁, h₁, hp₁⟩ := to_guard cfg capacity hd s hge hex
  obtain ⟨s', h', hex'⟩ :=
    exit_reachable_of_guard hd hcap _ s₁ rfl (h₀.trans h₁.run) hp₁ (by rw [h₁.extractor]; exact hf)
  exact ⟨s', h₁.run.trans h', hex'⟩

theorem start_can_return_iff_extractor_not_failed (hd : DispatchReturns P cfg)
    (hcap : 0 < capacity) (h₀ : Relation.ReflTransGen (Step cfg capacity) (.init rows pipeline) s) :
    (∃ s', Relation.ReflTransGen (Step cfg capacity) s s' ∧ s'.pipelinePc = .exited) ↔
      s.extractor ≠ .failed :=
  ⟨fun ⟨_, h, hex⟩ hf => failed_extractor_never_lets_start_return h₀ hf h hex,
    start_can_return hd hcap h₀⟩

end Progress

theorem start_can_return_from_init :
    (∃ s', Relation.ReflTransGen (Step ⟨1, none, fun _ => true⟩ 1)
        (.init [⟨.dml ⟨"db", "t", .insert, none, some ∅, 0⟩, 7, ""⟩] (BasePipeline.init ⟨0, 0⟩ none)) s' ∧
        s'.pipelinePc = .exited) ↔
      (Handoff.init [(⟨.dml ⟨"db", "t", .insert, none, some ∅, 0⟩, 7, ""⟩ : DtItem Nat)]
        (BasePipeline.init ⟨0, 0⟩ none)).extractor ≠ .failed :=
  start_can_return_iff_extractor_not_failed (dispatchReturns_of_accepts (fun _ => rfl) rfl)
    Nat.one_pos .refl

end CubetranCore.Snapshot
