import CudaTrace.Ptrace.CaptureEvents
import CudaTrace.Ptrace.Healthy
import CudaTrace.Ptrace.Parity

/-!
# One turn with a healthy tracefs

What the branches of the loop do to the capture automaton: an entry begins the capture
or waits, an exit or a death finishes it and gives it to the first held task.
-/

namespace CudaTrace.Ptrace
open CudaTrace.Base CudaTrace.Fgraph

/-- A task that waits in its reported entry stop, or can only die. -/
def Parked (k : Tasks) (u : Pid) : Prop :=
  ∃ task, k u = some task ∧
    ((∃ c, task.run = .stopped (.syscallEntry c) true) ∨ task.run.dying = true)

/-- Whatever a parked task does when it is resumed, its capture has begun. -/
theorem Parked.ran {k : Tasks} {u : Pid} (h : Parked k u) {m : CaptureMonitor}
    (hm : m.phase u = .captured) (sig : I32) :
    ((k.resume u sig).2.flatMap Release.ran).foldlM CaptureEvent.accept m = some m := by
  obtain ⟨task, hk, ⟨c, hr⟩ | hd⟩ := h
  · rw [ran_entry hk hr, accept_single]
    exact if_pos hm
  · rw [ran_other]
    · rfl
    · intro other c r ho hr
      cases hk.symm.trans ho
      rw [hr] at hd
      cases hd

section Hand

variable {t : Pid} {p : CallPhase} {m : CaptureMonitor} {s : LoopState} {k : Tasks}

/-- What a hand-over from `s` to `s'` with the actions `o` makes of the automaton. -/
structure HandedOver (t : Pid) (p : CallPhase) (m : CaptureMonitor) (k : Tasks) (s s' : LoopState)
    (o : List Action) (m' : CaptureMonitor) : Prop where
  out : s'.out = s.out ++ o
  accepts : (k.captureEvents o).foldlM CaptureEvent.accept m = some m'
  follows : Follows t p m' s'
  healthy : s'.Healthy
  apart : t ∉ (resumes o).map Prod.fst
  kept : s'.states t = s.states t

theorem Follows.handOver (g : Globals) (hf : Follows t p m s) (hfree : s.activeFgraphCapture = none)
    (hh : s.Healthy) (hw : s.WaitersWanted) (hout : ¬ s.Held t) (hpark : ∀ u, s.Held u → Parked k u) :
    ∃ o m', HandedOver t p m k s (maybeResumeWaitingFgraphTid g s) o m' := by
  have hrun : maybeResumeWaitingFgraphTid g s = drainWaiting g s.waitingFgraphTids s := by
    rw [maybeResumeWaitingFgraphTid, hfree]
    rfl
  rw [hrun]
  rcases hh.drains hw g s.waitingFgraphTids with ⟨-, hd⟩ | ⟨u, st, c, a, rest, hst, hu, hc, ha, hd⟩
  · rw [hd]
    exact ⟨[], m, (List.append_nil _).symm, rfl, hf.congr rfl fun _ _ => rfl, hh.congr rfl,
      List.not_mem_nil, rfl⟩
  · have hut : u ≠ t := by
      rintro rfl
      exact hout hu
    rw [hd]
    refine ⟨[.beginCapture u true, .resume u 0], { m.set u .captured with owner := some u }, ?_⟩
    have hbegan : (CaptureEvent.began u).accept m =
        some { m.set u .captured with owner := some u } := by
      apply if_pos
      constructor
      · rw [hf.owner, LoopState.owner, hfree]
        rfl
      · rw [hf.others u hut]
        exact phaseOf_wanted.mpr hu
    constructor
    · rfl
    · simp only [Tasks.captureEvents, List.append_nil]
      rw [accept_cons _ hbegan]
      have hphase : ({ m.set u .captured with owner := some u } : CaptureMonitor).phase u =
          .captured := m.set_self u .captured
      exact (hpark u hu).ran hphase 0
    · constructor
      · simp only [LoopState.owner, Option.map_some, ha]
      · exact (m.set_of_ne _ (Ne.symm hut)).trans hf.self
      · intro v hv
        by_cases hvu : v = u
        · subst hvu
          obtain ⟨st', hst', hact, -⟩ := hu.record
          cases hst.symm.trans hst'
          simp only [Function.update_self, phaseOf, SyscallState.phase, hact]
          exact m.set_self v .captured
        · simp only [Function.update_of_ne hvu]
          exact (m.set_of_ne _ hvu).trans (hf.others v hv)
    · exact ⟨c, rfl, hc⟩
    · simpa [resumes] using Ne.symm hut
    · exact Function.update_of_ne (Ne.symm hut) _ _

/-- A state that a turn for `t` ends in, by what the automaton makes of the events `es`. -/
structure Settled (t : Pid) (es : List CaptureEvent) (m : CaptureMonitor) (s' : LoopState) : Prop where
  accepts : ∃ m', es.foldlM CaptureEvent.accept m = some m' ∧ Follows t (phaseOf (s'.states t)) m' s'
  healthy : s'.Healthy

/-- The owner `t` gives the capture up in `s₂`, the queue is drained, and the turn ends in
`s₃` with the event `e`. -/
theorem Follows.ends (g : Globals) (hf : Follows t .captured m s) (ho : s.owner = some t)
    (hw : s.WaitersWanted) (hpark : ∀ u, u ≠ t → s.Held u → Parked k u) (s₂ : LoopState) (tail : List Action)
    {s₃ : LoopState}
    {a : ActiveFgraphCapture} {graph : Option String} {before after : List Action}
    {e : CaptureEvent} (hat : a.tid = t) (hfree : s₂.activeFgraphCapture = none) (hh : s₂.Healthy)
    (hcl : Cleared t s s₂) (hwin : ∀ u, u ≠ t → s₂.fgraphWindowByTid u = s.fgraphWindowByTid u)
    (hout : s₂.out = before ++ .endCapture a graph :: after) (hb : Silent before)
    (ha : Silent after) (hself : phaseOf (s₂.states t) = .outside)
    (h₃ : s₃ = { maybeResumeWaitingFgraphTid g s₂ with
      out := (maybeResumeWaitingFgraphTid g s₂).out ++ tail })
    (htail : ∀ k' : Tasks, k' t = k t → k'.captureEvents tail = [])
    (he : ∀ m' : CaptureMonitor, m'.phase t = .finished → e.accept m' = some (m'.set t .outside)) :
    Settled t (k.captureEvents s₃.out ++ [e]) m s₃ := by
  have hback : ∀ u, s₂.Held u → u ≠ t ∧ s.Held u := by
    intro u hu
    rw [LoopState.Held, hcl.isHeld u] at hu
    obtain ⟨hne, hu⟩ := (Bool.and_eq_true _ _).mp hu
    exact ⟨of_decide_eq_true hne, hu⟩
  have hfin : (CaptureEvent.finished t).accept m =
      some { m.set t .finished with owner := none } := if_pos ⟨hf.owner.trans ho, hf.self⟩
  have hf₂ : Follows t .finished { m.set t .finished with owner := none } s₂ := by
    constructor
    · rw [LoopState.owner, hfree]
      rfl
    · exact m.set_self t .finished
    · intro u hu
      rw [hcl.states_of_ne hu]
      exact (m.set_of_ne _ hu).trans (hf.others u hu)
  have hw₂ : s₂.WaitersWanted := by
    intro u st hu hst
    obtain ⟨hut, hu'⟩ := hback u hu
    have hold := hw u st hu' ((hcl.states_of_ne hut).symm.trans hst)
    rwa [windowDepth, hwin u hut]
  obtain ⟨o, m', hand⟩ := hf₂.handOver (k := k) g hfree hh hw₂ (fun hu => (hback t hu).1 rfl)
    fun u hu => hpark u (hback u hu).1 (hback u hu).2
  have hev : k.captureEvents s₃.out = .finished t :: k.captureEvents o := by
    have hk' : ((k.resumeAll (resumes o)).1) t = k t := by rw [resumeAll_tasks, if_neg hand.apart]
    rw [h₃]
    dsimp only
    rw [hand.out, hout, List.append_assoc, List.append_assoc, hb.captureEvents, List.cons_append,
      Tasks.captureEvents, ha.captureEvents, captureEvents_append, htail _ hk', List.append_nil, hat]
  have hphase : phaseOf (s₃.states t) = .outside := by
    rw [h₃]
    dsimp only
    rw [hand.kept, hself]
  constructor
  · refine ⟨m'.set t .outside, ?_, ?_⟩
    · rw [hev, List.cons_append, accept_cons _ hfin, accept_append _ hand.accepts, accept_single]
      exact he m' hand.follows.self
    · rw [hphase]
      apply hand.follows.set .outside
      · rw [h₃]
        rfl
      · intro u _
        rw [h₃]
  · apply hand.healthy.congr
    rw [h₃]

/-- A turn for a task without the capture that leaves its record outside every call. -/
theorem Follows.quits {s₃ : LoopState} {e : CaptureEvent} {es : List CaptureEvent}
    (hf : Follows t p m s) (hh : s.Healthy) (hes : es = [])
    (he : e.accept m = some (m.set t .outside)) (ho : s₃.owner = s.owner)
    (hst : ∀ u, u ≠ t → s₃.states u = s.states u)
    (hc : s₃.fgraphController = s.fgraphController) (hself : phaseOf (s₃.states t) = .outside) :
    Settled t (es ++ [e]) m s₃ := by
  constructor
  · refine ⟨m.set t .outside, ?_, ?_⟩
    · rw [hes, List.nil_append, accept_single, he]
    · rw [hself]
      exact hf.set .outside ho hst
  · exact hh.congr hc

end Hand

section Turns

variable {g : Globals} {env : Env} {t : Pid} {m : CaptureMonitor} {s : LoopState} {k : Tasks}

/-- An exit: the line comes before the finish, and the task itself goes on last. -/
theorem onExit_settled {regs : UserRegs} {state : SyscallState} (hc : Consistent s)
    (hst : s.states t = some state) (hact : state.active = true) (hheld : ¬ s.Held t)
    (hf : Follows t (phaseOf (s.states t)) m s) (hh : s.Healthy) (hout : s.out = [])
    (hw : s.owner = some t → s.WaitersWanted) (hpark : ∀ u, u ≠ t → s.Held u → Parked k u)
    (hk : ∀ task c r, k t = some task → task.run ≠ .stopped (.syscallEntry c) r) :
    Settled t (k.captureEvents (onExit g env t regs state s).out ++ [.left t]) m
      (onExit g env t regs state s) := by
  have hline := exitLine_silent g env t regs state s
  have hout₁ : s.out ++ exitLine g env t regs state s = exitLine g env t regs state s := by
    rw [hout, List.nil_append]
  unfold onExit
  dsimp only
  split
  · rename_i hcap
    have howner := (hc.capturing t).mp ⟨state, hst, hcap⟩
    obtain ⟨a, ha, hat⟩ := Option.map_eq_some_iff.mp howner
    have hh₁ : ({ s with
        states := Function.update s.states t (some (exitState state))
        hiddenFds := updateHiddenFds g.config state (normalizeRet regs.rax) s.hiddenFds
        fdPaths := updateFdPaths s.fdPaths state (normalizeRet regs.rax)
        out := s.out ++ exitLine g env t regs state s } : LoopState).Healthy := hh.congr rfl
    obtain ⟨c, graph, hch, hfin⟩ := hh₁.finishes ha
    have hf' : Follows t .captured m s := by
      rwa [(phaseOf_captured hc).mpr howner] at hf
    generalize hs₂ : finishActiveFgraphCapture _ = s₂
    rw [hfin] at hs₂
    have hstates : s₂.states = Function.update s.states t (some (exitState state)) := by rw [← hs₂]
    apply hf'.ends g howner (hw howner) hpark s₂ [.resume t 0] hat
    · rw [← hs₂]
    · exact ⟨c, by rw [← hs₂], hch⟩
    · refine ⟨_, hstates, ?_⟩
      intro st he
      cases he
      exact ⟨rfl, rfl⟩
    · intro u _
      rw [← hs₂]
    · rw [← hs₂, hout₁]
    · exact hline
    · exact nofun
    · rw [hstates, Function.update_self]
      rfl
    · rfl
    · intro k' hk'
      apply captureEvents_resume
      rw [hk']
      exact hk
    · intro m' hm'
      exact if_pos (Or.inr hm')
  · rename_i hcap
    have hphase : phaseOf (s.states t) = .running := by
      have hwait : state.fgraphWaiting = false := by
        rw [LoopState.Held, isHeld_of_some hst, SyscallState.isHeld, hact] at hheld
        simpa using hheld
      rw [hst, phaseOf, SyscallState.phase, hact, hwait]
      simp [hcap]
    apply hf.quits hh
    · rw [LoopState.emit, hout₁, hline.captureEvents]
      exact captureEvents_resume hk
    · exact if_pos (Or.inl (hf.self.trans hphase))
    · rfl
    · intro u hu
      exact Function.update_of_ne hu _ _
    · rfl
    · dsimp only [LoopState.emit]
      rw [Function.update_self]
      rfl

/-- A death. -/
theorem onGone_settled (hc : Consistent s) (hf : Follows t (phaseOf (s.states t)) m s) (hh : s.Healthy)
    (hout : s.out = []) (hw : s.owner = some t → s.WaitersWanted)
    (hpark : ∀ u, u ≠ t → s.Held u → Parked k u) :
    Settled t (k.captureEvents (onGone g t s).out ++ [.gone t]) m (onGone g t s) := by
  have hclose : Silent [.closeSink t] := by
    intro x hx
    exact Or.inr (Or.inl ⟨t, List.mem_singleton.mp hx⟩)
  by_cases howner : s.owner = some t
  · obtain ⟨a, ha, hat⟩ := Option.map_eq_some_iff.mp howner
    obtain ⟨c, graph, hch, hfin⟩ := hh.finishes ha
    have hf' : Follows t .captured m s := by
      rwa [(phaseOf_captured hc).mpr howner] at hf
    have hany : s.activeFgraphCapture.any (·.tid == t) = true := by
      rw [ha, Option.any_some, hat]
      exact beq_self_eq_true t
    unfold onGone
    dsimp only
    rw [if_pos hany, hfin]
    generalize hs₂ : LoopState.emit _ (.closeSink t) = s₂
    have hstates : s₂.states = Function.update s.states t none := by rw [← hs₂]; rfl
    have hout₂ : s₂.out = [] ++ .endCapture a (some graph) :: [.closeSink t] := by
      rw [← hs₂, LoopState.emit, hout]
      rfl
    apply hf'.ends g howner (hw howner) hpark s₂ [] hat
    · rw [← hs₂]
      rfl
    · exact ⟨c, by rw [← hs₂]; rfl, hch⟩
    · exact ⟨none, hstates, fun st hst => by cases hst⟩
    · intro u hu
      rw [← hs₂]
      exact Function.update_of_ne hu _ _
    · exact hout₂
    · exact fun x hx => absurd hx List.not_mem_nil
    · exact hclose
    · rw [hstates, Function.update_self]
      rfl
    · rw [List.append_nil]
    · exact fun _ _ => rfl
    · intro m' hm'
      apply if_neg
      rw [hm']
      decide
  · have hany : ¬ s.activeFgraphCapture.any (·.tid == t) = true := by
      intro hany
      obtain ⟨a, ha, hat⟩ := (Option.any_eq_true _ _).mp hany
      apply howner
      rw [LoopState.owner, ha, Option.map_some, beq_iff_eq.mp hat]
    unfold onGone
    dsimp only
    rw [if_neg hany]
    generalize hs₁ : LoopState.emit _ (.closeSink t) = s₁
    have hstates : s₁.states = Function.update s.states t none := by rw [← hs₁]; rfl
    have howner₁ : s₁.owner = s.owner := by rw [← hs₁]; rfl
    have hidle : s₁.owner = none → s₁.waitingFgraphTids.filter s₁.isHeld = [] := by
      intro hnone
      apply List.filter_eq_nil_iff.mpr
      intro u _ hu
      have hcl : Cleared t s s₁ := ⟨none, hstates, fun st hst => by cases hst⟩
      rw [hcl.isHeld u] at hu
      have hheld : s.Held u := ((Bool.and_eq_true _ _).mp hu).2
      have hm : u ∈ s.waiters := mem_waiters.mpr ⟨hc.queued u hheld, hheld⟩
      rw [hc.idle (howner₁.symm.trans hnone)] at hm
      cases hm
    -- the drain finds nobody
    obtain ⟨queue, hrun⟩ : ∃ queue, maybeResumeWaitingFgraphTid g s₁ =
        { s₁ with waitingFgraphTids := queue } := by
      rw [maybeResumeWaitingFgraphTid]
      split
      · exact ⟨s₁.waitingFgraphTids, rfl⟩
      · rename_i hn
        have hnone := owner_eq_none.mpr (Option.not_isSome_iff_eq_none.mp hn)
        exact ⟨[], drainWaiting_idle g _ s₁ (hidle hnone)⟩
    rw [hrun]
    apply hf.quits hh
    · dsimp only
      rw [← hs₁, LoopState.emit, hout, List.nil_append]
      rfl
    · apply if_neg
      rw [hf.self, phaseOf_captured hc]
      exact howner
    · exact howner₁
    · intro u hu
      rw [hstates]
      exact Function.update_of_ne hu _ _
    · rw [← hs₁]
      rfl
    · rw [hstates, Function.update_self]
      rfl

/-- An entry. A held task stays wanted, and no begin is missed. -/
theorem onEntry_settled {regs : UserRegs} (state : SyscallState) (hf : Follows t .outside m s)
    (hh : s.Healthy) (hout : s.out = []) {task : Task} {c : Call} (hk : k t = some task)
    (hr : task.run = .stopped (.syscallEntry c) true) :
    Settled t (.entered t (!isInternalSyscall env t regs s.cudatraceRanges &&
        decide (0 < windowDepth s.fgraphWindowByTid t)) ::
      k.captureEvents (onEntry g env t regs state s).out) m (onEntry g env t regs state s) := by
  have hwants := hh.shouldCapture t (entryState g env t regs state s)
  have hint : (entryState g env t regs state s).internal =
      isInternalSyscall env t regs s.cudatraceRanges := rfl
  rw [hint] at hwants
  rw [← hwants]
  have hentered : ∀ w, (CaptureEvent.entered t w).accept m =
      some (m.set t (if w then .wanted else .unwanted)) := by
    intro w
    exact if_pos hf.self
  have hran : ∀ rest, k.captureEvents (.resume t 0 :: rest) =
      .ran t :: (k.resume t 0).1.captureEvents rest := by
    intro rest
    rw [Tasks.captureEvents, ran_entry hk hr]
    rfl
  -- the state in which the task waits
  have hwaits : ∀ s' : LoopState, s'.owner = s.owner →
      s'.states = Function.update s.states t
        (some { entryState g env t regs state s with fgraphWaiting := true }) →
      s'.out = [] → s'.fgraphController = s.fgraphController →
      Settled t (.entered t true :: k.captureEvents s'.out) m s' := by
    intro s' howner hstates hout' hc
    constructor
    · refine ⟨m.set t .wanted, ?_, ?_⟩
      · rw [accept_cons _ (hentered true), hout']
        rfl
      · rw [hstates, Function.update_self]
        apply hf.set .wanted howner
        intro u hu
        rw [hstates, Function.update_of_ne hu]
    · exact hh.congr hc
  unfold onEntry
  dsimp only
  cases hw : shouldCaptureFgraph t (entryState g env t regs state s) s with
  | true =>
    simp only [if_true]
    split
    · rename_i hn
      have hfree : s.activeFgraphCapture = none := Option.isNone_iff_eq_none.mp hn
      obtain ⟨c', hch, hb⟩ := hh.begins g t (entryState g env t regs state s)
      rw [hb]
      constructor
      · refine ⟨{ (m.set t .wanted).set t .captured with owner := some t }, ?_, ?_⟩
        · have hbegan : (CaptureEvent.began t).accept (m.set t .wanted) =
              some { (m.set t .wanted).set t .captured with owner := some t } := by
            apply if_pos
            constructor
            · rw [m.set_owner, hf.owner, owner_eq_none]
              exact hfree
            · exact m.set_self t .wanted
          rw [accept_cons _ (hentered true)]
          simp only [LoopState.emit, LoopState.setState, hout, List.nil_append, List.singleton_append,
            Tasks.captureEvents, ran_entry hk hr, List.append_nil, if_true]
          rw [accept_cons _ hbegan, accept_single]
          exact if_pos (CaptureMonitor.set_self _ t .captured)
        · constructor
          · rfl
          · simp only [LoopState.emit, LoopState.setState, Function.update_self]
            exact CaptureMonitor.set_self _ t .captured
          · intro u hu
            simp only [LoopState.emit, LoopState.setState, Function.update_of_ne hu]
            exact ((CaptureMonitor.set_of_ne _ _ hu).trans (m.set_of_ne _ hu)).trans (hf.others u hu)
      · exact ⟨c', rfl, hch⟩
    · split
      · exact hwaits _ rfl rfl hout rfl
      · exact hwaits _ rfl rfl hout rfl
  | false =>
    simp only [Bool.false_eq_true, if_false]
    constructor
    · refine ⟨(m.set t .unwanted).set t .running, ?_, ?_⟩
      · rw [accept_cons _ (hentered false)]
        simp only [LoopState.emit, LoopState.setState, hout, List.nil_append, hran,
          Tasks.captureEvents, Bool.false_eq_true, if_false]
        rw [accept_single]
        simp only [CaptureEvent.accept, CaptureMonitor.set_self]
        rfl
      · have hphase : phaseOf (some (entryState g env t regs state s)) = .running := rfl
        have hunwanted : Follows t .unwanted (m.set t .unwanted) s :=
          hf.set .unwanted rfl fun _ _ => rfl
        simp only [LoopState.emit, LoopState.setState, Function.update_self, hphase]
        exact hunwanted.set .running rfl fun u hu => Function.update_of_ne hu _ _
    · exact hh.congr rfl

/-- Only a call that is not internal is held. -/
theorem onEntry_outer {regs : UserRegs} {state st : SyscallState}
    (hst : (onEntry g env t regs state s).states t = some st) (hw : st.fgraphWaiting = true) :
    st.internal = false := by
  have hint : ∀ st', shouldCaptureFgraph t st' s = true → st'.internal = false := by
    intro st' h
    unfold shouldCaptureFgraph at h
    cases hi : st'.internal with
    | false => rfl
    | true =>
      rw [hi] at h
      simp at h
  unfold onEntry at hst
  dsimp only at hst
  split at hst
  · rename_i hcap
    have hfalse := hint _ hcap
    have hsame : st.internal = (entryState g env t regs state s).internal := by
      split at hst
      · rcases begin_cases g t (entryState g env t regs state s) s with
          ⟨c, a, ha, hb⟩ | ⟨c, o, ho, hb⟩
        all_goals
          rw [hb] at hst
          simp only [LoopState.emit, LoopState.setState, Function.update_self] at hst
          cases hst
          rfl
      · split at hst
        all_goals
          simp only [LoopState.setState, Function.update_self] at hst
          cases hst
          rfl
    rw [hsame]
    exact hfalse
  · simp only [LoopState.emit, LoopState.setState, Function.update_self] at hst
    cases hst
    cases hw

/-- No request among `o` goes to a task in an entry stop. -/
def Quiet (k : Tasks) (o : List Action) : Prop :=
  ∀ x ∈ o, (∃ u, x = .setOptions u) ∨ ∃ u sig, x = .resume u sig ∧
    ∀ task c r, k u = some task → task.run ≠ .stopped (.syscallEntry c) r

theorem Quiet.captureEvents {o : List Action} (h : Quiet k o) : k.captureEvents o = [] := by
  induction o generalizing k with
  | nil => rfl
  | cons x o ih =>
    obtain ⟨hx, ho⟩ := List.forall_mem_cons.mp h
    rcases hx with ⟨u, rfl⟩ | ⟨u, sig, rfl, hu⟩
    · exact ih ho
    · rw [Tasks.captureEvents, ran_other hu, List.nil_append]
      apply ih
      intro y hy
      rcases ho y hy with h' | ⟨v, sig', rfl, hv⟩
      · exact Or.inl h'
      · refine Or.inr ⟨v, sig', rfl, ?_⟩
        intro task c r hk
        rw [resume_tasks] at hk
        split at hk
        · obtain ⟨task₀, -, rfl⟩ := Option.map_eq_some_iff.mp hk
          exact Run.released_ne_stopped _ _ _
        · exact hv task c r hk

end Turns

end CudaTrace.Ptrace
