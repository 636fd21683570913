import CudaTrace.Ptrace.Arbitration

/-!
# What one turn of the loop can do

For each branch of `run_ptrace_loop`: the requests it makes, the record it leaves
for the reported task, and that it is one step of the arbiter.
-/

namespace CudaTrace.Ptrace
open CudaTrace.Base CudaTrace.Fgraph

/-! ### Joining the arbitration -/

/-- The capture is free and `pid` takes it. -/
theorem Turned.take {pid : Pid} {s s' : LoopState} {st : SyscallState} {o : List Action}
    (h : Consistent s) (hfree : s.owner = none)
    (hstates : s'.states = Function.update s.states pid (some st)) (hact : st.active = true)
    (hwait : st.fgraphWaiting = false) (hcap : st.fgraphCapturing = true)
    (howner : s'.owner = some pid) (hqueue : s'.waitingFgraphTids = s.waitingFgraphTids)
    (hout : s'.out = s.out ++ o) : Turned pid s s' [] (resumes o) := by
  have hself : s'.states pid = some st := by rw [hstates, Function.update_self]
  have hother : ∀ t, t ≠ pid → s'.states t = s.states t := by
    intro t ht
    rw [hstates, Function.update_of_ne ht]
  have hnone : ∀ t, ¬ s'.Held t := by
    intro t ht
    by_cases htp : t = pid
    · subst htp
      obtain ⟨st', hst', -, hw⟩ := ht.record
      obtain rfl := Option.some.inj (hself.symm.trans hst')
      rw [hwait] at hw
      cases hw
    · have hh : s.Held t := (isHeld_congr (hother t htp)).symm.trans ht
      have hm : t ∈ s.waiters := mem_waiters.mpr ⟨h.queued t hh, hh⟩
      rw [h.idle hfree] at hm
      cases hm
  have hw' : s'.waiters = [] := List.filter_eq_nil_iff.mpr fun t _ => hnone t
  refine ⟨⟨⟨?_, ?_, ?_, hqueue ▸ h.nodup⟩, ?_⟩, ?_, ⟨o, hout, rfl⟩, ?_, ?_, nofun, nofun⟩
  · intro t
    rw [howner]
    by_cases ht : t = pid
    · subst ht
      exact ⟨fun _ => rfl, fun _ => ⟨st, hself, hcap⟩⟩
    · have hn : ¬ s.Capturing t := by
        rw [h.capturing t, hfree]
        nofun
      have hn' : ¬ s'.Capturing t := by simpa only [LoopState.Capturing, hother t ht] using hn
      exact ⟨fun hc => absurd hc hn', fun he => absurd (Option.some.inj he).symm ht⟩
  · intro t st' hst' hc
    by_cases ht : t = pid
    · subst ht
      obtain rfl := Option.some.inj (hself.symm.trans hst')
      exact ⟨hact, hwait⟩
    · exact h.busy t st' (hother t ht ▸ hst') hc
  · exact fun t ht => absurd ht (hnone t)
  · exact fun _ => hw'
  · have harb : s.arbiter = ⟨none, []⟩ := by rw [LoopState.arbiter, hfree, h.idle hfree]
    have harb' : s'.arbiter = ⟨some pid, []⟩ := by rw [LoopState.arbiter, howner, hw']
    rw [harb, harb']
    exact Arbiter.Step.take pid
  · rw [h.idle hfree, hw']
    rfl
  · exact fun t ht _ => hother t ht

/-- Another task owns the capture and `pid` is held. A stale place in the queue is
used again. -/
theorem Turned.wait {pid o : Pid} {s s' : LoopState} (st : SyscallState) (h : Consistent s)
    (howner : s.owner = some o) (hne : o ≠ pid) (hnot : ¬ s.Held pid)
    (hstates : s'.states = Function.update s.states pid (some st)) (hact : st.active = true)
    (hwait : st.fgraphWaiting = true) (hcap : st.fgraphCapturing = false)
    (howner' : s'.owner = some o) (hout : s'.out = s.out)
    (hqueue : s'.waitingFgraphTids =
      if s.waitingFgraphTids.contains pid then s.waitingFgraphTids
      else s.waitingFgraphTids ++ [pid]) : Turned pid s s' [] [] := by
  have hself : s'.states pid = some st := by rw [hstates, Function.update_self]
  have hother : ∀ t, t ≠ pid → s'.states t = s.states t := by
    intro t ht
    rw [hstates, Function.update_of_ne ht]
  have hheld : s'.isHeld pid = true := by
    rw [isHeld_of_some hself, SyscallState.isHeld, hact, hwait]
    rfl
  -- the queue with the place of `pid` marked
  obtain ⟨q, r, hq', hsub, hw⟩ : ∃ q r, s'.waitingFgraphTids = q ++ pid :: r ∧
      pid ∉ q ++ r ∧ s.waiters = q.filter s.isHeld ++ r.filter s.isHeld := by
    by_cases hm : pid ∈ s.waitingFgraphTids
    · obtain ⟨q, r, hqr⟩ := List.append_of_mem hm
      refine ⟨q, r, ?_, ?_, ?_⟩
      · rw [hqueue, if_pos (List.contains_iff_mem.mpr hm), hqr]
      · have hn := h.nodup
        rw [hqr] at hn
        exact (List.nodup_cons.mp (List.nodup_middle.mp hn)).1
      · rw [LoopState.waiters, hqr, List.filter_append, List.filter_cons_of_neg hnot]
    · refine ⟨s.waitingFgraphTids, [], ?_, by simpa using hm, by simp [LoopState.waiters]⟩
      rw [hqueue, if_neg (by simpa using hm)]
  have hsame : ∀ l : List Pid, pid ∉ l → l.filter s'.isHeld = l.filter s.isHeld := by
    intro l hl
    refine List.filter_congr fun t ht => isHeld_congr (hother t ?_)
    intro he
    exact hl (he ▸ ht)
  obtain ⟨hnq, hnr⟩ := not_or.mp (mt List.mem_append.mpr hsub)
  have hw' : s'.waiters = q.filter s.isHeld ++ pid :: r.filter s.isHeld := by
    rw [LoopState.waiters, hq', List.filter_append, List.filter_cons_of_pos hheld, hsame q hnq,
      hsame r hnr]
  have hnw : pid ∉ q.filter s.isHeld ++ r.filter s.isHeld := by
    intro hm
    rw [← hw] at hm
    exact hnot (mem_waiters.mp hm).2
  refine ⟨⟨⟨?_, ?_, ?_, ?_⟩, ?_⟩, ?_, ⟨[], by rw [hout, List.append_nil], rfl⟩, ?_, ?_,
    fun t ht => absurd ht List.not_mem_nil, fun he => absurd rfl he⟩
  · intro t
    rw [howner', ← howner, ← h.capturing t]
    by_cases ht : t = pid
    · subst ht
      have hc : ¬ s.Capturing t := by
        rw [h.capturing t, howner]
        exact fun he => hne (Option.some.inj he)
      refine iff_of_false ?_ hc
      intro hc'
      obtain ⟨st', hst', hc'⟩ := hc'
      obtain rfl := Option.some.inj (hself.symm.trans hst')
      rw [hcap] at hc'
      cases hc'
    · simp only [LoopState.Capturing, hother t ht]
  · intro t st' hst' hc
    by_cases ht : t = pid
    · subst ht
      obtain rfl := Option.some.inj (hself.symm.trans hst')
      rw [hcap] at hc
      cases hc
    · exact h.busy t st' (hother t ht ▸ hst') hc
  · intro t ht
    by_cases htp : t = pid
    · rw [hq', htp]
      exact List.mem_append_right _ List.mem_cons_self
    · have hm := h.queued t ((isHeld_congr (hother t htp)).symm.trans ht)
      rw [hqueue]
      split
      · exact hm
      · exact List.mem_append_left _ hm
  · rw [hqueue]
    split
    · exact h.nodup
    · rename_i hm
      exact h.nodup.append (List.nodup_singleton pid)
        (List.disjoint_singleton.mpr (by simpa using hm))
  · rw [howner']
    intro he
    cases he
  · have harb : s.arbiter = ⟨some o, q.filter s.isHeld ++ r.filter s.isHeld⟩ := by
      rw [LoopState.arbiter, howner, hw]
    have harb' : s'.arbiter = ⟨some o, q.filter s.isHeld ++ pid :: r.filter s.isHeld⟩ := by
      rw [LoopState.arbiter, howner', hw']
    rw [harb, harb']
    exact Arbiter.Step.wait pid hne hnw
  · rw [hw, hw', List.filter_append, List.filter_append, List.filter_cons_of_neg (by simp)]
    rfl
  · exact fun t ht _ => hother t ht

/-! ### Handing the capture on -/

theorem owner_eq_none {s : LoopState} : s.owner = none ↔ s.activeFgraphCapture = none :=
  Option.map_eq_none_iff

theorem resume_release (g : Globals) {pid : Pid} {s s₁ : LoopState} (h : Consistent s)
    (howner : s.owner = some pid) (hd : Dropped pid s s₁)
    (hout : ∃ o, s₁.out = s.out ++ o ∧ resumes o = []) :
    ∃ woken, Turned pid s (maybeResumeWaitingFgraphTid g s₁) woken [] ∧
      (maybeResumeWaitingFgraphTid g s₁).states pid = s₁.states pid := by
  have hfree : s₁.owner = none := by rw [hd.owner, if_pos howner]
  have hnone := owner_eq_none.mp hfree
  have hm : maybeResumeWaitingFgraphTid g s₁ = drainWaiting g s₁.waitingFgraphTids s₁ := by
    rw [maybeResumeWaitingFgraphTid, hnone]
    rfl
  obtain ⟨woken, hdrain⟩ := drainWaiting_spec g s₁.waitingFgraphTids s₁ hnone
    (hd.wellFormed h.toWellFormed).nodup
  have ht := Turned.release h howner hd hout hdrain
  rw [hm]
  exact ⟨woken, ht, hdrain.others pid fun hw => (ht.held hw).1 rfl⟩

theorem resume_leave (g : Globals) {pid : Pid} {s s₁ : LoopState} {o : List Action}
    (h : Consistent s) (hne : s.owner ≠ some pid) (hd : Dropped pid s s₁)
    (hout : s₁.out = s.out ++ o) :
    Turned pid s (maybeResumeWaitingFgraphTid g s₁) [] (resumes o) ∧
      (maybeResumeWaitingFgraphTid g s₁).states pid = s₁.states pid := by
  have howner : s₁.owner = s.owner := by rw [hd.owner, if_neg hne]
  rw [maybeResumeWaitingFgraphTid]
  split
  · exact ⟨Turned.leave h hd hne hout, rfl⟩
  · rename_i hn
    have hnone : s₁.activeFgraphCapture = none := Option.not_isSome_iff_eq_none.mp hn
    have hw : s.waiters = [] := h.idle (howner ▸ owner_eq_none.mpr hnone)
    have hw₁ : s₁.waiters = [] := by rw [hd.waiters, hw, List.filter_nil]
    rw [drainWaiting_idle g s₁.waitingFgraphTids s₁ hw₁]
    have hd' : Dropped pid s { s₁ with waitingFgraphTids := [] } :=
      ⟨hd.cleared, hd.owner, List.nil_sublist _, by rw [hw]; rfl⟩
    exact ⟨Turned.leave h hd' hne hout, rfl⟩

/-! ### The branches -/

section Branches

variable (g : Globals) (env : Env) (pid : Pid) {s : LoopState}

theorem Consistent.not_owner (h : Consistent s)
    (hidle : ∀ st, s.states pid = some st → st.active = false) : s.owner ≠ some pid := by
  intro ho
  obtain ⟨st, hst, hc⟩ := (h.capturing pid).mpr ho
  have hact := (h.busy pid st hst hc).1
  rw [hidle st hst] at hact
  cases hact

theorem onEntry_turned (regs : UserRegs) (state : SyscallState) (h : Consistent s)
    (hidle : ∀ st, s.states pid = some st → st.active = false) :
    ∃ w c, Turned pid s (onEntry g env pid regs state s) [] (if w then [] else [(pid, 0)]) ∧
      (onEntry g env pid regs state s).states pid =
        some { entryState g env pid regs state s with fgraphWaiting := w, fgraphCapturing := c } := by
  have hne := h.not_owner pid hidle
  have hnot : ¬ s.Held pid := by
    intro hh
    obtain ⟨st, hst, hact, -⟩ := hh.record
    rw [hidle st hst] at hact
    cases hact
  have hclear : ∀ st, some (entryState g env pid regs state s) = some st →
      st.fgraphCapturing = false ∧ st.isHeld = false := by
    intro st hst
    obtain rfl := Option.some.inj hst
    exact ⟨rfl, rfl⟩
  unfold onEntry
  dsimp only
  split
  · split
    · rename_i hn
      have hnone : s.activeFgraphCapture = none := Option.isNone_iff_eq_none.mp hn
      rcases begin_cases g pid (entryState g env pid regs state s) s with
        ⟨c, a, ha, hb⟩ | ⟨c, o, ho, hb⟩
      · rw [hb]
        refine ⟨false, true, ?_, Function.update_self _ _ _⟩
        refine Turned.take (o := [.beginCapture pid true, .resume pid 0]) h
          (owner_eq_none.mpr hnone) rfl rfl rfl rfl ?_ rfl ?_
        · simp [LoopState.owner, LoopState.emit, LoopState.setState, ha]
        · simp [LoopState.emit, LoopState.setState]
      · rw [hb]
        refine ⟨false, false, ?_, Function.update_self _ _ _⟩
        have hd : Dropped pid s (({ s with fgraphController := c, out := s.out ++ o }.setState pid
            { entryState g env pid regs state s with fgraphCapturing := false }).emit
              (.resume pid 0)) :=
          Dropped.of_queue ⟨_, rfl, hclear⟩ (if_neg hne).symm rfl
        have ht := Turned.leave (o := o ++ [.resume pid 0]) h hd hne
          (by simp [LoopState.emit, LoopState.setState])
        simpa [resumes_begin ho] using ht
    · rename_i hn
      obtain ⟨a, ha⟩ : ∃ a, s.activeFgraphCapture = some a := by
        cases hc : s.activeFgraphCapture with
        | none => simp [hc] at hn
        | some a => exact ⟨a, rfl⟩
      have ho : s.owner = some a.tid := by rw [LoopState.owner, ha]; rfl
      have hap : a.tid ≠ pid := fun he => hne (he ▸ ho)
      refine ⟨true, false, ?_, ?_⟩
      · refine Turned.wait { entryState g env pid regs state s with fgraphWaiting := true } h ho hap
          hnot ?_ rfl rfl rfl ?_ ?_ ?_
        all_goals split <;> simp_all [LoopState.setState, LoopState.owner]
      · split <;> exact Function.update_self _ _ _
  · refine ⟨false, false, ?_, Function.update_self _ _ _⟩
    have hd : Dropped pid s ((s.setState pid (entryState g env pid regs state s)).emit
        (.resume pid 0)) := Dropped.of_queue ⟨_, rfl, hclear⟩ (if_neg hne).symm rfl
    exact Turned.leave (o := [.resume pid 0]) h hd hne rfl

theorem resumes_exitLine (regs : UserRegs) (state : SyscallState) (s : LoopState) :
    resumes (exitLine g env pid regs state s) = [] := by
  unfold exitLine
  split <;> rfl

theorem onExit_turned (regs : UserRegs) (state : SyscallState) (h : Consistent s)
    (hst : s.states pid = some state) :
    ∃ woken, Turned pid s (onExit g env pid regs state s) woken [(pid, 0)] ∧
      (onExit g env pid regs state s).states pid = some (exitState state) := by
  have hclear : ∀ st, some (exitState state) = some st →
      st.fgraphCapturing = false ∧ st.isHeld = false := by
    intro st he
    obtain rfl := Option.some.inj he
    exact ⟨rfl, rfl⟩
  have hline := resumes_exitLine g env pid regs state s
  unfold onExit
  dsimp only
  split
  · rename_i hcap
    have howner := (h.capturing pid).mp ⟨state, hst, hcap⟩
    obtain ⟨a, ha, -⟩ := Option.map_eq_some_iff.mp howner
    obtain ⟨c, o, ho, hf⟩ := finish_cases
      { s with
        states := Function.update s.states pid (some (exitState state))
        hiddenFds := updateHiddenFds g.config state (normalizeRet regs.rax) s.hiddenFds
        fdPaths := updateFdPaths s.fdPaths state (normalizeRet regs.rax)
        out := s.out ++ exitLine g env pid regs state s } a ha
    rw [hf]
    have hd : Dropped pid s { s with
        fgraphController := c
        states := Function.update s.states pid (some (exitState state))
        activeFgraphCapture := none
        hiddenFds := updateHiddenFds g.config state (normalizeRet regs.rax) s.hiddenFds
        fdPaths := updateFdPaths s.fdPaths state (normalizeRet regs.rax)
        out := s.out ++ exitLine g env pid regs state s ++ o } :=
      Dropped.of_queue ⟨_, rfl, hclear⟩ (if_pos howner).symm rfl
    obtain ⟨woken, ht, hself⟩ := resume_release g h howner hd
      ⟨exitLine g env pid regs state s ++ o, by simp, by simp [hline, resumes_end ho]⟩
    exact ⟨woken, ht.emit (.resume pid 0), hself.trans (Function.update_self _ _ _)⟩
  · rename_i hcap
    have hne : s.owner ≠ some pid := by
      intro ho
      obtain ⟨st, hst', hc⟩ := (h.capturing pid).mpr ho
      obtain rfl := Option.some.inj (hst.symm.trans hst')
      exact hcap hc
    refine ⟨[], ?_, Function.update_self _ _ _⟩
    have hd : Dropped pid s { s with
        states := Function.update s.states pid (some (exitState state))
        hiddenFds := updateHiddenFds g.config state (normalizeRet regs.rax) s.hiddenFds
        fdPaths := updateFdPaths s.fdPaths state (normalizeRet regs.rax)
        out := s.out ++ exitLine g env pid regs state s } :=
      Dropped.of_queue ⟨_, rfl, hclear⟩ (if_neg hne).symm rfl
    have ht := Turned.leave h hd hne rfl
    rw [hline] at ht
    exact ht.emit (.resume pid 0)

theorem onGone_turned (h : Consistent s) :
    ∃ woken, Turned pid s (onGone g pid s) woken [] ∧ (onGone g pid s).states pid = none := by
  have hclear : ∀ st, (none : Option SyscallState) = some st →
      st.fgraphCapturing = false ∧ st.isHeld = false := nofun
  -- the state without the task, whether or not its capture was closed first
  have hdrop : ∀ (s₁ : LoopState), s₁.states = s.states →
      s₁.waitingFgraphTids = s.waitingFgraphTids →
      s₁.owner = (if s.owner = some pid then none else s.owner) →
      Dropped pid s ({ s₁ with
        states := Function.update s₁.states pid none
        depthByTid := Function.update s₁.depthByTid pid none
        fgraphWindowByTid := Function.update s₁.fgraphWindowByTid pid none
        waitingFgraphTids := s₁.waitingFgraphTids.filter (· ≠ pid) }.emit (.closeSink pid)) := by
    intro s₁ hs hq ho
    exact Dropped.of_filter ⟨none, by rw [← hs]; rfl, hclear⟩ ho (by rw [← hq]; rfl)
  unfold onGone
  dsimp only
  cases ha : s.activeFgraphCapture with
  | none =>
    have hne : s.owner ≠ some pid := by rw [owner_eq_none.mpr ha]; nofun
    obtain ⟨ht, hself⟩ := resume_leave (o := [.closeSink pid]) g h hne
      (hdrop s rfl rfl (if_neg hne).symm) rfl
    exact ⟨[], ht, hself.trans (Function.update_self _ _ _)⟩
  | some a =>
    have ho : s.owner = some a.tid := by rw [LoopState.owner, ha]; rfl
    by_cases hap : a.tid = pid
    · have howner : s.owner = some pid := hap ▸ ho
      obtain ⟨c, o, hoo, hf⟩ := finish_cases s a ha
      simp only [Option.any_some, hap, beq_self_eq_true, if_true, hf]
      obtain ⟨woken, ht, hself⟩ := resume_release g h howner
        (hdrop { s with fgraphController := c, activeFgraphCapture := none, out := s.out ++ o } rfl
          rfl (if_pos howner).symm)
        ⟨o ++ [.closeSink pid], by simp [LoopState.emit], by
          rw [resumes_append, resumes_end hoo]
          rfl⟩
      exact ⟨woken, ht, hself.trans (Function.update_self _ _ _)⟩
    · have hne : s.owner ≠ some pid := by
        rw [ho]
        exact fun he => hap (Option.some.inj he)
      have hbeq : (a.tid == pid) = false := beq_eq_false_iff_ne.mpr hap
      simp only [Option.any_some, hbeq]
      obtain ⟨ht, hself⟩ := resume_leave (o := [.closeSink pid]) g h hne
        (hdrop s rfl rfl (if_neg hne).symm) rfl
      exact ⟨[], ht, hself.trans (Function.update_self _ _ _)⟩

theorem onNewTask_turned (h : Consistent s) :
    ∃ own, Turned pid s (onNewTask env pid s) [] own ∧ (onNewTask env pid s).states = s.states ∧
      own = match env.geteventmsg pid with
        | none => [(pid, 0)]
        | some msg => [(msg.setWidth 32, 0), (pid, 0)] := by
  unfold onNewTask
  cases env.geteventmsg pid with
  | none => exact ⟨_, Turned.quiet (o := [.resume pid 0]) h rfl rfl rfl rfl, rfl, rfl⟩
  | some msg =>
    refine ⟨_, Turned.quiet
      (o := [.setOptions (msg.setWidth 32), .resume (msg.setWidth 32) 0, .resume pid 0]) h rfl rfl
      rfl ?_, rfl, rfl⟩
    simp [LoopState.emit]

theorem Consistent.drained (h : Consistent s) : Consistent (drained env s) :=
  ⟨⟨h.capturing, h.busy, h.queued, h.nodup⟩, h.idle⟩

/-! Each branch again, as the turn that a status word selects. -/

section Dispatch

variable {status : I32}

theorem loopIter_entry {regs : UserRegs} (h : Consistent s) (hk : waitKind status = .syscallStop)
    (hregs : env.getregs pid = some regs)
    (hidle : ∀ st, s.states pid = some st → st.active = false) :
    ∃ state w c, Turned pid (drained env s) (loopIter g env pid status s) []
        (if w then [] else [(pid, 0)]) ∧
      (loopIter g env pid status s).states pid = some
        { entryState g env pid regs state (drained env s) with
          fgraphWaiting := w, fgraphCapturing := c } := by
  have hact : ((s.states pid).getD (.default env.instantNow)).active = false := by
    cases hst : s.states pid with
    | none => rfl
    | some st => exact hidle st hst
  have hrun : loopIter g env pid status s = onEntry g env pid regs
      ((s.states pid).getD (.default env.instantNow)) (drained env s) := by
    simp only [loopIter_eq, hk, onSyscallStop, hregs]
    exact if_pos (by rw [Bool.not_eq_true']; exact hact)
  rw [hrun]
  exact ⟨_, onEntry_turned g env pid regs _ (h.drained env) hidle⟩

theorem loopIter_exit {regs : UserRegs} {state : SyscallState} (h : Consistent s)
    (hk : waitKind status = .syscallStop) (hregs : env.getregs pid = some regs)
    (hst : s.states pid = some state) (hact : state.active = true) :
    loopIter g env pid status s = onExit g env pid regs state (drained env s) ∧
    ∃ woken, Turned pid (drained env s) (loopIter g env pid status s) woken [(pid, 0)] ∧
      (loopIter g env pid status s).states pid = some (exitState state) := by
  have hrun : loopIter g env pid status s = onExit g env pid regs state (drained env s) := by
    simp only [loopIter_eq, hk, onSyscallStop, hregs]
    have hd : ((drained env s).states pid).getD (.default env.instantNow) = state := by
      rw [show (drained env s).states pid = some state from hst]
      rfl
    rw [hd, hact]
    rfl
  rw [hrun]
  exact ⟨rfl, onExit_turned g env pid regs state (h.drained env) hst⟩

theorem loopIter_unread (h : Consistent s) (hk : waitKind status = .syscallStop)
    (hregs : env.getregs pid = none) :
    Turned pid (drained env s) (loopIter g env pid status s) [] [(pid, 0)] ∧
      (loopIter g env pid status s).states = s.states := by
  have hrun : loopIter g env pid status s = (drained env s).emit (.resume pid 0) := by
    simp only [loopIter_eq, hk, onSyscallStop, hregs]
  rw [hrun]
  exact ⟨Turned.quiet (o := [.resume pid 0]) (h.drained env) rfl rfl rfl rfl, rfl⟩

theorem loopIter_gone (h : Consistent s) (hk : waitKind status = .gone) :
    ∃ woken, Turned pid (drained env s) (loopIter g env pid status s) woken [] ∧
      (loopIter g env pid status s).states pid = none := by
  have hrun : loopIter g env pid status s = onGone g pid (drained env s) := by
    rw [loopIter_eq, hk]
  rw [hrun]
  exact onGone_turned g pid (h.drained env)

theorem loopIter_newTask (h : Consistent s) (hk : waitKind status = .newTask) :
    Turned pid (drained env s) (loopIter g env pid status s) [] (match env.geteventmsg pid with
        | none => [(pid, 0)]
        | some msg => [(msg.setWidth 32, 0), (pid, 0)]) ∧
      (loopIter g env pid status s).states = s.states := by
  have hrun : loopIter g env pid status s = onNewTask env pid (drained env s) := by
    rw [loopIter_eq, hk]
  rw [hrun]
  obtain ⟨own, ht, hst, hown⟩ := onNewTask_turned env pid (h.drained env)
  exact ⟨hown ▸ ht, hst⟩

theorem loopIter_exec (h : Consistent s) (hk : waitKind status = .exec) :
    Turned pid (drained env s) (loopIter g env pid status s) [] [(pid, 0)] ∧
      (loopIter g env pid status s).states = s.states := by
  have hrun : loopIter g env pid status s = onExec env pid (drained env s) := by
    rw [loopIter_eq, hk]
  rw [hrun]
  exact ⟨Turned.quiet (o := [.resume pid 0]) (h.drained env) rfl rfl rfl rfl, rfl⟩

theorem loopIter_other {sig : I32} (h : Consistent s) (hk : waitKind status = .otherStop sig) :
    Turned pid (drained env s) (loopIter g env pid status s) [] [(pid, sig)] ∧
      (loopIter g env pid status s).states = s.states := by
  have hrun : loopIter g env pid status s = (drained env s).emit (.resume pid sig) := by
    rw [loopIter_eq, hk]
  rw [hrun]
  exact ⟨Turned.quiet (o := [.resume pid sig]) (h.drained env) rfl rfl rfl rfl, rfl⟩

end Dispatch

/-- The requests a turn makes besides those from the queue: one for the reported task,
with the signal number of its stop if the stop has no branch of its own, and one for
the new task of an event. -/
def OwnRequest (env : Env) (pid : Pid) (status : I32) (x : Pid × I32) : Prop :=
  (x.1 = pid ∧ x.2 = match waitKind status with
    | .otherStop sig => sig
    | _ => 0) ∨
  (waitKind status = .newTask ∧ x.2 = 0 ∧
    ∃ msg, env.geteventmsg pid = some msg ∧ x.1 = msg.setWidth 32)

/-- Every turn, by the branch it takes. Only a syscall stop or a death can let waiters go. -/
theorem loopIter_turned (status : I32) (h : Consistent s) :
    ∃ woken own, Turned pid (drained env s) (loopIter g env pid status s) woken own ∧
      (∀ x ∈ own, OwnRequest env pid status x) ∧
      (woken ≠ [] → waitKind status = .syscallStop ∨ waitKind status = .gone) := by
  have hpid : ∀ sig : I32, (match waitKind status with | .otherStop sig => sig | _ => 0) = sig →
      ∀ x ∈ [(pid, sig)], OwnRequest env pid status x := by
    intro sig hsig x hx
    obtain rfl := List.mem_singleton.mp hx
    exact Or.inl ⟨rfl, hsig.symm⟩
  cases hk : waitKind status with
  | gone =>
    obtain ⟨woken, ht, -⟩ := loopIter_gone g env pid h hk
    exact ⟨woken, [], ht, nofun, fun _ => Or.inr rfl⟩
  | notStopped =>
    have hrun : loopIter g env pid status s = drained env s := by rw [loopIter_eq, hk]
    rw [hrun]
    exact ⟨[], [], Turned.quiet (o := []) (h.drained env) rfl rfl rfl rfl, nofun, nofun⟩
  | syscallStop =>
    have h0 := hpid 0 (by rw [hk])
    cases hregs : env.getregs pid with
    | none => exact ⟨[], _, (loopIter_unread g env pid h hk hregs).1, h0, nofun⟩
    | some regs =>
      by_cases hidle : ∀ st, s.states pid = some st → st.active = false
      · obtain ⟨state, w, c, ht, -⟩ := loopIter_entry g env pid h hk hregs hidle
        refine ⟨[], _, ht, fun x hx => ?_, nofun⟩
        cases w with
        | true => cases hx
        | false => exact h0 x hx
      · obtain ⟨state, hst, hact⟩ : ∃ st, s.states pid = some st ∧ st.active = true := by
          simpa using hidle
        obtain ⟨-, woken, ht, -⟩ := loopIter_exit g env pid h hk hregs hst hact
        exact ⟨woken, _, ht, h0, fun _ => Or.inl rfl⟩
  | newTask =>
    have h0 := hpid 0 (by rw [hk])
    refine ⟨[], _, (loopIter_newTask g env pid h hk).1, fun x hx => ?_, nofun⟩
    cases hmsg : env.geteventmsg pid with
    | none =>
      rw [hmsg] at hx
      exact h0 x hx
    | some msg =>
      rw [hmsg] at hx
      rcases List.mem_cons.mp hx with rfl | hx
      · exact Or.inr ⟨hk, rfl, msg, hmsg, rfl⟩
      · exact h0 x hx
  | exec => exact ⟨[], _, (loopIter_exec g env pid h hk).1, hpid 0 (by rw [hk]), nofun⟩
  | otherStop sig => exact ⟨[], _, (loopIter_other g env pid h hk).1, hpid sig (by rw [hk]), nofun⟩

end Branches

/-! ### Every run of the loop -/

/-- One wait event with the answers of the kernel during its turn. -/
structure Turn where
  env : Env
  pid : Pid
  status : I32

/-- The loop under arbitrary events; the controller carries an arbitrary pattern of
tracefs failures. -/
def loopSystem (g : Globals) : System LoopState Turn where
  start s := ∃ controller fdPaths hiddenFds ranges, s = initialLoop controller fdPaths hiddenFds ranges
  step s e s' := s' = loopIter g e.env e.pid e.status s

theorem initialLoop_consistent (controller : Option TraceFsController) (fdPaths : FdPaths)
    (hiddenFds : HiddenFds) (ranges : List (U64 × U64)) :
    Consistent (initialLoop controller fdPaths hiddenFds ranges) := by
  refine ⟨⟨fun t => iff_of_false ?_ nofun, nofun, fun t ht => ?_, List.nodup_nil⟩, fun _ => rfl⟩
  · exact fun ⟨st, hst, _⟩ => by cases hst
  · cases ht

theorem consistent_of_reachable {g : Globals} {s : LoopState} (h : (loopSystem g).Reachable s) :
    Consistent s := by
  refine h.invariant (fun s hs => ?_) (fun s e s' hinv _ hstep => ?_)
  · obtain ⟨controller, fdPaths, hiddenFds, ranges, rfl⟩ := hs
    exact initialLoop_consistent controller fdPaths hiddenFds ranges
  · obtain ⟨woken, own, ht, -, -⟩ := loopIter_turned g e.env e.pid e.status hinv
    exact hstep ▸ ht.consistent

/-- What a turn from `s` to `s'` does with the held tasks: it resumes `woken` from the
queue, oldest first, and whenever the capture ends they reach up to the next owner. -/
structure HandsOn (e : Turn) (s s' : LoopState) (woken : List Pid) : Prop where
  resumed : ∃ own, resumes s'.out = (woken.map fun t => (t, 0)) ++ own ∧
    ∀ x ∈ own, OwnRequest e.env e.pid e.status x
  held : ∀ t ∈ woken, t ≠ e.pid ∧ s.Held t
  order : s.waiters.filter (· ≠ e.pid) = woken ++ s'.waiters.filter (· ≠ e.pid)
  ends : ∀ o, s.owner = some o → (s'.owner = some o ∧ woken = []) ∨
    (s'.owner = none ∧ woken = s.waiters) ∨ (∃ t, s'.owner = some t ∧ woken.getLast? = some t)

theorem loopIter_handsOn {g : Globals} {s : LoopState} (h : Consistent s) (e : Turn) :
    ∃ woken, HandsOn e s (loopIter g e.env e.pid e.status s) woken := by
  obtain ⟨woken, own, ht, hown, -⟩ := loopIter_turned g e.env e.pid e.status h
  obtain ⟨o, hout, hres⟩ := ht.resumed
  have hout' : (loopIter g e.env e.pid e.status s).out = o := hout
  refine ⟨woken, ⟨own, by rw [hout', hres], hown⟩, fun t hm => ht.held hm, ht.order, ?_⟩
  intro p hp
  have hstep : Arbiter.Step ⟨s.owner, s.waiters⟩ woken
      ⟨(loopIter g e.env e.pid e.status s).owner, (loopIter g e.env e.pid e.status s).waiters⟩ :=
    ht.step
  rw [hp] at hstep
  generalize s.waiters = w at hstep ⊢
  generalize (loopIter g e.env e.pid e.status s).owner = p' at hstep ⊢
  generalize (loopIter g e.env e.pid e.status s).waiters = w' at hstep ⊢
  cases hstep with
  | skip => exact Or.inl ⟨rfl, rfl⟩
  | wait => exact Or.inl ⟨rfl, rfl⟩
  | leave => exact Or.inl ⟨rfl, rfl⟩
  | close => exact Or.inr (Or.inl ⟨rfl, rfl⟩)
  | @pass _ init t => exact Or.inr (Or.inr ⟨t, rfl, List.getLast?_concat⟩)

/-- The arbitration at a loop boundary and over the next turn. -/
structure Arbitrated (g : Globals) (s : LoopState) : Prop where
  exclusive : ∀ t, s.Capturing t ↔ ∃ c, s.activeFgraphCapture = some c ∧ c.tid = t
  active : ∀ c, s.activeFgraphCapture = some c →
    ∃ st, s.states c.tid = some st ∧ st.fgraphCapturing = true ∧ st.active = true
  queuedOnce : ∀ t, s.Held t → s.waitingFgraphTids.count t = 1
  fromQueue : ∀ r : LoopState, ∀ x ∈ resumes (maybeResumeWaitingFgraphTid g r).out,
    x ∈ resumes r.out ∨ (r.Held x.1 ∧ x.2 = 0)
  idle : s.activeFgraphCapture = none → ∀ t ∈ s.waitingFgraphTids, ¬ s.Held t
  handsOn : ∀ e : Turn, ∃ woken, HandsOn e s (loopIter g e.env e.pid e.status s) woken

theorem capture_arbitration (g : Globals) (s : LoopState) (h : (loopSystem g).Reachable s) :
    Arbitrated g s := by
  have hc := consistent_of_reachable h
  refine ⟨fun t => ?_, fun c ha => ?_, fun t ht => ?_, fun r x hx => ?_, fun hn t hm ht => ?_,
    loopIter_handsOn hc⟩
  · rw [hc.capturing t]
    exact Option.map_eq_some_iff
  · have ho : s.owner = some c.tid := by rw [LoopState.owner, ha]; rfl
    obtain ⟨st, hst, hcap⟩ := (hc.capturing c.tid).mpr ho
    exact ⟨st, hst, hcap, (hc.busy c.tid st hst hcap).1⟩
  · exact List.count_eq_one_of_mem hc.nodup (hc.queued t ht)
  · unfold maybeResumeWaitingFgraphTid at hx
    split at hx
    · exact Or.inl hx
    · exact drainWaiting_resumes g r.waitingFgraphTids r x hx
  · have hw := hc.idle (owner_eq_none.mpr hn)
    have hmem : t ∈ s.waiters := mem_waiters.mpr ⟨hm, ht⟩
    rw [hw] at hmem
    cases hmem

/-! A run in which task 7 is captured in a `write` and task 9 is held at one. -/

def openWindow (tid : Pid) : FgraphWindowUpdate :=
  { tid := tid, depth := 1, seq := 1, event := fgraphWindowEventEnter, func := setFunc "cuInit" }

def writeEntry (tid : Pid) : Turn where
  env := { Env.silent with
    getregs := fun _ => some (.entering sysWrite)
    windowRecords := [openWindow tid] }
  pid := tid
  status := stopStatus 0x85#8 0

def plainGlobals : Globals where
  config := ⟨.file, "./cudatrace.output", .all, .full, 256, .us, .off, ["cuInit"], 16384⟩
  syscallNames := fun nr => if nr = sysWrite then some "write" else none

def Turn.run (e : Turn) (s : LoopState) : LoopState := loopIter plainGlobals e.env e.pid e.status s

def idleLoop : LoopState := initialLoop (some .flawless) (fun _ => none) (fun _ => false) []

def capturedAndHeld : LoopState := (writeEntry 9).run ((writeEntry 7).run idleLoop)

theorem capture_arbitration_two_tasks :
    Arbitrated plainGlobals capturedAndHeld ∧ capturedAndHeld.owner = some 7 ∧
      capturedAndHeld.Held 9 := by
  have h0 : (loopSystem plainGlobals).Reachable idleLoop := .start ⟨_, _, _, _, rfl⟩
  have h1 : (loopSystem plainGlobals).Reachable ((writeEntry 7).run idleLoop) :=
    .step (l := writeEntry 7) h0 trivial rfl
  have h2 : (loopSystem plainGlobals).Reachable capturedAndHeld :=
    .step (l := writeEntry 9) h1 trivial rfl
  refine ⟨capture_arbitration plainGlobals capturedAndHeld h2, ?_, ?_⟩
  · decide
  · show capturedAndHeld.isHeld 9 = true
    decide

end CudaTrace.Ptrace
