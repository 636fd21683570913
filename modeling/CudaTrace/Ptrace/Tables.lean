import CudaTrace.Ptrace.Phase

/-!
# The tables over a turn

The tables of the loop change at a drain, at a syscall exit, at an exec event and when a
task is gone; the capture and its queue leave them alone. The lines of a turn come from the
record of its task.
-/

namespace CudaTrace.Ptrace
open CudaTrace.Base CudaTrace.Fgraph

/-- All tables but that of the syscall states are the same. -/
structure SameTables (s s' : LoopState) : Prop where
  depths : s'.depthByTid = s.depthByTid
  windows : s'.fgraphWindowByTid = s.fgraphWindowByTid
  paths : s'.fdPaths = s.fdPaths
  hidden : s'.hiddenFds = s.hiddenFds
  ranges : s'.cudatraceRanges = s.cudatraceRanges

namespace SameTables

theorem refl (s : LoopState) : SameTables s s := ⟨rfl, rfl, rfl, rfl, rfl⟩

theorem trans {s s₁ s₂ : LoopState} (h : SameTables s s₁) (h' : SameTables s₁ s₂) :
    SameTables s s₂ :=
  ⟨h'.depths.trans h.depths, h'.windows.trans h.windows, h'.paths.trans h.paths,
    h'.hidden.trans h.hidden, h'.ranges.trans h.ranges⟩

variable (g : Globals) (env : Env) (pid : Pid)

theorem begin (state : SyscallState) (s : LoopState) :
    SameTables s (beginFgraphCaptureForState g pid state s).1 := by
  rcases begin_cases g pid state s with ⟨c, a, -, hb⟩ | ⟨c, o, -, hb⟩
  · rw [hb]
    exact ⟨rfl, rfl, rfl, rfl, rfl⟩
  · rw [hb]
    exact ⟨rfl, rfl, rfl, rfl, rfl⟩

theorem finish (s : LoopState) : SameTables s (finishActiveFgraphCapture s) := by
  cases ha : s.activeFgraphCapture with
  | none =>
    rw [finish_none s ha]
    exact refl s
  | some a =>
    obtain ⟨c, o, -, hf⟩ := finish_cases s a ha
    rw [hf]
    exact ⟨rfl, rfl, rfl, rfl, rfl⟩

theorem releaseWaiter (state : SyscallState) (s : LoopState) :
    SameTables s (releaseWaiter g pid state s) := by
  rcases releaseWaiter_cases g pid state s with ⟨c, a, -, hr⟩ | ⟨c, o, -, hr⟩
  · rw [hr]
    exact ⟨rfl, rfl, rfl, rfl, rfl⟩
  · rw [hr]
    exact ⟨rfl, rfl, rfl, rfl, rfl⟩

theorem drainWaiting (queue : List Pid) (s : LoopState) :
    SameTables s (drainWaiting g queue s) := by
  induction queue generalizing s with
  | nil => exact ⟨rfl, rfl, rfl, rfl, rfl⟩
  | cons tid rest ih =>
    by_cases hheld : s.Held tid
    · obtain ⟨st, hst, -⟩ := hheld.record
      have hrel := releaseWaiter g tid st s
      rw [drainWaiting_held g tid rest s st hst hheld]
      split
      · exact ⟨hrel.depths, hrel.windows, hrel.paths, hrel.hidden, hrel.ranges⟩
      · exact hrel.trans (ih _)
    · rw [drainWaiting_skip g tid rest s hheld]
      exact ih s

theorem maybeResume (s : LoopState) : SameTables s (maybeResumeWaitingFgraphTid g s) := by
  rw [maybeResumeWaitingFgraphTid]
  split
  · exact refl s
  · exact drainWaiting g _ s

theorem onEntry (regs : UserRegs) (state : SyscallState) (s : LoopState) :
    SameTables s (onEntry g env pid regs state s) := by
  have hbegin := begin g pid (entryState g env pid regs state s) s
  unfold Ptrace.onEntry
  dsimp only
  split
  · split
    · exact ⟨hbegin.depths, hbegin.windows, hbegin.paths, hbegin.hidden, hbegin.ranges⟩
    · split
      · exact ⟨rfl, rfl, rfl, rfl, rfl⟩
      · exact ⟨rfl, rfl, rfl, rfl, rfl⟩
  · exact ⟨rfl, rfl, rfl, rfl, rfl⟩

end SameTables

section

variable (g : Globals) (env : Env) (pid : Pid)

/-- A syscall exit updates the two descriptor maps. -/
theorem onExit_tables (regs : UserRegs) (state : SyscallState) (s : LoopState) :
    SameTables { s with
      hiddenFds := updateHiddenFds g.config state (normalizeRet regs.rax) s.hiddenFds
      fdPaths := updateFdPaths s.fdPaths state (normalizeRet regs.rax) }
      (onExit g env pid regs state s) := by
  unfold onExit
  dsimp only
  split
  · have h := (SameTables.finish { s with
        states := Function.update s.states pid (some (exitState state))
        hiddenFds := updateHiddenFds g.config state (normalizeRet regs.rax) s.hiddenFds
        fdPaths := updateFdPaths s.fdPaths state (normalizeRet regs.rax)
        out := s.out ++ exitLine g env pid regs state s }).trans (SameTables.maybeResume g _)
    exact ⟨h.depths, h.windows, h.paths, h.hidden, h.ranges⟩
  · exact ⟨rfl, rfl, rfl, rfl, rfl⟩

/-- A task that is gone leaves the depth and window tables. -/
theorem onGone_tables (s : LoopState) :
    SameTables { s with
      depthByTid := Function.update s.depthByTid pid none
      fgraphWindowByTid := Function.update s.fgraphWindowByTid pid none } (onGone g pid s) := by
  unfold onGone
  dsimp only
  have hfinish : SameTables s
      (if s.activeFgraphCapture.any (·.tid == pid) then finishActiveFgraphCapture s else s) := by
    split
    · exact SameTables.finish s
    · exact SameTables.refl s
  refine SameTables.trans ?_ (SameTables.maybeResume g _)
  exact ⟨congrArg (fun m : DepthByTid => (Function.update m pid none : DepthByTid)) hfinish.depths,
    congrArg (fun m : WindowByTid => (Function.update m pid none : WindowByTid)) hfinish.windows,
    hfinish.paths, hfinish.hidden, hfinish.ranges⟩

/-- The depth table after a turn. -/
theorem loopIter_depths (status : I32) (s : LoopState) :
    (loopIter g env pid status s).depthByTid =
      if waitKind status = .gone then
        Function.update (drainDepthUpdates env.depthRecords s.depthByTid) pid none
      else drainDepthUpdates env.depthRecords s.depthByTid := by
  unfold loopIter
  dsimp only
  cases hk : waitKind status with
  | gone => exact (onGone_tables g pid (drained env s)).depths
  | syscallStop =>
    rw [if_neg (by decide)]
    dsimp only
    unfold onSyscallStop
    split
    · rfl
    · dsimp only
      split
      · exact (SameTables.onEntry g env pid _ _ _).depths
      · exact (onExit_tables g env pid _ _ _).depths
  | newTask =>
    rw [if_neg (by decide)]
    dsimp only
    unfold onNewTask
    split <;> rfl
  | notStopped => rfl
  | exec => rfl
  | otherStop sig => rfl

/-- The window table after a turn. -/
theorem loopIter_windows (status : I32) (s : LoopState) :
    (loopIter g env pid status s).fgraphWindowByTid =
      if waitKind status = .gone then
        Function.update (drainFgraphWindowUpdates env.windowRecords s.fgraphWindowByTid) pid none
      else drainFgraphWindowUpdates env.windowRecords s.fgraphWindowByTid := by
  unfold loopIter
  dsimp only
  cases hk : waitKind status with
  | gone => exact (onGone_tables g pid (drained env s)).windows
  | syscallStop =>
    rw [if_neg (by decide)]
    dsimp only
    unfold onSyscallStop
    split
    · rfl
    · dsimp only
      split
      · exact (SameTables.onEntry g env pid _ _ _).windows
      · exact (onExit_tables g env pid _ _ _).windows
  | newTask =>
    rw [if_neg (by decide)]
    dsimp only
    unfold onNewTask
    split <;> rfl
  | notStopped => rfl
  | exec => rfl
  | otherStop sig => rfl

/-- The address ranges after a turn. -/
theorem loopIter_ranges (status : I32) (s : LoopState) :
    (loopIter g env pid status s).cudatraceRanges =
      if waitKind status = .exec then loadCudatraceRanges env pid else s.cudatraceRanges := by
  unfold loopIter
  dsimp only
  cases hk : waitKind status with
  | gone => exact (onGone_tables g pid (drained env s)).ranges
  | syscallStop =>
    rw [if_neg (by decide)]
    dsimp only
    unfold onSyscallStop
    split
    · rfl
    · dsimp only
      split
      · exact (SameTables.onEntry g env pid _ _ _).ranges
      · exact (onExit_tables g env pid _ _ _).ranges
  | newTask =>
    rw [if_neg (by decide)]
    dsimp only
    unfold onNewTask
    split <;> rfl
  | notStopped => rfl
  | exec => rfl
  | otherStop sig => rfl

/-- The two descriptor maps change at the exit of a call and at no other turn. -/
theorem loopIter_maps (status : I32) (s : LoopState)
    (hexit : waitKind status = .syscallStop → ∀ regs, env.getregs pid = some regs →
      ∀ st, s.states pid = some st → st.active = false) :
    (loopIter g env pid status s).fdPaths = s.fdPaths ∧
      (loopIter g env pid status s).hiddenFds = s.hiddenFds := by
  unfold loopIter
  dsimp only
  cases hk : waitKind status with
  | gone =>
    have h := onGone_tables g pid (drained env s)
    exact ⟨h.paths, h.hidden⟩
  | syscallStop =>
    dsimp only
    unfold onSyscallStop
    cases hregs : env.getregs pid with
    | none => exact ⟨rfl, rfl⟩
    | some regs =>
      have hact : (((drained env s).states pid).getD (.default env.instantNow)).active = false := by
        cases hst : s.states pid with
        | none => rw [show (drained env s).states pid = none from hst]; rfl
        | some st => rw [show (drained env s).states pid = some st from hst]; exact hexit hk regs hregs st hst
      dsimp only
      rw [hact]
      have h := SameTables.onEntry g env pid regs
        (((drained env s).states pid).getD (.default env.instantNow)) (drained env s)
      exact ⟨h.paths, h.hidden⟩
  | newTask =>
    dsimp only
    unfold onNewTask
    split
    · exact ⟨rfl, rfl⟩
    · exact ⟨rfl, rfl⟩
  | notStopped => exact ⟨rfl, rfl⟩
  | exec => exact ⟨rfl, rfl⟩
  | otherStop sig => exact ⟨rfl, rfl⟩

/-- Turns that are no syscall stop and no death leave every record alone. -/
theorem loopIter_records {status : I32} {s : LoopState} (h : Consistent s)
    (hcall : waitKind status ≠ .syscallStop) (hgone : waitKind status ≠ .gone) :
    Consistent (loopIter g env pid status s) ∧ (loopIter g env pid status s).states = s.states := by
  cases hk : waitKind status with
  | gone => exact absurd hk hgone
  | syscallStop => exact absurd hk hcall
  | notStopped =>
    have hrun : loopIter g env pid status s = drained env s := by simp only [loopIter, hk]
    rw [hrun]
    exact ⟨h.drained env, rfl⟩
  | newTask =>
    obtain ⟨ht, hst⟩ := loopIter_newTask g env pid h hk
    exact ⟨ht.consistent, hst⟩
  | exec =>
    obtain ⟨ht, hst⟩ := loopIter_exec g env pid h hk
    exact ⟨ht.consistent, hst⟩
  | otherStop sig =>
    obtain ⟨ht, hst⟩ := loopIter_other g env pid h hk
    exact ⟨ht.consistent, hst⟩

/-! ### Records of calls that are not cudatrace's own -/

/-- The loop has a call of the task on record, and not as an internal one. -/
def LoopState.Shown (s : LoopState) (t : Pid) : Prop :=
  ∃ st, s.states t = some st ∧ st.active = true ∧ st.internal = false

/-- A call comes on record at the syscall stop of its task, unless it is internal. -/
theorem shown_cases {status : I32} {s : LoopState} (h : Consistent s) {t : Pid}
    (ht : (loopIter g env pid status s).Shown t) :
    s.Shown t ∨ (t = pid ∧ waitKind status = .syscallStop ∧
      (∀ st, s.states pid = some st → st.active = false) ∧ ∃ regs, env.getregs pid = some regs ∧
      isInternalSyscall env pid regs s.cudatraceRanges = false) := by
  obtain ⟨st', hst', hact, hint⟩ := ht
  by_cases htp : t = pid
  · subst htp
    cases hk : waitKind status with
    | syscallStop =>
      cases hregs : env.getregs t with
      | none =>
        have hrun : (loopIter g env t status s).states t = s.states t := by
          simp only [loopIter, hk, onSyscallStop, hregs]
          rfl
        rw [hrun] at hst'
        exact Or.inl ⟨st', hst', hact, hint⟩
      | some regs =>
        by_cases hidle : ∀ st, s.states t = some st → st.active = false
        · obtain ⟨state, w, c, -, he⟩ := loopIter_entry g env t h hk hregs hidle
          rw [he] at hst'
          cases hst'
          exact Or.inr ⟨rfl, rfl, hidle, regs, rfl, hint⟩
        · push Not at hidle
          obtain ⟨st, hst, hne⟩ := hidle
          have hon : st.active = true := by simpa using hne
          obtain ⟨-, woken, -, he⟩ := loopIter_exit g env t h hk hregs hst hon
          rw [he] at hst'
          cases hst'
          cases hact
    | gone =>
      obtain ⟨woken, -, he⟩ := loopIter_gone g env t h hk
      rw [he] at hst'
      cases hst'
    | newTask =>
      obtain ⟨-, he⟩ := loopIter_newTask g env t h hk
      rw [he] at hst'
      exact Or.inl ⟨st', hst', hact, hint⟩
    | notStopped =>
      simp only [loopIter, hk] at hst'
      exact Or.inl ⟨st', hst', hact, hint⟩
    | exec =>
      simp only [loopIter, hk] at hst'
      exact Or.inl ⟨st', hst', hact, hint⟩
    | otherStop sig =>
      simp only [loopIter, hk] at hst'
      exact Or.inl ⟨st', hst', hact, hint⟩
  · obtain ⟨woken, own, hturned, -, -⟩ := loopIter_turned g env pid status h
    by_cases hw : t ∈ woken
    · obtain ⟨st, hst, he⟩ := hturned.woke t hw
      rw [he] at hst'
      cases hst'
      exact Or.inl ⟨st, hst, hact, hint⟩
    · rw [hturned.others t htp hw] at hst'
      exact Or.inl ⟨st', hst', hact, hint⟩

/-- A line is written for the reported task, at the depth its table entry has by then. -/
theorem line_cases {status : I32} {s : LoopState} (h : Consistent s) {l : SyscallLine}
    (hl : l ∈ writtenLines (loopIter g env pid status s).out) :
    waitKind status = .syscallStop ∧ s.Shown pid ∧ l.tid = pid ∧
      l.depth = (drainDepthUpdates env.depthRecords s.depthByTid pid).getD 0 := by
  obtain ⟨hk, regs, st, hregs, hst, hact, htid, -⟩ := loopIter_line hl
  obtain ⟨hrun, -⟩ := loopIter_exit g env pid h hk hregs hst hact
  rw [hrun, onExit_lines] at hl
  have hm : l ∈ writtenLines (exitLine g env pid regs st (drained env s)) := hl
  unfold exitLine at hm
  split at hm
  · cases hm
  · rename_i hshown
    obtain rfl := List.mem_singleton.mp hm
    have hint : st.internal = false := by
      cases hi : st.internal with
      | false => rfl
      | true => exact absurd (by rw [hi, Bool.true_or]) hshown
    exact ⟨hk, ⟨st, hst, hact, hint⟩, rfl, rfl⟩

end

end CudaTrace.Ptrace
