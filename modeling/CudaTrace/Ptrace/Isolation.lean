import CudaTrace.Ptrace.ExitOrder
import CudaTrace.Ptrace.StalePath

/-!
# Two processes under one tracer

The tables of the loop are shared by every task it traces. Two runs in which the tasks of one
process do the same are compared: what the other process does can show in their lines only
through the entries of the descriptor maps they use and through the address ranges.
-/

namespace CudaTrace.Ptrace
open CudaTrace.Base CudaTrace.Fgraph

/-! ### What a line is made of -/

/-- What `format_syscall_line` gets for a call, with the path on record for its descriptor. -/
structure LineFacts where
  tid : Pid
  nr : I64
  args : Vector U64 6
  pathHint : Option String
  startedTs : ℕ
  retRaw : I64
  elapsed : ℕ
  depth : ℕ
  path : Option String

/-- The descriptor whose path the line of a call looks up is the one that can hide it. -/
def SyscallState.fdArg (state : SyscallState) : Option I32 :=
  FdCall.hiddenArg ⟨state.nr, state.args, state.pathHint⟩

def lineFacts (fdPaths : FdPaths) (l : SyscallLine) : LineFacts where
  tid := l.tid
  nr := l.state.nr
  args := l.state.args
  pathHint := l.state.pathHint
  startedTs := l.state.startedTs
  retRaw := l.retRaw
  elapsed := l.elapsed
  depth := l.depth
  path := l.state.fdArg.bind fdPaths

/-- The text of a line: a function of the facts, of the memory of the task and of the links of
its descriptors. -/
abbrev LineText := LineFacts → (U64 → ℕ → Option (List UInt8)) → (I32 → Option String) → String

/-- The lines of a turn. -/
def printed (g : Globals) (text : LineText) (e : Turn) (s : LoopState) : List String :=
  (writtenLines (loopIter g e.env e.pid e.status s).out).map fun l =>
    text (lineFacts s.fdPaths l) (e.env.processVmReadv l.tid) (e.env.readLink l.tid)

/-! ### The part of the state that belongs to a process -/

/-- A record without the marks of the capture. -/
def SyscallState.uncaptured (state : SyscallState) : SyscallState :=
  { state with fgraphWaiting := false, fgraphCapturing := false }

def LoopState.record (s : LoopState) (t : Pid) : Option SyscallState :=
  (s.states t).map SyscallState.uncaptured

/-- The two states show the tasks of `p` the same, and the maps agree on the descriptors of `d`. -/
structure SameView (p : Pid → Prop) (d : I32 → Prop) (s s' : LoopState) : Prop where
  records : ∀ t, p t → s'.record t = s.record t
  paths : ∀ fd, d fd → s'.fdPaths fd = s.fdPaths fd
  hidden : ∀ fd, d fd → s'.hiddenFds fd = s.hiddenFds fd
  ranges : s'.cudatraceRanges = s.cudatraceRanges

namespace SameView

variable {p : Pid → Prop} {d : I32 → Prop} {s s₁ s₂ : LoopState}

theorem refl (s : LoopState) : SameView p d s s := ⟨fun _ _ => rfl, fun _ _ => rfl, fun _ _ => rfl, rfl⟩

theorem symm (h : SameView p d s s₁) : SameView p d s₁ s :=
  ⟨fun t ht => (h.records t ht).symm, fun fd hfd => (h.paths fd hfd).symm,
    fun fd hfd => (h.hidden fd hfd).symm, h.ranges.symm⟩

theorem trans (h : SameView p d s s₁) (h' : SameView p d s₁ s₂) : SameView p d s s₂ :=
  ⟨fun t ht => (h'.records t ht).trans (h.records t ht),
    fun fd hfd => (h'.paths fd hfd).trans (h.paths fd hfd),
    fun fd hfd => (h'.hidden fd hfd).trans (h.hidden fd hfd), h'.ranges.trans h.ranges⟩

end SameView

/-! ### The record of a task over a turn -/

section Records

variable (g : Globals) (env : Env) (pid : Pid) {status : I32} {s : LoopState}

theorem record_other (h : Consistent s) {t : Pid} (ht : t ≠ pid) :
    (loopIter g env pid status s).record t = s.record t := by
  obtain ⟨woken, own, hturned, -, -⟩ := loopIter_turned g env pid status h
  unfold LoopState.record
  by_cases hw : t ∈ woken
  · obtain ⟨st, hst, hst'⟩ := hturned.woke t hw
    rw [hst', show s.states t = some st from hst]
    rfl
  · rw [hturned.others t ht hw]
    rfl

theorem record_entry (h : Consistent s) (hk : waitKind status = .syscallStop) {regs : UserRegs}
    (hregs : env.getregs pid = some regs) (hidle : ∀ st, s.states pid = some st → st.active = false) :
    (loopIter g env pid status s).record pid =
      some (entryState g env pid regs (.default env.instantNow) s) := by
  obtain ⟨state, w, c, -, hst⟩ := loopIter_entry g env pid h hk hregs hidle
  unfold LoopState.record
  rw [hst]
  rfl

theorem record_exit (h : Consistent s) (hk : waitKind status = .syscallStop) {regs : UserRegs}
    (hregs : env.getregs pid = some regs) {st : SyscallState} (hst : s.states pid = some st)
    (hact : st.active = true) :
    (loopIter g env pid status s).record pid = some (exitState st.uncaptured) := by
  obtain ⟨-, woken, -, hst'⟩ := loopIter_exit g env pid h hk hregs hst hact
  unfold LoopState.record
  rw [hst']
  rfl

theorem record_unread (h : Consistent s) (hk : waitKind status = .syscallStop)
    (hregs : env.getregs pid = none) : (loopIter g env pid status s).record pid = s.record pid := by
  obtain ⟨-, hst⟩ := loopIter_unread g env pid h hk hregs
  rw [LoopState.record, hst, LoopState.record]

theorem record_gone (h : Consistent s) (hk : waitKind status = .gone) :
    (loopIter g env pid status s).record pid = none := by
  obtain ⟨woken, -, hst⟩ := loopIter_gone g env pid h hk
  rw [LoopState.record, hst]
  rfl

end Records

/-! ### The lines of a turn -/

/-- The facts of the line that the exit of a call writes. -/
def exitFacts (env : Env) (t : Pid) (regs : UserRegs) (st : SyscallState) (s : LoopState) : LineFacts where
  tid := t
  nr := st.nr
  args := st.args
  pathHint := st.pathHint
  startedTs := st.startedTs
  retRaw := regs.rax
  elapsed := env.instantNow - st.startedAt
  depth := (drainDepthUpdates env.depthRecords s.depthByTid t).getD 0
  path := st.fdArg.bind s.fdPaths

theorem exitLine_texts (g : Globals) (text : LineText) (env : Env) (t : Pid) (regs : UserRegs)
    (st : SyscallState) (s : LoopState) :
    (writtenLines (exitLine g env t regs st (drained env s))).map (fun l =>
        text (lineFacts s.fdPaths l) (env.processVmReadv l.tid) (env.readLink l.tid)) =
      if st.uncaptured.internal || suppressed g.config st.uncaptured regs.rax s.hiddenFds then []
      else [text (exitFacts env t regs st.uncaptured s) (env.processVmReadv t) (env.readLink t)] := by
  unfold exitLine
  by_cases hno : (st.internal || suppressed g.config st regs.rax (drained env s).hiddenFds) = true
  · rw [if_pos hno]
    exact (if_pos hno).symm
  · rw [if_neg hno]
    exact (if_neg hno).symm

theorem suppressed_fdArg (cfg : Config) (st : SyscallState) (ret : I64) (hidden : HiddenFds) :
    suppressed cfg st ret hidden = (st.fdArg.any hidden ||
      ((st.nr == sysOpen || st.nr == sysOpenat) && 0 ≤ (normalizeRet ret).toInt &&
        isCudatraceOutputOpen cfg st)) := by
  have harg := @isHiddenFdSyscall_eq st ⟨st.nr, st.args, st.pathHint⟩ rfl rfl hidden
  rw [suppressed, harg, SyscallState.fdArg]

section Lines

variable (g : Globals) (env : Env) (pid : Pid) {status : I32} {s : LoopState}

theorem lines_exit (h : Consistent s) (hk : waitKind status = .syscallStop) {regs : UserRegs}
    (hregs : env.getregs pid = some regs) {st : SyscallState} (hst : s.states pid = some st)
    (hact : st.active = true) :
    writtenLines (loopIter g env pid status s).out =
      writtenLines (exitLine g env pid regs st (drained env s)) := by
  obtain ⟨hrun, -⟩ := loopIter_exit g env pid h hk hregs hst hact
  rw [hrun, onExit_lines]
  rfl

theorem lines_nil (hno : ∀ regs st, waitKind status = .syscallStop → env.getregs pid = some regs →
    s.states pid = some st → st.active = false) :
    writtenLines (loopIter g env pid status s).out = [] := by
  rw [List.eq_nil_iff_forall_not_mem]
  intro l hl
  obtain ⟨hk, regs, st, hregs, hst, hact, -⟩ := loopIter_line hl
  rw [hno regs st hk hregs hst] at hact
  cases hact

end Lines

/-! ### What the updates read and write -/

section Updates

variable {cfg : Config} {state : SyscallState} {d : I32 → Prop} {fdPaths fdPaths' : FdPaths}
  {hidden hidden' : HiddenFds}

theorem fdArg_dup (hnr : state.nr = sysDup ∨ state.nr = sysDup2 ∨ state.nr = sysDup3) :
    state.fdArg = some ((state.args.get 0).setWidth 32) := by
  unfold SyscallState.fdArg FdCall.hiddenArg
  rw [if_pos]
  · rfl
  · rcases hnr with h | h | h
    · simp [h]
    · simp [h]
    · simp [h]

theorem update_agrees {α : Type} {m m' : I32 → α} (h : ∀ fd, d fd → m' fd = m fd) (x : I32) {v v' : α}
    (hv : v' = v) (fd : I32) (hfd : d fd) : Function.update m' x v' fd = Function.update m x v fd := by
  subst hv
  by_cases he : fd = x
  · subst he
    simp only [Function.update_self]
  · simp only [Function.update_of_ne he]
    exact h fd hfd

/-- Maps that agree on some descriptors, the one of the call among them, still do after it. -/
theorem updateFdPaths_congr (h : ∀ fd, d fd → fdPaths' fd = fdPaths fd)
    (hd : ∀ fd, state.fdArg = some fd → d fd) (ret : I64) (fd : I32) (hfd : d fd) :
    updateFdPaths fdPaths' state ret fd = updateFdPaths fdPaths state ret fd := by
  unfold updateFdPaths duplicateFd
  split_ifs with hop hret hcl hret hdup hret hdup2 hret
  · cases state.pathHint with
    | none => exact h fd hfd
    | some path => exact update_agrees h _ rfl fd hfd
  · exact h fd hfd
  · exact update_agrees h _ rfl fd hfd
  · exact h fd hfd
  · exact update_agrees h _ (h _ (hd _ (fdArg_dup (Or.inl hdup)))) fd hfd
  · exact h fd hfd
  · exact update_agrees h _ (h _ (hd _ (fdArg_dup (Or.inr hdup2)))) fd hfd
  · exact h fd hfd
  · exact h fd hfd

theorem updateHiddenFds_congr (h : ∀ fd, d fd → hidden' fd = hidden fd)
    (hd : ∀ fd, state.fdArg = some fd → d fd) (ret : I64) (fd : I32) (hfd : d fd) :
    updateHiddenFds cfg state ret hidden' fd = updateHiddenFds cfg state ret hidden fd := by
  have hsrc : state.nr = sysDup ∨ state.nr = sysDup2 ∨ state.nr = sysDup3 →
      hidden' ((state.args.get 0).setWidth 32) = hidden ((state.args.get 0).setWidth 32) :=
    fun hnr => h _ (hd _ (fdArg_dup hnr))
  unfold updateHiddenFds
  by_cases hop : state.nr = sysOpen ∨ state.nr = sysOpenat
  · rw [if_pos hop, if_pos hop]
    split_ifs
    · exact update_agrees h _ rfl fd hfd
    · exact h fd hfd
  · rw [if_neg hop, if_neg hop]
    by_cases hcl : state.nr = sysClose
    · rw [if_pos hcl, if_pos hcl]
      split_ifs
      · exact update_agrees h _ rfl fd hfd
      · exact h fd hfd
    · rw [if_neg hcl, if_neg hcl]
      by_cases hdup : state.nr = sysDup
      · rw [if_pos hdup, if_pos hdup, hsrc (Or.inl hdup)]
        split_ifs
        · exact update_agrees h _ rfl fd hfd
        · exact h fd hfd
      · rw [if_neg hdup, if_neg hdup]
        by_cases hdup2 : state.nr = sysDup2 ∨ state.nr = sysDup3
        · rw [if_pos hdup2, if_pos hdup2, hsrc (Or.inr hdup2)]
          split_ifs
          · exact update_agrees h _ rfl fd hfd
          · exact update_agrees h _ rfl fd hfd
          · exact h fd hfd
        · rw [if_neg hdup2, if_neg hdup2]
          exact h fd hfd

/-- A call changes the entries of one descriptor at most. -/
theorem updates_elsewhere (t : Pid) (ret : I64) {fd : I32}
    (hne : (Completed.mk t ⟨state.nr, state.args, state.pathHint⟩ ret).changed ≠ some fd) :
    updateFdPaths fdPaths state (normalizeRet ret) fd = fdPaths fd ∧
      updateHiddenFds cfg state (normalizeRet ret) hidden fd = hidden fd := by
  by_cases herr : isKernelError ret
  · obtain ⟨hp, hh⟩ := @updates_failed cfg fdPaths hidden state
    rw [normalizeRet_error herr, hp, hh]
    exact ⟨rfl, rfl⟩
  · have hnorm : normalizeRet ret = ret := if_neg herr
    by_cases hin : state.nr ∈ changesFds
    · rw [hnorm]
      unfold Completed.changed at hne
      rw [if_neg herr] at hne
      by_cases hcl : state.nr = sysClose
      · have hfd : fd ≠ (state.args.get 0).setWidth 32 := by
          intro he
          rw [if_pos hcl] at hne
          exact hne (congrArg some he.symm)
        have hopen : ¬ (state.nr = sysOpen ∨ state.nr = sysOpenat) := by
          rw [hcl]
          decide
        unfold updateFdPaths updateHiddenFds
        rw [if_neg hopen, if_neg hopen, if_pos hcl, if_pos hcl]
        split_ifs
        · exact ⟨Function.update_of_ne hfd _ _, Function.update_of_ne hfd _ _⟩
        · exact ⟨rfl, rfl⟩
      · have hfd : fd ≠ ret.setWidth 32 := by
          intro he
          rw [if_neg hcl, if_pos hin] at hne
          exact hne (congrArg some he.symm)
        constructor
        · unfold updateFdPaths duplicateFd
          rw [if_neg hcl]
          split_ifs
          · cases state.pathHint with
            | none => rfl
            | some path => exact Function.update_of_ne hfd _ _
          · rfl
          · exact Function.update_of_ne hfd _ _
          · rfl
          · exact Function.update_of_ne hfd _ _
          · rfl
          · rfl
        · unfold updateHiddenFds
          rw [if_neg hcl]
          split_ifs
          · exact Function.update_of_ne hfd _ _
          · rfl
          · exact Function.update_of_ne hfd _ _
          · rfl
          · exact Function.update_of_ne hfd _ _
          · exact Function.update_of_ne hfd _ _
          · rfl
          · rfl
    · obtain ⟨hp, hh⟩ := @updates_other cfg fdPaths hidden state (normalizeRet ret) hin
      rw [hp, hh]
      exact ⟨rfl, rfl⟩

end Updates

/-! ### Turns -/

/-- The descriptor whose entries the turn changes, when it is the exit of a call. -/
def Turn.changes (e : Turn) (s : LoopState) : Option I32 :=
  if waitKind e.status = .syscallStop then
    (e.env.getregs e.pid).bind fun regs => (s.states e.pid).bind fun st =>
      if st.active then (Completed.mk e.pid ⟨st.nr, st.args, st.pathHint⟩ regs.rax).changed else none
  else none

/-- The turn leaves the entries of `d` and the address ranges alone. -/
def Turn.Quiet (d : I32 → Prop) (e : Turn) (s : LoopState) : Prop :=
  (waitKind e.status = .exec → loadCudatraceRanges e.env e.pid = s.cudatraceRanges) ∧
    ∀ fd, e.changes s = some fd → ¬ d fd

/-- The kernel shows the task the same in both turns. -/
structure Env.SameFor (t : Pid) (env env' : Env) : Prop where
  getregs : env'.getregs t = env.getregs t
  geteventmsg : env'.geteventmsg t = env.geteventmsg t
  processVmReadv : env'.processVmReadv t = env.processVmReadv t
  readLink : env'.readLink t = env.readLink t
  procMaps : env'.procMaps t = env.procMaps t
  nowTimestamp : env'.nowTimestamp = env.nowTimestamp
  nowTimestampUs : env'.nowTimestampUs = env.nowTimestampUs
  instantNow : env'.instantNow = env.instantNow

/-- The calls of these tasks that are on record use descriptors of `d`. -/
def Named (p : Pid → Prop) (d : I32 → Prop) (s : LoopState) : Prop :=
  ∀ t, p t → ∀ st, s.record t = some st → st.active = true → ∀ fd, st.fdArg = some fd → d fd

/-- The turn of another process. -/
theorem SameView.frame (g : Globals) {p : Pid → Prop} {d : I32 → Prop} {e : Turn} {s : LoopState}
    (h : Consistent s) (he : ¬ p e.pid) (hq : e.Quiet d s) :
    SameView p d s (loopIter g e.env e.pid e.status s) := by
  obtain ⟨hexec, hchanges⟩ := hq
  have hmaps : ∀ fd, d fd → (loopIter g e.env e.pid e.status s).fdPaths fd = s.fdPaths fd ∧
      (loopIter g e.env e.pid e.status s).hiddenFds fd = s.hiddenFds fd := by
    intro fd hfd
    by_cases hexit : waitKind e.status = .syscallStop ∧ ∃ regs st, e.env.getregs e.pid = some regs ∧
        s.states e.pid = some st ∧ st.active = true
    · obtain ⟨hk, regs, st, hregs, hst, hact⟩ := hexit
      obtain ⟨hrun, -⟩ := loopIter_exit g e.env e.pid h hk hregs hst hact
      have htables := onExit_tables g e.env e.pid regs st (drained e.env s)
      have hne : (Completed.mk e.pid ⟨st.nr, st.args, st.pathHint⟩ regs.rax).changed ≠ some fd := by
        intro hc
        apply hchanges fd _ hfd
        rw [Turn.changes, if_pos hk, hregs, Option.bind_some, hst, Option.bind_some, if_pos hact]
        exact hc
      rw [hrun, htables.paths, htables.hidden]
      exact updates_elsewhere e.pid regs.rax hne
    · have hsame := loopIter_maps g e.env e.pid e.status s fun hk regs hregs st hst => by
        cases hact : st.active with
        | false => rfl
        | true => exact absurd ⟨hk, regs, st, hregs, hst, hact⟩ hexit
      rw [hsame.1, hsame.2]
      exact ⟨rfl, rfl⟩
  constructor
  · intro t ht
    exact record_other g e.env e.pid h fun heq => he (heq ▸ ht)
  · exact fun fd hfd => (hmaps fd hfd).1
  · exact fun fd hfd => (hmaps fd hfd).2
  · rw [loopIter_ranges]
    split
    · rename_i hk
      exact hexec hk
    · rfl

/-- A record shows whether the task is in a call. -/
theorem record_active {s : LoopState} {t : Pid} {st : SyscallState} (hst : s.states t = some st) :
    s.record t = some st.uncaptured := by
  rw [LoopState.record, hst]
  rfl

theorem idle_of_record {s s' : LoopState} {t : Pid} (h : s'.record t = s.record t)
    (hidle : ∀ st, s.states t = some st → st.active = false) :
    ∀ st, s'.states t = some st → st.active = false := by
  intro st' hst'
  rw [record_active hst'] at h
  cases hst : s.states t with
  | none =>
    rw [LoopState.record, hst] at h
    cases h
  | some st =>
    rw [record_active hst] at h
    show st'.uncaptured.active = false
    rw [Option.some.inj h]
    exact hidle st hst

theorem active_of_record {s s' : LoopState} {t : Pid} {st : SyscallState}
    (h : s'.record t = s.record t) (hst : s.states t = some st) :
    ∃ st', s'.states t = some st' ∧ st'.uncaptured = st.uncaptured := by
  rw [record_active hst] at h
  exact Option.map_eq_some_iff.mp h

section Own

variable {g : Globals} {p : Pid → Prop} {d : I32 → Prop} {s s' : LoopState} {t : Pid} {status : I32}
  {env env' : Env}

theorem Env.SameFor.readRemoteBytes (h : Env.SameFor t env env') (addr : U64) (len : ℕ) :
    readRemoteBytes env' t addr len = readRemoteBytes env t addr len := by
  simp only [Ptrace.readRemoteBytes, h.processVmReadv]

theorem Env.SameFor.readCstringLoop (h : Env.SameFor t env env') (fuel : ℕ) (cursor : U64)
    (out : List UInt8) :
    readCstringLoop env' t fuel cursor out = readCstringLoop env t fuel cursor out := by
  induction fuel generalizing cursor out with
  | zero => rfl
  | succ fuel ih => simp only [Ptrace.readCstringLoop, h.readRemoteBytes, ih]

theorem Env.SameFor.capturePathHint (h : Env.SameFor t env env') (nr : I64) (args : Vector U64 6) :
    capturePathHint env' t nr args = capturePathHint env t nr args := by
  simp only [Ptrace.capturePathHint, readRemoteCstring, readLiveFdPath, h.readCstringLoop, h.readLink]

theorem Env.SameFor.isInternalSyscall (h : Env.SameFor t env env') (regs : UserRegs)
    (ranges : List (U64 × U64)) :
    isInternalSyscall env' t regs ranges = isInternalSyscall env t regs ranges := by
  simp only [Ptrace.isInternalSyscall, h.readRemoteBytes]

theorem Env.SameFor.entryState (h : Env.SameFor t env env') (regs : UserRegs) (state : SyscallState)
    (hranges : s'.cudatraceRanges = s.cudatraceRanges) :
    entryState g env' t regs state s' = entryState g env t regs state s := by
  simp only [Ptrace.entryState, h.isInternalSyscall, hranges, h.capturePathHint, h.nowTimestamp,
    h.nowTimestampUs, h.instantNow]

/-- The same turn in both runs, for a task of `p`. -/
theorem SameView.own (hc : Consistent s) (hc' : Consistent s') (h : SameView p d s s')
    (hnamed : Named p d s) (ht : p t) (he : Env.SameFor t env env') :
    SameView p d (loopIter g env t status s) (loopIter g env' t status s') := by
  have hself := h.records t ht
  have hranges : (loopIter g env' t status s').cudatraceRanges =
      (loopIter g env t status s).cudatraceRanges := by
    rw [loopIter_ranges, loopIter_ranges, h.ranges]
    simp only [loadCudatraceRanges, he.procMaps]
  have hothers : ∀ u, u ≠ t → p u →
      (loopIter g env' t status s').record u = (loopIter g env t status s).record u := by
    intro u hu hpu
    rw [record_other g env' t hc' hu, record_other g env t hc hu]
    exact h.records u hpu
  by_cases hexit : waitKind status = .syscallStop ∧ ∃ regs st, env.getregs t = some regs ∧
      s.states t = some st ∧ st.active = true
  · obtain ⟨hk, regs, st, hregs, hst, hact⟩ := hexit
    obtain ⟨st', hst', hsame⟩ := active_of_record hself hst
    have hact' : st'.active = true := by
      show st'.uncaptured.active = true
      rw [hsame]
      exact hact
    have hregs' : env'.getregs t = some regs := he.getregs.trans hregs
    obtain ⟨hrun, -⟩ := loopIter_exit g env t hc hk hregs hst hact
    obtain ⟨hrun', -⟩ := loopIter_exit g env' t hc' hk hregs' hst' hact'
    have htables := onExit_tables g env t regs st (drained env s)
    have htables' := onExit_tables g env' t regs st' (drained env' s')
    have hfd : ∀ fd, st.uncaptured.fdArg = some fd → d fd :=
      hnamed t ht st.uncaptured (record_active hst) hact
    constructor
    · intro u hpu
      by_cases hu : u = t
      · subst hu
        rw [record_exit g env' u hc' hk hregs' hst' hact', record_exit g env u hc hk hregs hst hact, hsame]
      · exact hothers u hu hpu
    · intro fd hdfd
      rw [hrun, hrun', htables.paths, htables'.paths]
      show updateFdPaths s'.fdPaths st'.uncaptured (normalizeRet regs.rax) fd =
        updateFdPaths s.fdPaths st.uncaptured (normalizeRet regs.rax) fd
      rw [hsame]
      exact updateFdPaths_congr h.paths hfd _ fd hdfd
    · intro fd hdfd
      rw [hrun, hrun', htables.hidden, htables'.hidden]
      show updateHiddenFds g.config st'.uncaptured (normalizeRet regs.rax) s'.hiddenFds fd =
        updateHiddenFds g.config st.uncaptured (normalizeRet regs.rax) s.hiddenFds fd
      rw [hsame]
      exact updateHiddenFds_congr h.hidden hfd _ fd hdfd
    · exact hranges
  · have hno : waitKind status = .syscallStop → ∀ regs, env.getregs t = some regs →
        ∀ st, s.states t = some st → st.active = false := by
      intro hk regs hregs st hst
      cases hact : st.active with
      | false => rfl
      | true => exact absurd ⟨hk, regs, st, hregs, hst, hact⟩ hexit
    have hno' : waitKind status = .syscallStop → ∀ regs, env'.getregs t = some regs →
        ∀ st, s'.states t = some st → st.active = false := by
      intro hk regs hregs
      exact idle_of_record hself (hno hk regs (he.getregs ▸ hregs))
    obtain ⟨hp, hh⟩ := loopIter_maps g env t status s hno
    obtain ⟨hp', hh'⟩ := loopIter_maps g env' t status s' hno'
    constructor
    · intro u hpu
      by_cases hu : u = t
      · subst hu
        cases hk : waitKind status with
        | gone => rw [record_gone g env' u hc' hk, record_gone g env u hc hk]
        | syscallStop =>
          cases hregs : env.getregs u with
          | none =>
            rw [record_unread g env' u hc' hk (he.getregs.trans hregs), record_unread g env u hc hk hregs]
            exact hself
          | some regs =>
            have hregs' : env'.getregs u = some regs := he.getregs.trans hregs
            rw [record_entry g env' u hc' hk hregs' (hno' hk regs hregs'),
              record_entry g env u hc hk hregs (hno hk regs hregs), he.instantNow,
              he.entryState regs _ h.ranges]
        | notStopped =>
          simp only [loopIter, hk]
          exact hself
        | newTask =>
          obtain ⟨-, h1⟩ := loopIter_newTask g env u hc hk
          obtain ⟨-, h2⟩ := loopIter_newTask g env' u hc' hk
          simpa only [LoopState.record, h1, h2] using hself
        | exec =>
          obtain ⟨-, h1⟩ := loopIter_exec g env u hc hk
          obtain ⟨-, h2⟩ := loopIter_exec g env' u hc' hk
          simpa only [LoopState.record, h1, h2] using hself
        | otherStop sig =>
          obtain ⟨-, h1⟩ := loopIter_other g env u hc hk
          obtain ⟨-, h2⟩ := loopIter_other g env' u hc' hk
          simpa only [LoopState.record, h1, h2] using hself
      · exact hothers u hu hpu
    · rw [hp, hp']
      exact h.paths
    · rw [hh, hh']
      exact h.hidden
    · exact hranges

/-- The lines of that turn. -/
theorem SameView.printed (text : LineText) (hc : Consistent s) (hc' : Consistent s')
    (h : SameView p d s s') (hnamed : Named p d s) (ht : p t) (he : Env.SameFor t env env')
    (hdepth : drainDepthUpdates env'.depthRecords s'.depthByTid t =
      drainDepthUpdates env.depthRecords s.depthByTid t) :
    printed g text ⟨env', t, status⟩ s' = printed g text ⟨env, t, status⟩ s := by
  have hself := h.records t ht
  unfold Ptrace.printed
  dsimp only
  by_cases hexit : waitKind status = .syscallStop ∧ ∃ regs st, env.getregs t = some regs ∧
      s.states t = some st ∧ st.active = true
  · obtain ⟨hk, regs, st, hregs, hst, hact⟩ := hexit
    obtain ⟨st', hst', hsame⟩ := active_of_record hself hst
    have hact' : st'.active = true := by
      show st'.uncaptured.active = true
      rw [hsame]
      exact hact
    have hregs' : env'.getregs t = some regs := he.getregs.trans hregs
    rw [lines_exit g env t hc hk hregs hst hact, lines_exit g env' t hc' hk hregs' hst' hact']
    have hfd : ∀ fd, st.uncaptured.fdArg = some fd → d fd :=
      hnamed t ht st.uncaptured (record_active hst) hact
    have hsup : suppressed g.config st.uncaptured regs.rax s'.hiddenFds =
        suppressed g.config st.uncaptured regs.rax s.hiddenFds := by
      rw [suppressed_fdArg, suppressed_fdArg]
      cases harg : st.uncaptured.fdArg with
      | none => rfl
      | some fd => rw [Option.any_some, Option.any_some, h.hidden fd (hfd fd harg)]
    have hpath : st.uncaptured.fdArg.bind s'.fdPaths = st.uncaptured.fdArg.bind s.fdPaths := by
      cases harg : st.uncaptured.fdArg with
      | none => rfl
      | some fd => exact h.paths fd (hfd fd harg)
    rw [exitLine_texts, exitLine_texts, hsame, hsup]
    have hfacts : exitFacts env' t regs st.uncaptured s' = exitFacts env t regs st.uncaptured s := by
      simp only [exitFacts, hpath, hdepth, he.instantNow]
    rw [hfacts, he.processVmReadv, he.readLink]
  · have hno : ∀ regs st, waitKind status = .syscallStop → env.getregs t = some regs →
        s.states t = some st → st.active = false := by
      intro regs st hk hregs hst
      cases hact : st.active with
      | false => rfl
      | true => exact absurd ⟨hk, regs, st, hregs, hst, hact⟩ hexit
    have hno' : ∀ regs st, waitKind status = .syscallStop → env'.getregs t = some regs →
        s'.states t = some st → st.active = false := by
      intro regs st hk hregs hst
      exact idle_of_record hself (fun st hst => hno regs st hk (he.getregs ▸ hregs) hst) st hst
    rw [lines_nil g env t hno, lines_nil g env' t hno']
    rfl

end Own

/-! ### Two runs -/

/-- Two runs of the loop, each with the depth records it has drained since the last turn of the
process that both have in common. -/
structure TwoRuns where
  first : LoopState
  second : LoopState
  firstRecords : List DepthUpdate
  secondRecords : List DepthUpdate

inductive TwoRunsLabel where
  | first (e : Turn)
  | second (e : Turn)
  | both (t : Pid) (status : I32) (env env' : Env)

/-- The tasks of `p` have the same turns in both runs, with the same answers of the kernel; the
other tasks have turns in either run. -/
def twoRuns (g : Globals) (p : Pid → Bool) : System TwoRuns TwoRunsLabel where
  start x := ∃ controller fdPaths hiddenFds ranges,
    x = ⟨initialLoop controller fdPaths hiddenFds ranges, initialLoop controller fdPaths hiddenFds ranges,
      [], []⟩
  step x l y :=
    match l with
    | .first e => p e.pid = false ∧ y = { x with
        first := loopIter g e.env e.pid e.status x.first
        firstRecords := x.firstRecords ++ e.env.depthRecords }
    | .second e => p e.pid = false ∧ y = { x with
        second := loopIter g e.env e.pid e.status x.second
        secondRecords := x.secondRecords ++ e.env.depthRecords }
    | .both t status env env' => p t = true ∧ Env.SameFor t env env' ∧
        (x.secondRecords ++ env'.depthRecords).filter (p ·.tid) =
          (x.firstRecords ++ env.depthRecords).filter (p ·.tid) ∧
        y = ⟨loopIter g env t status x.first, loopIter g env' t status x.second, [], []⟩

/-- The lines of a common turn in the two runs. -/
def bothPrinted (g : Globals) (text : LineText) (x : TwoRuns) : TwoRunsLabel → TwoRuns →
    List (List String × List String)
  | .both t status env env', _ =>
    [(printed g text ⟨env, t, status⟩ x.first, printed g text ⟨env', t, status⟩ x.second)]
  | _, _ => []

/-- The calls of `p` use descriptors of `d` only, and the other tasks leave those and the address
ranges alone. -/
def Isolated (d : I32 → Prop) (x : TwoRuns) : TwoRunsLabel → Prop
  | .first e => e.Quiet d x.first
  | .second e => e.Quiet d x.second
  | .both t status env _ => waitKind status = .syscallStop → ∀ regs, env.getregs t = some regs →
      ∀ fd, (FdCall.at env t regs).hiddenArg = some fd → d fd

theorem hiddenArg_congr {call call' : FdCall} (hnr : call'.nr = call.nr) (hargs : call'.args = call.args) :
    call'.hiddenArg = call.hiddenArg := by
  simp only [FdCall.hiddenArg, FdCall.fd₀, hnr, hargs]

theorem Named.frame {p : Pid → Prop} {d : I32 → Prop} {s s' : LoopState}
    (h : Named p d s) (hv : SameView p d s s') : Named p d s' := by
  intro t ht st hst
  exact h t ht st ((hv.records t ht).symm.trans hst)

theorem Named.own {g : Globals} {p : Pid → Prop} {d : I32 → Prop} {s : LoopState} {t : Pid}
    {status : I32} {env : Env} (hc : Consistent s) (h : Named p d s) (ht : p t)
    (huse : waitKind status = .syscallStop → ∀ regs, env.getregs t = some regs →
      ∀ fd, (FdCall.at env t regs).hiddenArg = some fd → d fd) :
    Named p d (loopIter g env t status s) := by
  intro u hu st hst hact fd hfd
  by_cases hut : u = t
  · subst hut
    by_cases hk : waitKind status = .syscallStop
    · cases hregs : env.getregs u with
      | none =>
        rw [record_unread g env u hc hk hregs] at hst
        exact h u hu st hst hact fd hfd
      | some regs =>
        by_cases hidle : ∀ st, s.states u = some st → st.active = false
        · rw [record_entry g env u hc hk hregs hidle] at hst
          cases hst
          exact huse hk regs hregs fd (hfd ▸ hiddenArg_congr rfl rfl)
        · push Not at hidle
          obtain ⟨st₀, hst₀, hon⟩ := hidle
          rw [record_exit g env u hc hk hregs hst₀ (by simpa using hon)] at hst
          cases hst
          cases hact
    · by_cases hg : waitKind status = .gone
      · rw [record_gone g env u hc hg] at hst
        cases hst
      · obtain ⟨-, hsame⟩ := loopIter_records g env u hc hk hg
        rw [LoopState.record, hsame] at hst
        exact h u hu st hst hact fd hfd
  · rw [record_other g env t hc hut] at hst
    exact h u hu st hst hact fd hfd

structure TwoRunsInv (p : Pid → Bool) (d : I32 → Prop) (x : TwoRuns) : Prop where
  first : Consistent x.first
  second : Consistent x.second
  view : SameView (p · = true) d x.first x.second
  named : Named (p · = true) d x.first
  depths : ∃ base : DepthByTid, ∀ t, p t = true →
    x.first.depthByTid t = drainDepthUpdates x.firstRecords base t ∧
      x.second.depthByTid t = drainDepthUpdates x.secondRecords base t

/-- A turn of another task drains records and leaves the entries of `p` otherwise alone. -/
theorem depths_other {g : Globals} {p : Pid → Bool} {e : Turn} {s : LoopState} {records : List DepthUpdate}
    {base : DepthByTid} (he : p e.pid = false) {t : Pid} (ht : p t = true)
    (h : s.depthByTid t = drainDepthUpdates records base t) :
    (loopIter g e.env e.pid e.status s).depthByTid t =
      drainDepthUpdates (records ++ e.env.depthRecords) base t := by
  have hne : t ≠ e.pid := by
    intro heq
    rw [heq, he] at ht
    cases ht
  have hdrain : drainDepthUpdates e.env.depthRecords s.depthByTid t =
      drainDepthUpdates (records ++ e.env.depthRecords) base t := by
    rw [drainDepthUpdates_eq (records ++ e.env.depthRecords), applyAll_append]
    exact drainDepthUpdates_congr ht h rfl
  rw [loopIter_depths]
  split
  · rw [Function.update_of_ne hne, hdrain]
  · exact hdrain

theorem TwoRunsInv.start {g : Globals} {p : Pid → Bool} {d : I32 → Prop} {x : TwoRuns}
    (h : (twoRuns g p).start x) : TwoRunsInv p d x := by
  obtain ⟨controller, fdPaths, hiddenFds, ranges, rfl⟩ := h
  constructor
  · exact initialLoop_consistent _ _ _ _
  · exact initialLoop_consistent _ _ _ _
  · exact SameView.refl _
  · intro t _ st hst
    cases hst
  · exact ⟨fun _ => none, fun t _ => ⟨rfl, rfl⟩⟩

theorem TwoRunsInv.step {g : Globals} {p : Pid → Bool} {d : I32 → Prop} {x y : TwoRuns} {l : TwoRunsLabel}
    (text : LineText) (h : TwoRunsInv p d x) (hok : Isolated d x l) (hs : (twoRuns g p).step x l y) :
    TwoRunsInv p d y ∧ ∀ o ∈ bothPrinted g text x l y, o.2 = o.1 := by
  obtain ⟨base, hbase⟩ := h.depths
  cases l with
  | first e =>
    obtain ⟨he, rfl⟩ := hs
    have hne : ¬ p e.pid = true := by simp [he]
    obtain ⟨woken, own, ht, -, -⟩ := loopIter_turned g e.env e.pid e.status h.first
    have hframe := @SameView.frame g (p · = true) d e x.first h.first hne hok
    constructor
    · constructor
      · exact ht.consistent
      · exact h.second
      · exact hframe.symm.trans h.view
      · exact h.named.frame hframe
      · refine ⟨base, fun t hpt => ⟨?_, (hbase t hpt).2⟩⟩
        exact depths_other he hpt (hbase t hpt).1
    · nofun
  | second e =>
    obtain ⟨he, rfl⟩ := hs
    have hne : ¬ p e.pid = true := by simp [he]
    obtain ⟨woken, own, ht, -, -⟩ := loopIter_turned g e.env e.pid e.status h.second
    have hframe := @SameView.frame g (p · = true) d e x.second h.second hne hok
    constructor
    · constructor
      · exact h.first
      · exact ht.consistent
      · exact h.view.trans hframe
      · exact h.named
      · refine ⟨base, fun t hpt => ⟨(hbase t hpt).1, ?_⟩⟩
        exact depths_other he hpt (hbase t hpt).2
    · nofun
  | both t status env env' =>
    obtain ⟨hpt, hsame, hrecords, rfl⟩ := hs
    obtain ⟨woken, own, ht, -, -⟩ := loopIter_turned g env t status h.first
    obtain ⟨woken', own', ht', -, -⟩ := loopIter_turned g env' t status h.second
    have hdrain : ∀ u, p u = true → drainDepthUpdates env'.depthRecords x.second.depthByTid u =
        drainDepthUpdates env.depthRecords x.first.depthByTid u := by
      intro u hu
      have hall := drainDepthUpdates_congr hu (Eq.refl (base u)) hrecords
      rw [drainDepthUpdates_eq, drainDepthUpdates_eq, applyAll_append, applyAll_append] at hall
      have hfirst := drainDepthUpdates_congr hu (hbase u hu).1 (Eq.refl (env.depthRecords.filter (p ·.tid)))
      have hsecond := drainDepthUpdates_congr hu (hbase u hu).2 (Eq.refl (env'.depthRecords.filter (p ·.tid)))
      exact hsecond.trans (hall.trans hfirst.symm)
    constructor
    · constructor
      · exact ht.consistent
      · exact ht'.consistent
      · exact h.view.own h.first h.second h.named hpt hsame
      · exact h.named.own h.first hpt hok
      · refine ⟨(loopIter g env t status x.first).depthByTid, fun u hu => ⟨rfl, ?_⟩⟩
        show (loopIter g env' t status x.second).depthByTid u = (loopIter g env t status x.first).depthByTid u
        rw [loopIter_depths, loopIter_depths]
        split
        · by_cases hut : u = t
          · rw [hut, Function.update_self, Function.update_self]
          · rw [Function.update_of_ne hut, Function.update_of_ne hut, hdrain u hu]
        · exact hdrain u hu
    · intro o ho
      obtain rfl := List.mem_singleton.mp ho
      exact h.view.printed text h.first h.second h.named hpt hsame (hdrain t hpt)

/-! Task 200 of another process opens a file of cudatrace's in the first run; task 100 reads from
its own descriptor 4 in both. -/

def readRegs : UserRegs := { UserRegs.entering sysRead with rdi := 4 }

def openEntry : Turn := ⟨pathEnv openatRegs, 200, stopStatus 0x85 0⟩
def openExit (fd : I32) : Turn := ⟨pathEnv (openExitRegs fd), 200, stopStatus 0x85 0⟩

/-- Either stop of the read. -/
def readStop : Turn := ⟨pathEnv readRegs, 100, stopStatus 0x85 0⟩

def takeTurn (s : LoopState) (e : Turn) : LoopState := loopIter plainGlobals e.env e.pid e.status s

def onlyTask (t : Pid) : Bool := t == 100

theorem Env.SameFor.refl (t : Pid) (env : Env) : Env.SameFor t env env :=
  ⟨rfl, rfl, rfl, rfl, rfl, rfl, rfl, rfl⟩

theorem read_trace (ok : TwoRuns → TwoRunsLabel → Prop) (text : LineText) (fd : I32)
    (hentry : ok ⟨idleLoop, idleLoop, [], []⟩ (.first openEntry))
    (hexit : ok ⟨takeTurn idleLoop openEntry, idleLoop, [], []⟩ (.first (openExit fd)))
    (hread : ∀ x, ok x (.both 100 (stopStatus 0x85 0) (pathEnv readRegs) (pathEnv readRegs))) :
    ∃ x, (twoRuns plainGlobals onlyTask).Trace ok (bothPrinted plainGlobals text) x
      [(printed plainGlobals text readStop (takeTurn (takeTurn idleLoop openEntry) (openExit fd)),
        printed plainGlobals text readStop idleLoop),
       (printed plainGlobals text readStop
          (takeTurn (takeTurn (takeTurn idleLoop openEntry) (openExit fd)) readStop),
        printed plainGlobals text readStop (takeTurn idleLoop readStop))] := by
  have h0 : (twoRuns plainGlobals onlyTask).Trace ok (bothPrinted plainGlobals text)
      ⟨idleLoop, idleLoop, [], []⟩ [] := .start ⟨_, _, _, _, rfl⟩
  have h1 := h0.step (l := TwoRunsLabel.first openEntry) hentry ⟨rfl, rfl⟩
  have h2 := h1.step (l := TwoRunsLabel.first (openExit fd)) hexit ⟨rfl, rfl⟩
  have h3 := h2.step
    (l := TwoRunsLabel.both 100 (stopStatus 0x85 0) (pathEnv readRegs) (pathEnv readRegs))
    (hread _) ⟨rfl, .refl _ _, rfl, rfl⟩
  have h4 := h3.step
    (l := TwoRunsLabel.both 100 (stopStatus 0x85 0) (pathEnv readRegs) (pathEnv readRegs))
    (hread _) ⟨rfl, .refl _ _, rfl, rfl⟩
  exact ⟨_, h4⟩

def pathText : LineText := fun facts _ _ => "read" ++ facts.path.getD ""

/-- While the other tasks leave the descriptors that the calls of `p` use and the address ranges
alone, the lines of `p` are the same in both runs. -/
theorem process_isolation (g : Globals) (text : LineText) (p : Pid → Bool) (d : I32 → Prop)
    (x : TwoRuns) (w : List (List String × List String))
    (h : (twoRuns g p).Trace (Isolated d) (bothPrinted g text) x w) : ∀ o ∈ w, o.2 = o.1 := by
  have h0 : ∀ y, (twoRuns g p).start y → TwoRunsInv p d y := fun y hy => TwoRunsInv.start hy
  have hstep : ∀ y l z, TwoRunsInv p d y → Isolated d y l → (twoRuns g p).step y l z →
      TwoRunsInv p d z ∧ ∀ o ∈ bothPrinted g text y l z, o.2 = o.1 :=
    fun y l z hinv hok hs => hinv.step text hok hs
  exact h.observed h0 hstep

theorem process_isolation_read : ∃ x w, (twoRuns plainGlobals onlyTask).Trace (Isolated (· = 4))
    (bothPrinted plainGlobals pathText) x w ∧ w = [([], []), (["read"], ["read"])] ∧
    ∀ o ∈ w, o.2 = o.1 := by
  obtain ⟨x, hx⟩ := read_trace (Isolated (· = 4)) pathText 9
    ⟨nofun, nofun⟩ ⟨nofun, fun fd hfd => by cases hfd; decide⟩ fun x _ regs hregs fd hfd => by
      cases hregs
      cases hfd
      rfl
  exact ⟨x, _, hx, by decide, process_isolation plainGlobals pathText onlyTask (· = 4) x _ hx⟩

/-- The descriptor that the other process opened has the number the read uses. -/
theorem shared_tables_leak : ∃ x w, (twoRuns plainGlobals onlyTask).Trace (fun _ _ => True)
    (bothPrinted plainGlobals pathText) x w ∧ ([], ["read"]) ∈ w := by
  obtain ⟨x, hx⟩ := read_trace (fun _ _ => True) pathText 4 trivial trivial fun _ => trivial
  exact ⟨x, _, hx, by decide⟩

end CudaTrace.Ptrace
