import CudaTrace.Ptrace.Capture

/-!
# The event loop (ptrace.rs, `run_ptrace_loop`)

One turn of the loop: the pipes are drained, then the reported stop or exit is
handled by the branch its status word selects.
-/

namespace CudaTrace.Ptrace
open CudaTrace.Base CudaTrace.Fgraph

/-- The branch a status word selects, in the order the loop tests for them. -/
inductive WaitKind where
  | gone
  | notStopped
  | syscallStop
  | newTask
  | exec
  | otherStop (sig : I32)
  deriving DecidableEq

def waitKind (status : I32) : WaitKind :=
  if wifexited status || wifsignaled status then .gone
  else if !wifstopped status then .notStopped
  else
    let sig := wstopsig status
    if sig = syscallStopSig then .syscallStop
    else
      let event := ptraceEvent status
      if sig = sigtrap ∧ (event = ptraceEventClone ∨ event = ptraceEventFork ∨
          event = ptraceEventVfork) then .newTask
      else if sig = sigtrap ∧ event = ptraceEventExec then .exec
      else .otherStop sig

def drained (env : Env) (s : LoopState) : LoopState :=
  { s with
    depthByTid := drainDepthUpdates env.depthRecords s.depthByTid
    fgraphWindowByTid := drainFgraphWindowUpdates env.windowRecords s.fgraphWindowByTid
    out := [] }

/-- The exit branch. -/
def onGone (g : Globals) (pid : Pid) (s : LoopState) : LoopState :=
  let s := if s.activeFgraphCapture.any (·.tid == pid) then finishActiveFgraphCapture s else s
  maybeResumeWaitingFgraphTid g
    ({ s with
        states := Function.update s.states pid none
        depthByTid := Function.update s.depthByTid pid none
        fgraphWindowByTid := Function.update s.fgraphWindowByTid pid none
        waitingFgraphTids := s.waitingFgraphTids.filter (· ≠ pid) }.emit (.closeSink pid))

/-- The record made at a syscall entry, before the capture decision. -/
def entryState (g : Globals) (env : Env) (pid : Pid) (regs : UserRegs) (state : SyscallState)
    (s : LoopState) : SyscallState :=
  let args := regs.args
  { state with
    active := true
    internal := isInternalSyscall env pid regs s.cudatraceRanges
    nr := regs.origRax
    args := args
    pathHint := capturePathHint env pid regs.origRax args
    startedTs := if g.config.leftMeta.includeTimestamp then env.nowTimestamp else 0
    startedTsUs := env.nowTimestampUs
    startedAt := env.instantNow
    fgraphWaiting := false
    fgraphCapturing := false }

/-- A syscall stop of a task whose bit is clear. -/
def onEntry (g : Globals) (env : Env) (pid : Pid) (regs : UserRegs) (state : SyscallState)
    (s : LoopState) : LoopState :=
  let state := entryState g env pid regs state s
  if shouldCaptureFgraph pid state s then
    if s.activeFgraphCapture.isNone then
      let (s, capturing) := beginFgraphCaptureForState g pid state s
      (s.setState pid { state with fgraphCapturing := capturing }).emit (.resume pid 0)
    else
      -- held: the turn ends without resuming the task
      let s := s.setState pid { state with fgraphWaiting := true }
      if s.waitingFgraphTids.contains pid then s
      else { s with waitingFgraphTids := s.waitingFgraphTids ++ [pid] }
  else (s.setState pid state).emit (.resume pid 0)

/-- The record left behind by a syscall exit. -/
def exitState (state : SyscallState) : SyscallState :=
  { state with
    active := false
    internal := false
    pathHint := none
    startedTsUs := 0
    fgraphWaiting := false
    fgraphCapturing := false }

/-- The line of a syscall exit, when one is written. -/
def exitLine (g : Globals) (env : Env) (pid : Pid) (regs : UserRegs) (state : SyscallState)
    (s : LoopState) : List Action :=
  if state.internal || suppressed g.config state regs.rax s.hiddenFds then []
  else [.line
    { tid := pid
      state := { state with fgraphCapturing := false }
      retRaw := regs.rax
      elapsed := env.instantNow - state.startedAt
      depth := (s.depthByTid pid).getD 0 }]

/-- A syscall stop of a task whose bit is set. -/
def onExit (g : Globals) (env : Env) (pid : Pid) (regs : UserRegs) (state : SyscallState)
    (s : LoopState) : LoopState :=
  let retNorm := normalizeRet regs.rax
  let s' : LoopState :=
    { s with
      states := Function.update s.states pid (some (exitState state))
      hiddenFds := updateHiddenFds g.config state retNorm s.hiddenFds
      fdPaths := updateFdPaths s.fdPaths state retNorm
      out := s.out ++ exitLine g env pid regs state s }
  let s' := if state.fgraphCapturing then
    maybeResumeWaitingFgraphTid g (finishActiveFgraphCapture s') else s'
  s'.emit (.resume pid 0)

/-- The syscall-stop branch. -/
def onSyscallStop (g : Globals) (env : Env) (pid : Pid) (s : LoopState) : LoopState :=
  match env.getregs pid with
  | none => s.emit (.resume pid 0)
  | some regs =>
    let state := (s.states pid).getD (.default env.instantNow)
    if !state.active then onEntry g env pid regs state s else onExit g env pid regs state s

/-- The branch of the clone, fork and vfork events. -/
def onNewTask (env : Env) (pid : Pid) (s : LoopState) : LoopState :=
  match env.geteventmsg pid with
  | none => s.emit (.resume pid 0)
  | some msg =>
    let newTid : Pid := msg.setWidth 32
    ((s.emit (.setOptions newTid)).emit (.resume newTid 0)).emit (.resume pid 0)

def onExec (env : Env) (pid : Pid) (s : LoopState) : LoopState :=
  { s with cudatraceRanges := loadCudatraceRanges env pid }.emit (.resume pid 0)

/-- One turn of the loop. -/
def loopIter (g : Globals) (env : Env) (pid : Pid) (status : I32) (s : LoopState) : LoopState :=
  let s := drained env s
  match waitKind status with
  | .gone => onGone g pid s
  | .notStopped => s
  | .syscallStop => onSyscallStop g env pid s
  | .newTask => onNewTask env pid s
  | .exec => onExec env pid s
  | .otherStop sig => s.emit (.resume pid sig)

theorem loopIter_eq (g : Globals) (env : Env) (pid : Pid) (status : I32) (s : LoopState) :
    loopIter g env pid status s =
      match waitKind status with
      | .gone => onGone g pid (drained env s)
      | .notStopped => drained env s
      | .syscallStop => onSyscallStop g env pid (drained env s)
      | .newTask => onNewTask env pid (drained env s)
      | .exec => onExec env pid (drained env s)
      | .otherStop sig => (drained env s).emit (.resume pid sig) :=
  rfl

/-- The state in which the loop starts, after the attach and the seeding. -/
def initialLoop (controller : Option TraceFsController) (fdPaths : FdPaths) (hiddenFds : HiddenFds)
    (ranges : List (U64 × U64)) : LoopState where
  fgraphController := controller
  states := fun _ => none
  depthByTid := fun _ => none
  fgraphWindowByTid := fun _ => none
  activeFgraphCapture := none
  waitingFgraphTids := []
  fdPaths := fdPaths
  hiddenFds := hiddenFds
  cudatraceRanges := ranges
  out := []

end CudaTrace.Ptrace
