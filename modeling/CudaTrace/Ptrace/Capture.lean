import CudaTrace.Fgraph.Controller
import CudaTrace.Ptrace.FdMaps
import CudaTrace.Ptrace.Window

/-!
# Capture arbitration (ptrace.rs)

The local variables of `run_ptrace_loop` and the functions that begin, finish
and hand on a function-graph capture. Only one capture is open at a time: a task
that enters a syscall inside a window while another one is captured is held at
its entry stop and waits in a queue.
-/

namespace CudaTrace.Ptrace
open CudaTrace.Base CudaTrace.Fgraph

/-- Read-only data of the tracer process: the configuration and the table of
syscall names. -/
structure Globals where
  config : Config
  syscallNames : I64 → Option String

/-- `ActiveFgraphCapture`; `entry` is the record its `syscall_enter` text is made from. -/
structure ActiveFgraphCapture where
  tid : Pid
  syscallName : String
  graphFunction : Option String
  entry : SyscallState
  entryTsUs : ℕ
  scopeLabel : String

/-- The arguments `format_syscall_line` gets for a line that is written. -/
structure SyscallLine where
  tid : Pid
  state : SyscallState
  retRaw : I64
  elapsed : ℕ
  depth : ℕ

/-- What the tracer does to the outside. `resume` is `PTRACE_SYSCALL` with its
signal argument; `endCapture` carries the trace text when it could be read. -/
inductive Action where
  | setOptions (tid : Pid)
  | resume (tid : Pid) (sig : I32)
  | beginCapture (tid : Pid) (ok : Bool)
  | endCapture (capture : ActiveFgraphCapture) (graph : Option String)
  | line (l : SyscallLine)
  | closeSink (tid : Pid)

/-- The local variables of `run_ptrace_loop`; `out` is what one turn has done so far. -/
structure LoopState where
  fgraphController : Option TraceFsController
  states : Pid → Option SyscallState
  depthByTid : DepthByTid
  fgraphWindowByTid : WindowByTid
  activeFgraphCapture : Option ActiveFgraphCapture
  waitingFgraphTids : List Pid
  fdPaths : FdPaths
  hiddenFds : HiddenFds
  cudatraceRanges : List (U64 × U64)
  out : List Action

def LoopState.emit (s : LoopState) (a : Action) : LoopState := { s with out := s.out ++ [a] }

def LoopState.setState (s : LoopState) (tid : Pid) (st : SyscallState) : LoopState :=
  { s with states := Function.update s.states tid (some st) }

/-- The record of a task that is parked at its syscall entry. -/
def SyscallState.isHeld (st : SyscallState) : Bool := st.active && st.fgraphWaiting

def LoopState.isHeld (s : LoopState) (tid : Pid) : Bool := (s.states tid).any SyscallState.isHeld

/-- A live task that is parked at its syscall entry. -/
def LoopState.Held (s : LoopState) (tid : Pid) : Prop := s.isHeld tid = true

def LoopState.Capturing (s : LoopState) (tid : Pid) : Prop :=
  ∃ st, s.states tid = some st ∧ st.fgraphCapturing = true

def LoopState.owner (s : LoopState) : Option Pid := s.activeFgraphCapture.map (·.tid)

/-- The held tasks in the order in which they came. -/
def LoopState.waiters (s : LoopState) : List Pid := s.waitingFgraphTids.filter s.isHeld

/-- The `PTRACE_SYSCALL` requests among some actions. -/
def resumes (actions : List Action) : List (Pid × I32) :=
  actions.filterMap fun
    | .resume tid sig => some (tid, sig)
    | _ => none

/-! ### The functions of the source -/

def syscallName (g : Globals) (nr : I64) : String :=
  (g.syscallNames nr).getD ("syscall_" ++ toString nr.toInt)

def syscallGraphFunction (g : Globals) (nr : I64) : Option String :=
  let name := syscallName g nr
  if "syscall_".toList.isPrefixOf name.toList then none else some ("__x64_sys_" ++ name)

def shouldCaptureFgraph (tid : Pid) (state : SyscallState) (s : LoopState) : Bool :=
  s.fgraphController.isSome && !state.internal && decide (0 < windowDepth s.fgraphWindowByTid tid)

/-- The record `begin_fgraph_capture_for_state` keeps of a capture it opened. -/
def captureOf (g : Globals) (tid : Pid) (state : SyscallState) (windowByTid : WindowByTid) :
    ActiveFgraphCapture where
  tid := tid
  syscallName := syscallName g state.nr
  graphFunction := syscallGraphFunction g state.nr
  entry := state
  entryTsUs := state.startedTsUs
  scopeLabel := (currentFgraphScopeLabel tid windowByTid).getD "unknown0"

def beginFgraphCaptureForState (g : Globals) (tid : Pid) (state : SyscallState) (s : LoopState) :
    LoopState × Bool :=
  match s.fgraphController with
  | none => (s, false)
  | some controller =>
    match controller.beginCapture tid (syscallGraphFunction g state.nr) with
    | (controller, .error _) =>
      ({ s with fgraphController := some controller }.emit (.beginCapture tid false), false)
    | (controller, .ok ()) =>
      ({ s with
          fgraphController := some controller
          activeFgraphCapture := some (captureOf g tid state s.fgraphWindowByTid) }.emit
        (.beginCapture tid true), true)

def finishActiveFgraphCapture (s : LoopState) : LoopState :=
  match s.activeFgraphCapture with
  | none => s
  | some capture =>
    let s := { s with activeFgraphCapture := none }
    match s.fgraphController with
    | none => s
    | some controller =>
      match controller.endCaptureAndRead with
      | (controller, .ok graph) =>
        { s with fgraphController := some controller }.emit (.endCapture capture (some graph))
      | (controller, .error _) =>
        { s with fgraphController := some controller.resetState.1 }.emit (.endCapture capture none)

/-- The body of the drain loop for a waiter that is still parked. -/
def releaseWaiter (g : Globals) (tid : Pid) (state : SyscallState) (s : LoopState) : LoopState :=
  let state := { state with fgraphWaiting := false }
  let (s, capturing) :=
    if shouldCaptureFgraph tid state s then beginFgraphCaptureForState g tid state s else (s, false)
  (s.setState tid { state with fgraphCapturing := capturing }).emit (.resume tid 0)

/-- The `while let` loop of `maybe_resume_waiting_fgraph_tid`, over the queue. -/
def drainWaiting (g : Globals) : List Pid → LoopState → LoopState
  | [], s => { s with waitingFgraphTids := [] }
  | tid :: rest, s =>
    match s.states tid with
    | none => drainWaiting g rest s
    | some state =>
      if !state.active || !state.fgraphWaiting then drainWaiting g rest s
      else
        let s := releaseWaiter g tid state s
        if s.activeFgraphCapture.isSome then { s with waitingFgraphTids := rest }
        else drainWaiting g rest s

def maybeResumeWaitingFgraphTid (g : Globals) (s : LoopState) : LoopState :=
  if s.activeFgraphCapture.isSome then s else drainWaiting g s.waitingFgraphTids s

/-! ### What each of them can do -/

/-- A begin either opens the capture of its own task or leaves none open; it
touches nothing else of the loop. -/
theorem begin_cases (g : Globals) (tid : Pid) (state : SyscallState) (s : LoopState) :
    (∃ c a, a.tid = tid ∧ beginFgraphCaptureForState g tid state s =
      ({ s with
          fgraphController := c
          activeFgraphCapture := some a
          out := s.out ++ [.beginCapture tid true] }, true)) ∨
    (∃ c o, (∀ x ∈ o, x = Action.beginCapture tid false) ∧ beginFgraphCaptureForState g tid state s =
      ({ s with fgraphController := c, out := s.out ++ o }, false)) := by
  unfold beginFgraphCaptureForState
  cases hc : s.fgraphController with
  | none => exact Or.inr ⟨none, [], by simp, by simp [← hc]⟩
  | some controller =>
    rcases hb : controller.beginCapture tid (syscallGraphFunction g state.nr) with ⟨c', err | u⟩
    · refine Or.inr ⟨some c', [.beginCapture tid false], by simp, ?_⟩
      simp only [hb, LoopState.emit]
    · refine Or.inl ⟨some c', captureOf g tid state s.fgraphWindowByTid, rfl, ?_⟩
      simp only [hb, LoopState.emit]

theorem finish_none (s : LoopState) (h : s.activeFgraphCapture = none) :
    finishActiveFgraphCapture s = s := by
  simp only [finishActiveFgraphCapture, h]

/-- A finish closes the open capture, whether or not its trace could be read. -/
theorem finish_cases (s : LoopState) (a : ActiveFgraphCapture) (h : s.activeFgraphCapture = some a) :
    ∃ c o, (∀ x ∈ o, ∃ graph, x = Action.endCapture a graph) ∧ finishActiveFgraphCapture s =
      { s with fgraphController := c, activeFgraphCapture := none, out := s.out ++ o } := by
  unfold finishActiveFgraphCapture
  simp only [h]
  cases hc : s.fgraphController with
  | none => exact ⟨none, [], by simp, by simp⟩
  | some controller =>
    rcases he : controller.endCaptureAndRead with ⟨c', err | graph⟩
    · exact ⟨some c'.resetState.1, [.endCapture a none], by simp, by simp only [he, LoopState.emit]⟩
    · exact ⟨some c', [.endCapture a (some graph)], by simp, by simp only [he, LoopState.emit]⟩

/-- Releasing a waiter resumes it once, with or without the capture. -/
theorem releaseWaiter_cases (g : Globals) (tid : Pid) (state : SyscallState) (s : LoopState) :
    (∃ c a, a.tid = tid ∧ releaseWaiter g tid state s =
      { s with
          fgraphController := c
          states := Function.update s.states tid
            (some { state with fgraphWaiting := false, fgraphCapturing := true })
          activeFgraphCapture := some a
          out := s.out ++ [.beginCapture tid true, .resume tid 0] }) ∨
    (∃ c o, (∀ x ∈ o, x = Action.beginCapture tid false) ∧ releaseWaiter g tid state s =
      { s with
          fgraphController := c
          states := Function.update s.states tid
            (some { state with fgraphWaiting := false, fgraphCapturing := false })
          out := s.out ++ (o ++ [.resume tid 0]) }) := by
  unfold releaseWaiter
  dsimp only
  split
  · rcases begin_cases g tid { state with fgraphWaiting := false } s with
      ⟨c, a, ha, hb⟩ | ⟨c, o, ho, hb⟩
    · exact Or.inl ⟨c, a, ha, by simp [hb, LoopState.setState, LoopState.emit]⟩
    · exact Or.inr ⟨c, o, ho, by simp [hb, LoopState.setState, LoopState.emit]⟩
  · exact Or.inr ⟨s.fgraphController, [], by simp, by simp [LoopState.setState, LoopState.emit]⟩

end CudaTrace.Ptrace
