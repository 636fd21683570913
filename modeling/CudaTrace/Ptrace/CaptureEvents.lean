import CudaTrace.Ptrace.Turn
import CudaTrace.Ptrace.Kernel

/-!
# Captures in a run

Which captures a run begins and finishes, and an automaton that accepts the run when
every wanted call is captured once, captures do not overlap, and none outlives its task.
-/

namespace CudaTrace.Ptrace
open CudaTrace.Base CudaTrace.Fgraph

/-! ### What happens to captures in a run -/

/-- `entered` carries whether the call is to be captured; `ran` is the moment the kernel
goes on with a call after its entry stop. -/
inductive CaptureEvent where
  | entered (t : Pid) (wanted : Bool)
  | began (t : Pid)
  | ran (t : Pid)
  | finished (t : Pid)
  | left (t : Pid)
  | gone (t : Pid)
  deriving DecidableEq

def Release.ran (x : Release) : List CaptureEvent :=
  match x.stop with
  | .syscallEntry _ => [.ran x.task]
  | _ => []

def Tasks.captureEvents : Tasks → List Action → List CaptureEvent
  | _, [] => []
  | k, .beginCapture t true :: rest => .began t :: captureEvents k rest
  | k, .endCapture c _ :: rest => .finished c.tid :: captureEvents k rest
  | k, .resume t sig :: rest =>
    (k.resume t sig).2.flatMap Release.ran ++ captureEvents (k.resume t sig).1 rest
  | k, _ :: rest => captureEvents k rest

/-- The call at the entry stop of `t` is not internal and lies in an applied window. -/
def Sys.wants (s : Sys) (t : Pid) (env : Env) : Bool :=
  (env.getregs t).any fun regs =>
    !isInternalSyscall env t regs s.loop.cudatraceRanges &&
      decide (0 < windowDepth (drained env s.loop).fgraphWindowByTid t)

/-- A task stops existing when its death is reported; a thread that executes while it is
not the leader takes the place of the leader, and its own id is gone. -/
def captureEvents (g : Globals) (s : Sys) (l : Label) (s' : Sys) : List CaptureEvent :=
  match l with
  | .move (.exec t) =>
    match s.tasks t with
    | some task => if task.tgid = t then [] else [.gone task.tgid, .gone t]
    | none => []
  | .move _ => []
  | .attached =>
    match s.stepObs g .attached with
    | some (_, released) => released.flatMap Release.ran
    | none => []
  | .turn t env =>
    match s.tasks t with
    | none => []
    | some task =>
      match task.run with
      | .stopped stop _ =>
        let done := (s.tasks.report t task stop).captureEvents s'.loop.out
        match stop with
        | .syscallEntry _ => .entered t (s.wants t env) :: done
        | .syscallExit _ _ => done ++ [.left t]
        | _ => done
      | .zombie _ => Tasks.captureEvents (Function.update s.tasks t none) s'.loop.out ++ [.gone t]
      | _ => []

/-- How far a task is with its call. -/
inductive CallPhase where
  | outside
  | wanted
  | unwanted
  | captured
  | running
  | finished
  deriving DecidableEq

structure CaptureMonitor where
  owner : Option Pid
  phase : Pid → CallPhase

namespace CaptureMonitor

def initial : CaptureMonitor := ⟨none, fun _ => .outside⟩

def set (m : CaptureMonitor) (t : Pid) (p : CallPhase) : CaptureMonitor :=
  { m with phase := Function.update m.phase t p }

@[simp] theorem set_owner (m : CaptureMonitor) (t : Pid) (p : CallPhase) :
    (m.set t p).owner = m.owner := rfl

@[simp] theorem set_self (m : CaptureMonitor) (t : Pid) (p : CallPhase) :
    (m.set t p).phase t = p := Function.update_self _ _ _

theorem set_of_ne (m : CaptureMonitor) {t u : Pid} (p : CallPhase) (h : u ≠ t) :
    (m.set t p).phase u = m.phase u := Function.update_of_ne h _ _

end CaptureMonitor

/-- The automaton. A wanted call runs only once its capture has begun, and it is over
only once that capture has been finished. -/
def CaptureEvent.accept (m : CaptureMonitor) : CaptureEvent → Option CaptureMonitor
  | .entered t wanted =>
    if m.phase t = .outside then some (m.set t (if wanted then .wanted else .unwanted)) else none
  | .began t =>
    if m.owner = none ∧ m.phase t = .wanted then some { m.set t .captured with owner := some t }
    else none
  | .ran t =>
    if m.phase t = .captured then some m
    else if m.phase t = .unwanted then some (m.set t .running)
    else none
  | .finished t =>
    if m.owner = some t ∧ m.phase t = .captured then some { m.set t .finished with owner := none }
    else none
  | .left t =>
    if m.phase t = .running ∨ m.phase t = .finished then some (m.set t .outside) else none
  | .gone t => if m.phase t = .captured then none else some (m.set t .outside)

theorem accept_cons {m m' : CaptureMonitor} {e : CaptureEvent} (es : List CaptureEvent)
    (h : e.accept m = some m') :
    (e :: es).foldlM CaptureEvent.accept m = es.foldlM CaptureEvent.accept m' := by
  rw [List.foldlM_cons, h]
  rfl

theorem accept_single {m : CaptureMonitor} {e : CaptureEvent} :
    [e].foldlM CaptureEvent.accept m = e.accept m := bind_pure (e.accept m)

theorem accept_append {m m' : CaptureMonitor} {a : List CaptureEvent} (b : List CaptureEvent)
    (h : a.foldlM CaptureEvent.accept m = some m') :
    (a ++ b).foldlM CaptureEvent.accept m = b.foldlM CaptureEvent.accept m' := by
  rw [List.foldlM_append, h]
  rfl

/-! ### What a list of actions is observed to do -/

section Events

variable {k : Tasks} {t : Pid} {sig : I32}

theorem ran_entry {task : Task} {c : Call} {r : Bool} (ht : k t = some task)
    (hr : task.run = .stopped (.syscallEntry c) r) :
    (k.resume t sig).2.flatMap Release.ran = [.ran t] := by
  simp [Tasks.resume, ht, hr, Release.ran]

theorem ran_other (h : ∀ task c r, k t = some task → task.run ≠ .stopped (.syscallEntry c) r) :
    (k.resume t sig).2.flatMap Release.ran = [] := by
  unfold Tasks.resume
  cases hk : k t with
  | none => rfl
  | some task =>
    cases hr : task.run with
    | stopped stop r =>
      cases stop with
      | syscallEntry c => exact absurd hr (h task c r hk)
      | _ => simp only [hr]; rfl
    | _ => simp only [hr]; rfl

theorem captureEvents_append (k : Tasks) (a b : List Action) :
    k.captureEvents (a ++ b) =
      k.captureEvents a ++ (k.resumeAll (resumes a)).1.captureEvents b := by
  induction a generalizing k with
  | nil => rfl
  | cons x a ih =>
    cases x with
    | beginCapture u ok =>
      cases ok with
      | true => exact congrArg (CaptureEvent.began u :: ·) (ih k)
      | false => exact ih k
    | endCapture c graph => exact congrArg (CaptureEvent.finished c.tid :: ·) (ih k)
    | resume u sig =>
      have hrest := ih (k.resume u sig).1
      simp only [List.cons_append, Tasks.captureEvents, hrest, List.append_assoc, resumes_resume]
      rfl
    | _ => exact ih k

/-- Whether a task would be seen to run on is up to its stop. -/
theorem captureEvents_resume (h : ∀ task c r, k t = some task → task.run ≠ .stopped (.syscallEntry c) r) :
    k.captureEvents [.resume t sig] = [] := by
  simp only [Tasks.captureEvents, ran_other h, List.append_nil]

/-- Actions that neither open nor close a capture nor resume a task. -/
def Silent (o : List Action) : Prop :=
  ∀ x ∈ o, (∃ l, x = .line l) ∨ (∃ u, x = .closeSink u) ∨ ∃ u, x = .setOptions u

theorem Silent.captureEvents {o : List Action} (h : Silent o) (k : Tasks) (rest : List Action) :
    k.captureEvents (o ++ rest) = k.captureEvents rest := by
  induction o with
  | nil => rfl
  | cons x o ih =>
    obtain ⟨hx, ho⟩ := List.forall_mem_cons.mp h
    rcases hx with ⟨l, rfl⟩ | ⟨u, rfl⟩ | ⟨u, rfl⟩
    · exact ih ho
    · exact ih ho
    · exact ih ho

theorem exitLine_silent (g : Globals) (env : Env) (pid : Pid) (regs : UserRegs)
    (state : SyscallState) (s : LoopState) : Silent (exitLine g env pid regs state s) := by
  intro x hx
  unfold exitLine at hx
  split at hx
  · cases hx
  · exact Or.inl ⟨_, List.mem_singleton.mp hx⟩

end Events

/-! ### The automaton and the records -/

/-- The phase a record stands for. -/
def SyscallState.phase (st : SyscallState) : CallPhase :=
  if !st.active then .outside
  else if st.fgraphWaiting then .wanted
  else if st.fgraphCapturing then .captured
  else .running

def phaseOf : Option SyscallState → CallPhase
  | none => .outside
  | some st => st.phase

/-- The automaton is where the loop is, but has `t` in phase `p`. -/
structure Follows (t : Pid) (p : CallPhase) (m : CaptureMonitor) (s : LoopState) : Prop where
  owner : m.owner = s.owner
  self : m.phase t = p
  others : ∀ u, u ≠ t → m.phase u = phaseOf (s.states u)

theorem Follows.set {t : Pid} {p : CallPhase} {m : CaptureMonitor} {s s' : LoopState}
    (h : Follows t p m s) (q : CallPhase) (ho : s'.owner = s.owner)
    (hst : ∀ u, u ≠ t → s'.states u = s.states u) : Follows t q (m.set t q) s' := by
  constructor
  · exact h.owner.trans ho.symm
  · exact m.set_self t q
  · intro u hu
    rw [m.set_of_ne q hu, hst u hu]
    exact h.others u hu

theorem Follows.congr {t : Pid} {p : CallPhase} {m : CaptureMonitor} {s s' : LoopState}
    (h : Follows t p m s) (ho : s'.owner = s.owner)
    (hst : ∀ u, u ≠ t → s'.states u = s.states u) : Follows t p m s' := by
  constructor
  · exact h.owner.trans ho.symm
  · exact h.self
  · intro u hu
    rw [hst u hu]
    exact h.others u hu

theorem phaseOf_clear {r : Option SyscallState} (h : ∀ st, r = some st → st.active = false) :
    phaseOf r = .outside := by
  cases r with
  | none => rfl
  | some st => simp only [phaseOf, SyscallState.phase, h st rfl, Bool.not_false, if_true]

theorem phaseOf_wanted {s : LoopState} {u : Pid} : phaseOf (s.states u) = .wanted ↔ s.Held u := by
  cases hst : s.states u with
  | none => simp [phaseOf, LoopState.Held, LoopState.isHeld, hst]
  | some st =>
    rw [LoopState.Held, isHeld_of_some hst, phaseOf, SyscallState.phase, SyscallState.isHeld]
    cases st.active <;> cases st.fgraphWaiting <;> cases st.fgraphCapturing <;> decide

theorem phaseOf_captured {s : LoopState} {u : Pid} (hc : Consistent s) :
    phaseOf (s.states u) = .captured ↔ s.owner = some u := by
  rw [← hc.capturing u]
  constructor
  · intro h
    cases hst : s.states u with
    | none =>
      rw [hst] at h
      cases h
    | some st =>
      rw [hst, phaseOf, SyscallState.phase] at h
      refine ⟨st, hst, ?_⟩
      cases hact : st.active <;> cases hwait : st.fgraphWaiting <;>
        cases hcap : st.fgraphCapturing <;> simp [hact, hwait, hcap] at h ⊢
  · intro h
    obtain ⟨st, hst, hcap⟩ := h
    obtain ⟨hact, hwait⟩ := hc.busy u st hst hcap
    rw [hst, phaseOf, SyscallState.phase, hact, hwait, hcap]
    rfl

end CudaTrace.Ptrace
