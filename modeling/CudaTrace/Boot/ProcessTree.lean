import CudaTrace.Base.Transition
import CudaTrace.Boot.Bootstrap
import CudaTrace.Ptrace.Window

/-!
# Forks, execs and the bootstrap

The tree of the tasks a traced program makes, with their tracers. Every program image runs
the bootstrap of `Bootstrap` once, before anything else; a fork is followed by the tracer of
its parent, an exec keeps the tracer of its task.
-/

namespace CudaTrace.Boot
open CudaTrace.Base CudaTrace.Ptrace

/-! ### The state -/

/-- A task with the address space it runs in. Address spaces are numbered and never reused:
an exec and a fork make a new one. -/
structure TreeTask where
  space : ℕ
  tracer : Option Pid
  live : Bool
  deriving DecidableEq

/-- What an address space holds of the library: its statics once the bootstrap is done, and
the tracer at the other end of its pipes. -/
structure Program where
  leader : Pid
  statics : Option Image
  reader : Option Pid

/-- A tracer process: its two pipes and its two tables. Every record and every entry carries
the number of the address space it comes from. -/
structure Tracer where
  depthPipe : List (DepthUpdate × ℕ)
  fgraphWindowPipe : List (FgraphWindowUpdate × ℕ)
  depthByTid : Pid → Option (ℕ × ℕ)
  fgraphWindowByTid : Pid → Option (FgraphWindowState × ℕ)

def Tracer.started : Tracer := ⟨[], [], fun _ => none, fun _ => none⟩

structure Tree where
  tasks : Pid → Option TreeTask
  programs : ℕ → Option Program
  tracers : Pid → Option Tracer
  terminated : List Pid
  lost : List Pid
  next : ℕ

def Tree.initial : Tree := ⟨fun _ => none, fun _ => none, fun _ => none, [], [], 0⟩

/-! ### The tracer -/

def depthTagged (msg : DepthUpdate × ℕ) (_ : Option (ℕ × ℕ)) : Option (ℕ × ℕ) :=
  some (msg.1.depth.toNat, msg.2)

def windowTagged (msg : FgraphWindowUpdate × ℕ) (entry : Option (FgraphWindowState × ℕ)) :
    Option (FgraphWindowState × ℕ) := (msg.1.applyTo (entry.map Prod.fst)).map fun st => (st, msg.2)

/-- Both pipes are read empty. -/
def Tracer.drain (tracer : Tracer) : Tracer where
  depthPipe := []
  fgraphWindowPipe := []
  depthByTid := applyAll (fun r : DepthUpdate × ℕ => r.1.tid) depthTagged tracer.depthPipe
    tracer.depthByTid
  fgraphWindowByTid := applyAll (fun r : FgraphWindowUpdate × ℕ => r.1.tid) windowTagged
    tracer.fgraphWindowPipe tracer.fgraphWindowByTid

/-- The turn in which a task is reported gone. -/
def Tracer.forget (tracer : Tracer) (t : Pid) : Tracer :=
  { tracer.drain with
    depthByTid := Function.update tracer.drain.depthByTid t none
    fgraphWindowByTid := Function.update tracer.drain.fgraphWindowByTid t none }

/-- Without the numbers this is what the drains do. -/
theorem Tracer.drain_depths (tracer : Tracer) (t : Pid) :
    (tracer.drain.depthByTid t).map Prod.fst = drainDepthUpdates (tracer.depthPipe.map Prod.fst)
      (fun u => (tracer.depthByTid u).map Prod.fst) t := by
  rw [drainDepthUpdates_eq]
  exact @applyAll_map Pid (DepthUpdate × ℕ) (Option (ℕ × ℕ)) _ _ depthTagged DepthUpdate (Option ℕ) _
    depthEntry Prod.fst (Option.map Prod.fst) (fun _ => rfl) (fun _ _ => rfl) _ _ _

theorem Tracer.drain_windows (tracer : Tracer) (t : Pid) :
    (tracer.drain.fgraphWindowByTid t).map Prod.fst =
      drainFgraphWindowUpdates (tracer.fgraphWindowPipe.map Prod.fst)
        (fun u => (tracer.fgraphWindowByTid u).map Prod.fst) t := by
  rw [drainFgraphWindowUpdates_eq]
  refine @applyAll_map Pid (FgraphWindowUpdate × ℕ) (Option (FgraphWindowState × ℕ)) _ _ windowTagged
    FgraphWindowUpdate (Option FgraphWindowState) _ FgraphWindowUpdate.applyTo Prod.fst
    (Option.map Prod.fst) (fun _ => rfl) (fun msg entry => ?_) _ _ _
  rw [windowTagged, Option.map_map]
  exact Option.map_id'

/-! ### The steps -/

/-- What the kernel answers to the calls of a bootstrap. -/
structure BootCalls where
  handshakePipe : Option PipeEnds
  depthPipe : Option PipeEnds
  fgraphWindowPipe : Option PipeEnds
  fork : Option Pid

def BootCalls.Succeed (a : BootCalls) : Prop :=
  a.handshakePipe.isSome ∧ (∃ ends, a.depthPipe = some ends ∧ 0 ≤ ends.wr.toInt) ∧
    (∃ ends, a.fgraphWindowPipe = some ends ∧ 0 ≤ ends.wr.toInt) ∧ a.fork.isSome

/-- The attach is refused only for a task that has a tracer; tracefs works. -/
def attachOutcome (cfg : Config) (task : TreeTask) : Bool :=
  attachTarget cfg ⟨task.tracer.isNone, true, true, true, .ok ()⟩

def startAnswers (cfg : Config) (task : TreeTask) (a : BootCalls) : StartAnswers where
  preflight := .ok ()
  handshakePipe := a.handshakePipe
  depthPipe := a.depthPipe
  fgraphWindowPipe := a.fgraphWindowPipe
  fork := a.fork
  ready := signalReady (attachOutcome cfg task)

/-- The tracer that a bootstrap leaves behind. -/
def attachedTracer (cfg : Config) (task : TreeTask) (a : BootCalls) : Option Pid :=
  if cfg.trace.syscall && a.handshakePipe.isSome && a.depthPipe.isSome && a.fgraphWindowPipe.isSome &&
      attachOutcome cfg task then a.fork
  else none

/-- The bootstrap of an address space, in its first task. -/
def Tree.boot (cfg : Config) (s : Tree) (space : ℕ) (program : Program) (task : TreeTask) (a : BootCalls) :
    Tree :=
  match ensureStarted cfg (startAnswers cfg task a) none with
  | .error _ => { s with
      tasks := Function.update s.tasks program.leader (some { task with live := false })
      terminated := s.terminated ++ [program.leader] }
  | .ok image =>
    match attachedTracer cfg task a with
    | none => { s with
        programs := Function.update s.programs space (some { program with statics := some image }) }
    | some tracer => { s with
        tasks := Function.update s.tasks program.leader (some { task with tracer := some tracer })
        programs := Function.update s.programs space
          (some { program with statics := some image, reader := some tracer })
        tracers := Function.update s.tracers tracer (some .started) }

inductive TreeLabel where
  | start (t : Pid)
  | boot (space : ℕ) (a : BootCalls)
  | fork (t child : Pid)
  | clone (t child : Pid)
  | exec (t : Pid)
  | publishDepth (t : Pid) (depth : U32)
  | publishWindow (t : Pid) (msg : FgraphWindowUpdate)
  | turn (tracer : Pid)
  | exit (t : Pid)
  | gone (t : Pid)

/-- A live task whose image has been through its bootstrap. -/
def Tree.running (s : Tree) (t : Pid) : Option (TreeTask × Program × Image) :=
  (s.tasks t).bind fun task => (s.programs task.space).bind fun program =>
    if task.live then program.statics.map fun image => (task, program, image) else none

/-- A record goes into the pipe of the image, if it has one. -/
def Tree.publish (s : Tree) (t : Pid) (fd : I32) (reader : Option Pid) (post : Tracer → Tracer) : Tree :=
  if fd.toInt < 0 then { s with lost := s.lost ++ [t] }
  else match reader with
    | none => { s with lost := s.lost ++ [t] }
    | some r => { s with tracers := Function.update s.tracers r ((s.tracers r).map post) }

/-- Every other task of the address space is killed; the one that made the call takes the number
of the leader. -/
def Tree.exec (s : Tree) (t : Pid) (task : TreeTask) (leader : Pid) : Tree :=
  { s with
    tasks := fun u =>
      if u = leader then some ⟨s.next, task.tracer, true⟩
      else if u = t then none
      else (s.tasks u).map fun other =>
        if other.space = task.space then { other with live := false } else other
    programs := Function.update s.programs s.next (some ⟨leader, none, none⟩)
    next := s.next + 1 }

def Tree.step (cfg : Config) (s : Tree) : TreeLabel → Option Tree
  | .start t => match s.tasks t with
    | some _ => none
    | none => some { s with
        tasks := Function.update s.tasks t (some ⟨s.next, none, true⟩)
        programs := Function.update s.programs s.next (some ⟨t, none, none⟩)
        next := s.next + 1 }
  | .boot space a => do
    let program ← s.programs space
    let task ← s.tasks program.leader
    guard (program.statics.isNone && task.live && task.space == space &&
      a.fork.all fun tracer => (s.tracers tracer).isNone)
    some (s.boot cfg space program task a)
  | .fork t child => do
    let (task, program, _) ← s.running t
    guard (s.tasks child).isNone
    some { s with
      tasks := Function.update s.tasks child (some ⟨s.next, task.tracer, true⟩)
      programs := Function.update s.programs s.next (some { program with leader := child })
      next := s.next + 1 }
  | .clone t child => do
    let (task, _, _) ← s.running t
    guard (s.tasks child).isNone
    some { s with tasks := Function.update s.tasks child (some ⟨task.space, task.tracer, true⟩) }
  | .exec t => do
    let (task, program, _) ← s.running t
    some (s.exec t task program.leader)
  | .publishDepth t depth => do
    let (task, program, image) ← s.running t
    some (s.publish t image.depthPipeWrFd program.reader fun tracer =>
      { tracer with depthPipe := tracer.depthPipe ++ [(⟨t, depth⟩, task.space)] })
  | .publishWindow t msg => do
    let (task, program, image) ← s.running t
    some (s.publish t image.fgraphWindowPipeWrFd program.reader fun tracer =>
      { tracer with fgraphWindowPipe := tracer.fgraphWindowPipe ++ [({ msg with tid := t }, task.space)] })
  | .turn tracer => some { s with tracers := Function.update s.tracers tracer ((s.tracers tracer).map .drain) }
  | .exit t => do
    let task ← s.tasks t
    guard task.live
    some { s with tasks := Function.update s.tasks t (some { task with live := false }) }
  | .gone t => do
    let task ← s.tasks t
    guard !task.live
    let s := { s with tasks := Function.update s.tasks t none }
    match task.tracer with
    | none => some s
    | some r => some { s with tracers := Function.update s.tracers r ((s.tracers r).map (·.forget t)) }

/-- Programs started from outside, and what becomes of them. -/
def processTree (cfg : Config) : System Tree TreeLabel := .ofPartial (· = .initial) (Tree.step cfg)

/-! ### What the bootstrap promises -/

/-- The property for one state: no bootstrap has ended a program; every running task has a
tracer, which reads the pipes of the task's image; and the entries of a task that its tracer
will use come from the task's own image. -/
structure Transparent (s : Tree) : Prop where
  terminated : s.terminated = []
  delivered : s.lost = []
  traced : ∀ t task program image, s.running t = some (task, program, image) →
    ∃ r, task.tracer = some r ∧ (s.tracers r).isSome ∧ program.reader = some r
  entries : ∀ t task r tracer, s.tasks t = some task → task.live → task.tracer = some r →
    s.tracers r = some tracer →
    (∀ x, tracer.drain.depthByTid t = some x → x.2 = task.space) ∧
      ∀ x, tracer.drain.fgraphWindowByTid t = some x → x.2 = task.space

/-- The calls of a bootstrap succeed, and no task that has a tracer makes an exec. -/
def Tree.NoTracedExec (s : Tree) : TreeLabel → Prop
  | .boot _ a => a.Succeed
  | .exec t => ∀ task, s.tasks t = some task → task.tracer = none
  | _ => True

/-! ### Invariants -/

/-- The task `t` runs in the address space `n` and is traced by `r`. -/
def Owns (tasks : Pid → Option TreeTask) (r t : Pid) (n : ℕ) : Prop :=
  ∃ task, tasks t = some task ∧ task.tracer = some r ∧ task.space = n

/-- Everything a tracer holds is about its own tasks, from the address spaces they run in. -/
structure Owned (tasks : Pid → Option TreeTask) (r : Pid) (tracer : Tracer) : Prop where
  depthPipe : ∀ m ∈ tracer.depthPipe, Owns tasks r m.1.tid m.2
  windowPipe : ∀ m ∈ tracer.fgraphWindowPipe, Owns tasks r m.1.tid m.2
  depths : ∀ t x, tracer.depthByTid t = some x → Owns tasks r t x.2
  windows : ∀ t x, tracer.fgraphWindowByTid t = some x → Owns tasks r t x.2

namespace Owned

variable {tasks tasks' : Pid → Option TreeTask} {r : Pid} {tracer : Tracer}

theorem mono (h : Owned tasks r tracer) (hm : ∀ t n, Owns tasks r t n → Owns tasks' r t n) :
    Owned tasks' r tracer :=
  ⟨fun m hin => hm _ _ (h.depthPipe m hin), fun m hin => hm _ _ (h.windowPipe m hin),
    fun t x hx => hm _ _ (h.depths t x hx), fun t x hx => hm _ _ (h.windows t x hx)⟩

theorem started : Owned tasks r .started := ⟨nofun, nofun, nofun, nofun⟩

theorem drain (h : Owned tasks r tracer) : Owned tasks r tracer.drain := by
  constructor
  · nofun
  · nofun
  · intro t
    refine applyAll_induction (fun e : Option (ℕ × ℕ) => ∀ x, e = some x → Owns tasks r t x.2)
      (h.depths t)
      fun msg hmsg hkey e _ x hx => ?_
    obtain rfl := Option.some.inj hx
    exact hkey ▸ h.depthPipe msg hmsg
  · intro t
    refine applyAll_induction (fun e : Option (FgraphWindowState × ℕ) => ∀ x, e = some x →
      Owns tasks r t x.2) (h.windows t)
      fun msg hmsg hkey e _ x hx => ?_
    obtain ⟨st, -, rfl⟩ := Option.map_eq_some_iff.mp hx
    exact hkey ▸ h.windowPipe msg hmsg

/-- The tracer forgets a task that is gone. -/
theorem forget (h : Owned tasks r tracer) (t : Pid) :
    Owned (Function.update tasks t none) r (tracer.forget t) := by
  have hkeep : ∀ u n, u ≠ t → Owns tasks r u n → Owns (Function.update tasks t none) r u n := by
    rintro u n hne ⟨task, htask, hr, hn⟩
    exact ⟨task, (Function.update_of_ne hne _ _).trans htask, hr, hn⟩
  constructor
  · nofun
  · nofun
  · intro u x hx
    by_cases hu : u = t
    · simp only [hu, Tracer.forget, Function.update_self] at hx
      cases hx
    · simp only [Tracer.forget, Function.update_of_ne hu] at hx
      exact hkeep u _ hu (h.drain.depths u x hx)
  · intro u x hx
    by_cases hu : u = t
    · simp only [hu, Tracer.forget, Function.update_self] at hx
      cases hx
    · simp only [Tracer.forget, Function.update_of_ne hu] at hx
      exact hkeep u _ hu (h.drain.windows u x hx)

/-- A tracer that does not trace the task has nothing to forget. -/
theorem gone (h : Owned tasks r tracer) {t : Pid} {task : TreeTask} (ht : tasks t = some task)
    (hr : task.tracer ≠ some r) : Owned (Function.update tasks t none) r tracer := by
  apply h.mono
  rintro u n ⟨other, hother, hor, hn⟩
  have hne : u ≠ t := by
    intro he
    rw [he, ht] at hother
    cases hother
    exact hr hor
  exact ⟨other, (Function.update_of_ne hne _ _).trans hother, hor, hn⟩

/-- A task that nobody traces yet is added or changed. -/
theorem update (h : Owned tasks r tracer) {t : Pid} {new : Option TreeTask}
    (hold : ∀ n, ¬ Owns tasks r t n) : Owned (Function.update tasks t new) r tracer := by
  apply h.mono
  rintro u n howns
  have hne : u ≠ t := by
    intro he
    exact hold n (he ▸ howns)
  obtain ⟨task, htask, hr, hn⟩ := howns
  exact ⟨task, (Function.update_of_ne hne _ _).trans htask, hr, hn⟩

end Owned

structure TreeInv (s : Tree) : Prop where
  terminated : s.terminated = []
  delivered : s.lost = []
  known : ∀ t task, s.tasks t = some task → (s.programs task.space).isSome
  fresh : ∀ n, s.next ≤ n → s.programs n = none
  booting : ∀ t task program, s.tasks t = some task → s.programs task.space = some program →
    program.statics = none → t = program.leader ∧ task.tracer = none
  booted : ∀ t task program image, s.tasks t = some task → s.programs task.space = some program →
    program.statics = some image → 0 ≤ image.depthPipeWrFd.toInt ∧
      0 ≤ image.fgraphWindowPipeWrFd.toInt ∧
      ∃ r, task.tracer = some r ∧ (s.tracers r).isSome ∧ program.reader = some r
  owned : ∀ r tracer, s.tracers r = some tracer → Owned s.tasks r tracer

theorem running_iff {s : Tree} {t : Pid} {task : TreeTask} {program : Program} {image : Image} :
    s.running t = some (task, program, image) ↔ s.tasks t = some task ∧
      s.programs task.space = some program ∧ task.live = true ∧ program.statics = some image := by
  unfold Tree.running
  constructor
  · intro h
    obtain ⟨task', htask, h⟩ := Option.bind_eq_some_iff.mp h
    obtain ⟨program', hprogram, h⟩ := Option.bind_eq_some_iff.mp h
    obtain ⟨hlive, h⟩ := Option.ite_none_right_eq_some.mp h
    obtain ⟨image', himage, h⟩ := Option.map_eq_some_iff.mp h
    cases h
    exact ⟨htask, hprogram, hlive, himage⟩
  · rintro ⟨htask, hprogram, hlive, himage⟩
    rw [htask, Option.bind_some, hprogram, Option.bind_some, if_pos hlive, himage]
    rfl

/-- The invariant gives the property. -/
theorem TreeInv.transparent {s : Tree} (h : TreeInv s) : Transparent s := by
  constructor
  · exact h.terminated
  · exact h.delivered
  · intro t task program image hrun
    obtain ⟨htask, hprogram, -, himage⟩ := running_iff.mp hrun
    obtain ⟨-, -, hr⟩ := h.booted t task program image htask hprogram himage
    exact hr
  · intro t task r tracer htask _ _ htracer
    have howned := (h.owned r tracer htracer).drain
    have hspace : ∀ n, Owns s.tasks r t n → n = task.space := by
      rintro n ⟨task', htask', -, rfl⟩
      rw [htask] at htask'
      cases htask'
      rfl
    exact ⟨fun x hx => hspace _ (howned.depths t x hx), fun x hx => hspace _ (howned.windows t x hx)⟩

/-! ### The bootstrap of an untraced task -/

theorem attachOutcome_untraced {cfg : Config} {task : TreeTask} (h : task.tracer = none) :
    attachOutcome cfg task = true := by
  unfold attachOutcome attachTarget
  rw [h]
  cases cfg.fgraphEnabled with
  | true => rfl
  | false => rfl

theorem attachOutcome_traced {cfg : Config} {task : TreeTask} (h : task.tracer ≠ none) :
    attachOutcome cfg task = false := by
  obtain ⟨r, hr⟩ := Option.ne_none_iff_exists'.mp h
  unfold attachOutcome attachTarget
  rw [hr]
  rfl

/-- With its calls answered and syscalls traced, a bootstrap comes down to the handshake. -/
theorem ensureStarted_spawn {cfg : Config} (hsys : cfg.trace.syscall = true) {task : TreeTask}
    {a : BootCalls} {hand depth window : PipeEnds} {r : Pid} (hhand : a.handshakePipe = some hand)
    (hdepth : a.depthPipe = some depth) (hwindow : a.fgraphWindowPipe = some window)
    (hfork : a.fork = some r) :
    ensureStarted cfg (startAnswers cfg task a) none =
      if attachOutcome cfg task then .ok ⟨cfg, false, depth.wr, window.wr⟩
      else if cfg.fgraphEnabled then
        .error "function_graph tracing requested but ptrace tracer failed to initialize"
      else .ok (withoutPipes cfg) := by
  have hrefuse : startRefusal cfg (startAnswers cfg task a) = none := by
    unfold startRefusal startAnswers
    rw [hsys]
    cases cfg.fgraphEnabled with
    | true => rfl
    | false => rfl
  unfold ensureStarted
  dsimp only
  rw [hrefuse]
  dsimp only
  rw [hsys, spawnPtraceTracer, startAnswers]
  dsimp only
  rw [hhand, hdepth, hwindow, hfork]
  cases attachOutcome cfg task with
  | true => rfl
  | false => rfl

theorem boot_untraced {cfg : Config} (hsys : cfg.trace.syscall = true) {s : Tree} {space : ℕ}
    {program : Program} {task : TreeTask} {a : BootCalls} (hcalls : a.Succeed)
    (hnone : task.tracer = none) : ∃ r image, a.fork = some r ∧ 0 ≤ image.depthPipeWrFd.toInt ∧
      0 ≤ image.fgraphWindowPipeWrFd.toInt ∧ s.boot cfg space program task a = { s with
        tasks := Function.update s.tasks program.leader (some { task with tracer := some r })
        programs := Function.update s.programs space
          (some { program with statics := some image, reader := some r })
        tracers := Function.update s.tracers r (some .started) } := by
  obtain ⟨hhand, ⟨depth, hdepth, hd⟩, ⟨window, hwindow, hw⟩, hfork⟩ := hcalls
  obtain ⟨hand, hhand⟩ := Option.isSome_iff_exists.mp hhand
  obtain ⟨r, hfork⟩ := Option.isSome_iff_exists.mp hfork
  have hout := @attachOutcome_untraced cfg task hnone
  have hstart := @ensureStarted_spawn cfg hsys task a hand depth window r hhand hdepth hwindow hfork
  rw [hout, if_pos rfl] at hstart
  have htracer : attachedTracer cfg task a = some r := by
    simp [attachedTracer, hsys, hhand, hdepth, hwindow, hout, hfork]
  refine ⟨r, ⟨cfg, false, depth.wr, window.wr⟩, hfork, hd, hw, ?_⟩
  rw [Tree.boot, hstart]
  dsimp only
  rw [htracer]

/-- The kernel refuses the attach: with function graphs the bootstrap ends the program, without
it leaves the program without pipes. -/
theorem boot_traced {cfg : Config} (hsys : cfg.trace.syscall = true) {s : Tree} {space : ℕ}
    {program : Program} {task : TreeTask} {a : BootCalls} (hcalls : a.Succeed)
    (hsome : task.tracer ≠ none) : s.boot cfg space program task a =
      if cfg.fgraphEnabled then { s with
        tasks := Function.update s.tasks program.leader (some { task with live := false })
        terminated := s.terminated ++ [program.leader] }
      else { s with
        programs := Function.update s.programs space
          (some { program with statics := some (withoutPipes cfg) }) } := by
  obtain ⟨hhand, ⟨depth, hdepth, -⟩, ⟨window, hwindow, -⟩, hfork⟩ := hcalls
  obtain ⟨hand, hhand⟩ := Option.isSome_iff_exists.mp hhand
  obtain ⟨r, hfork⟩ := Option.isSome_iff_exists.mp hfork
  have hout := @attachOutcome_traced cfg task hsome
  have hstart := @ensureStarted_spawn cfg hsys task a hand depth window r hhand hdepth hwindow hfork
  rw [hout, if_neg Bool.false_ne_true] at hstart
  have htracer : attachedTracer cfg task a = none := by
    simp [attachedTracer, hout]
  rw [Tree.boot, hstart]
  by_cases hf : cfg.fgraphEnabled = true
  · rw [if_pos hf, if_pos hf]
  · rw [if_neg hf, if_neg hf]
    dsimp only
    rw [htracer]

/-! ### One step -/

namespace TreeInv

variable {cfg : Config} {s s' : Tree}

/-- A task without a tracer owns nothing. -/
theorem not_owns {tasks : Pid → Option TreeTask} {t : Pid} (h : ∀ task, tasks t = some task →
    task.tracer = none) (r : Pid) (n : ℕ) : ¬ Owns tasks r t n := by
  rintro ⟨task, htask, hr, -⟩
  rw [h task htask] at hr
  cases hr

/-- A new task in a new address space: the program is new, and either has to be booted or is a
copy of a booted one. -/
theorem added (h : TreeInv s) {t : Pid} (ht : s.tasks t = none) (tracer : Option Pid)
    (program : Program) (hboot : program.statics = none → t = program.leader ∧ tracer = none)
    (hcopy : ∀ image, program.statics = some image → 0 ≤ image.depthPipeWrFd.toInt ∧
      0 ≤ image.fgraphWindowPipeWrFd.toInt ∧
      ∃ r, tracer = some r ∧ (s.tracers r).isSome ∧ program.reader = some r) :
    TreeInv { s with
      tasks := Function.update s.tasks t (some ⟨s.next, tracer, true⟩)
      programs := Function.update s.programs s.next (some program)
      next := s.next + 1 } := by
  have hnew : ∀ u task, u ≠ t → s.tasks u = some task → task.space ≠ s.next := by
    intro u task _ hu he
    have hk := h.known u task hu
    rw [he, h.fresh s.next le_rfl] at hk
    cases hk
  constructor
  · exact h.terminated
  · exact h.delivered
  · intro u task hu
    by_cases hut : u = t
    · subst hut
      simp only [Function.update_self] at hu
      cases hu
      simp
    · simp only [Function.update_of_ne hut] at hu
      simp only [Function.update_of_ne (hnew u task hut hu)]
      exact h.known u task hu
  · intro n hn
    have hne : n ≠ s.next := by
      show n ≠ s.next
      have hle : s.next + 1 ≤ n := hn
      omega
    simp only [Function.update_of_ne hne]
    exact h.fresh n (by have hle : s.next + 1 ≤ n := hn; omega)
  · intro u task p hu hp hnone
    by_cases hut : u = t
    · subst hut
      simp only [Function.update_self] at hu
      cases hu
      simp only [Function.update_self] at hp
      cases hp
      exact hboot hnone
    · simp only [Function.update_of_ne hut] at hu
      simp only [Function.update_of_ne (hnew u task hut hu)] at hp
      exact h.booting u task p hu hp hnone
  · intro u task p image hu hp himage
    by_cases hut : u = t
    · subst hut
      simp only [Function.update_self] at hu
      cases hu
      simp only [Function.update_self] at hp
      cases hp
      exact hcopy image himage
    · simp only [Function.update_of_ne hut] at hu
      simp only [Function.update_of_ne (hnew u task hut hu)] at hp
      exact h.booted u task p image hu hp himage
  · intro r tracer' htracer
    apply (h.owned r tracer' htracer).update
    exact not_owns (fun task htask => by rw [ht] at htask; cases htask) r

theorem start (h : TreeInv s) {t : Pid} (hs : s.step cfg (.start t) = some s') : TreeInv s' := by
  dsimp only [Tree.step] at hs
  cases ht : s.tasks t with
  | some task =>
    rw [ht] at hs
    cases hs
  | none =>
    rw [ht] at hs
    cases hs
    exact h.added ht none ⟨t, none, none⟩ (fun _ => ⟨rfl, rfl⟩) nofun

theorem fork (h : TreeInv s) {t child : Pid} (hs : s.step cfg (.fork t child) = some s') :
    TreeInv s' := by
  obtain ⟨⟨task, program, image⟩, hrun, hs⟩ := Option.bind_eq_some_iff.mp hs
  obtain ⟨_, hguard, hs⟩ := Option.bind_eq_some_iff.mp hs
  cases hs
  obtain ⟨htask, hprogram, -, himage⟩ := running_iff.mp hrun
  have hchild : s.tasks child = none := by
    simpa using hguard
  refine h.added hchild task.tracer { program with leader := child } (fun hnone => ?_) ?_
  · rw [himage] at hnone
    cases hnone
  · intro image' himage'
    exact h.booted t task program image' htask hprogram himage'

theorem clone (h : TreeInv s) {t child : Pid} (hs : s.step cfg (.clone t child) = some s') :
    TreeInv s' := by
  obtain ⟨⟨task, program, image⟩, hrun, hs⟩ := Option.bind_eq_some_iff.mp hs
  obtain ⟨_, hguard, hs⟩ := Option.bind_eq_some_iff.mp hs
  cases hs
  obtain ⟨htask, hprogram, -, himage⟩ := running_iff.mp hrun
  have hchild : s.tasks child = none := by
    simpa using hguard
  constructor
  · exact h.terminated
  · exact h.delivered
  · intro u task' hu
    by_cases hut : u = child
    · subst hut
      simp only [Function.update_self] at hu
      cases hu
      exact h.known t task htask
    · simp only [Function.update_of_ne hut] at hu
      exact h.known u task' hu
  · exact h.fresh
  · intro u task' p hu hp hnone
    by_cases hut : u = child
    · subst hut
      simp only [Function.update_self] at hu
      cases hu
      have hp' : s.programs task.space = some p := hp
      rw [hprogram] at hp'
      cases hp'
      rw [himage] at hnone
      cases hnone
    · simp only [Function.update_of_ne hut] at hu
      exact h.booting u task' p hu hp hnone
  · intro u task' p image' hu hp himage'
    by_cases hut : u = child
    · subst hut
      simp only [Function.update_self] at hu
      cases hu
      exact h.booted t task p image' htask hp himage'
    · simp only [Function.update_of_ne hut] at hu
      exact h.booted u task' p image' hu hp himage'
  · intro r tracer htracer
    apply (h.owned r tracer htracer).update
    exact not_owns (fun task' htask' => by rw [hchild] at htask'; cases htask') r

/-- The tasks change in ways that leave tracers and address spaces alone, or die out. -/
theorem settled (h : TreeInv s) {tasks : Pid → Option TreeTask} {tracers : Pid → Option Tracer}
    (htasks : ∀ u task, tasks u = some task → ∃ old, s.tasks u = some old ∧ old.space = task.space ∧
      old.tracer = task.tracer)
    (hsome : ∀ r, (s.tracers r).isSome → (tracers r).isSome)
    (howned : ∀ r tracer, tracers r = some tracer → Owned tasks r tracer) :
    TreeInv { s with tasks := tasks, tracers := tracers } := by
  constructor
  · exact h.terminated
  · exact h.delivered
  · intro u task hu
    obtain ⟨old, hold, hspace, -⟩ := htasks u task hu
    exact hspace ▸ h.known u old hold
  · exact h.fresh
  · intro u task p hu hp hnone
    obtain ⟨old, hold, hspace, htracer⟩ := htasks u task hu
    exact htracer ▸ h.booting u old p hold (hspace ▸ hp) hnone
  · intro u task p image hu hp himage
    obtain ⟨old, hold, hspace, htracer⟩ := htasks u task hu
    obtain ⟨hd, hw, r, hr, hrs, hreader⟩ := h.booted u old p image hold (hspace ▸ hp) himage
    exact ⟨hd, hw, r, htracer ▸ hr, hsome r hrs, hreader⟩
  · exact howned

/-- One tracer handles a turn. -/
theorem tracer_update (h : TreeInv s) {tasks : Pid → Option TreeTask} {r : Pid} {f : Tracer → Tracer}
    (htasks : ∀ u task, tasks u = some task → ∃ old, s.tasks u = some old ∧ old.space = task.space ∧
      old.tracer = task.tracer)
    (hr : ∀ tracer, s.tracers r = some tracer → Owned tasks r (f tracer))
    (hother : ∀ u tracer, u ≠ r → s.tracers u = some tracer → Owned tasks u tracer) :
    TreeInv { s with
      tasks := tasks
      tracers := Function.update s.tracers r ((s.tracers r).map f) } := by
  apply h.settled htasks
  · intro u hu
    by_cases hur : u = r
    · subst hur
      rw [Function.update_self, Option.isSome_map]
      exact hu
    · rw [Function.update_of_ne hur]
      exact hu
  · intro u tracer hu
    by_cases hur : u = r
    · subst hur
      rw [Function.update_self] at hu
      obtain ⟨old, hold, rfl⟩ := Option.map_eq_some_iff.mp hu
      exact hr old hold
    · rw [Function.update_of_ne hur] at hu
      exact hother u tracer hur hu

theorem turn (h : TreeInv s) {r : Pid} (hs : s.step cfg (.turn r) = some s') : TreeInv s' := by
  cases hs
  apply h.tracer_update
  · exact fun u task hu => ⟨task, hu, rfl, rfl⟩
  · exact fun tracer htracer => (h.owned r tracer htracer).drain
  · exact fun u tracer _ hu => h.owned u tracer hu

theorem exit (h : TreeInv s) {t : Pid} (hs : s.step cfg (.exit t) = some s') : TreeInv s' := by
  obtain ⟨task, htask, hs⟩ := Option.bind_eq_some_iff.mp hs
  obtain ⟨-, -, hs⟩ := Option.bind_eq_some_iff.mp hs
  cases hs
  apply h.settled
  · intro u other hu
    by_cases hut : u = t
    · subst hut
      rw [Function.update_self] at hu
      cases hu
      exact ⟨task, htask, rfl, rfl⟩
    · rw [Function.update_of_ne hut] at hu
      exact ⟨other, hu, rfl, rfl⟩
  · exact fun r hr => hr
  · intro r tracer htracer
    apply (h.owned r tracer htracer).mono
    rintro u n ⟨other, hother, hor, hn⟩
    by_cases hut : u = t
    · subst hut
      rw [htask] at hother
      cases hother
      exact ⟨_, Function.update_self _ _ _, hor, hn⟩
    · exact ⟨other, (Function.update_of_ne hut _ _).trans hother, hor, hn⟩

theorem gone (h : TreeInv s) {t : Pid} (hs : s.step cfg (.gone t) = some s') : TreeInv s' := by
  obtain ⟨task, htask, hs⟩ := Option.bind_eq_some_iff.mp hs
  obtain ⟨-, -, hs⟩ := Option.bind_eq_some_iff.mp hs
  have hold : ∀ u other, Function.update s.tasks t none u = some other →
      ∃ old, s.tasks u = some old ∧ old.space = other.space ∧ old.tracer = other.tracer := by
    intro u other hu
    by_cases hut : u = t
    · rw [hut, Function.update_self] at hu
      cases hu
    · rw [Function.update_of_ne hut] at hu
      exact ⟨other, hu, rfl, rfl⟩
  dsimp only at hs
  cases hr : task.tracer with
  | none =>
    rw [hr] at hs
    cases hs
    apply h.settled hold
    · exact fun r hr => hr
    · intro r tracer htracer
      exact (h.owned r tracer htracer).gone htask (by rw [hr]; nofun)
  | some r =>
    rw [hr] at hs
    cases hs
    apply h.tracer_update hold
    · exact fun tracer htracer => (h.owned r tracer htracer).forget t
    · intro u tracer hu htracer
      apply (h.owned u tracer htracer).gone htask
      rw [hr]
      exact fun he => hu (Option.some.inj he).symm

/-- A record that a running task publishes is one of its own, in the pipe of its tracer. -/
theorem publish (h : TreeInv s) {t : Pid} {task : TreeTask} {program : Program} {image : Image}
    (hrun : s.running t = some (task, program, image)) {fd : I32} (hfd : 0 ≤ fd.toInt)
    {post : Tracer → Tracer}
    (hpost : ∀ r tracer, Owns s.tasks r t task.space → Owned s.tasks r tracer →
      Owned s.tasks r (post tracer)) : TreeInv (s.publish t fd program.reader post) := by
  obtain ⟨htask, hprogram, -, himage⟩ := running_iff.mp hrun
  obtain ⟨-, -, r, hr, -, hreader⟩ := h.booted t task program image htask hprogram himage
  have hpos : ¬ fd.toInt < 0 := by omega
  unfold Tree.publish
  rw [if_neg hpos, hreader]
  apply h.tracer_update
  · exact fun u other hu => ⟨other, hu, rfl, rfl⟩
  · exact fun tracer htracer => hpost r tracer ⟨task, htask, hr, rfl⟩ (h.owned r tracer htracer)
  · exact fun u tracer _ hu => h.owned u tracer hu

theorem publishDepth (h : TreeInv s) {t : Pid} {depth : U32}
    (hs : s.step cfg (.publishDepth t depth) = some s') : TreeInv s' := by
  obtain ⟨⟨task, program, image⟩, hrun, hs⟩ := Option.bind_eq_some_iff.mp hs
  cases hs
  obtain ⟨htask, hprogram, -, himage⟩ := running_iff.mp hrun
  obtain ⟨hfd, -, -⟩ := h.booted t task program image htask hprogram himage
  apply h.publish hrun hfd
  intro r tracer howns hown
  constructor
  · intro m hm
    rcases List.mem_append.mp hm with hm | hm
    · exact hown.depthPipe m hm
    · obtain rfl := List.mem_singleton.mp hm
      exact howns
  · exact hown.windowPipe
  · exact hown.depths
  · exact hown.windows

theorem publishWindow (h : TreeInv s) {t : Pid} {msg : FgraphWindowUpdate}
    (hs : s.step cfg (.publishWindow t msg) = some s') : TreeInv s' := by
  obtain ⟨⟨task, program, image⟩, hrun, hs⟩ := Option.bind_eq_some_iff.mp hs
  cases hs
  obtain ⟨htask, hprogram, -, himage⟩ := running_iff.mp hrun
  obtain ⟨-, hfd, -⟩ := h.booted t task program image htask hprogram himage
  apply h.publish hrun hfd
  intro r tracer howns hown
  constructor
  · exact hown.depthPipe
  · intro m hm
    rcases List.mem_append.mp hm with hm | hm
    · exact hown.windowPipe m hm
    · obtain rfl := List.mem_singleton.mp hm
      exact howns
  · exact hown.depths
  · exact hown.windows

theorem boot (hsys : cfg.trace.syscall = true) (h : TreeInv s) {space : ℕ} {a : BootCalls}
    (hcalls : a.Succeed) (hs : s.step cfg (.boot space a) = some s') : TreeInv s' := by
  obtain ⟨program, hprogram, hs⟩ := Option.bind_eq_some_iff.mp hs
  obtain ⟨task, htask, hs⟩ := Option.bind_eq_some_iff.mp hs
  obtain ⟨_, hguard, hs⟩ := Option.bind_eq_some_iff.mp hs
  have hg : ((program.statics = none ∧ task.live = true) ∧ task.space = space) ∧
      a.fork.all (fun tracer => (s.tracers tracer).isNone) = true := by
    simpa using hguard
  obtain ⟨⟨⟨hnone, -⟩, rfl⟩, hfree⟩ := hg
  have huntraced : task.tracer = none := (h.booting _ task program htask hprogram hnone).2
  obtain ⟨r, image, hfork, hd, hw, hboot⟩ := @boot_untraced cfg hsys s task.space program task a hcalls huntraced
  rw [hboot] at hs
  cases hs
  have hr : s.tracers r = none := by
    rw [hfork] at hfree
    simpa using hfree
  -- nobody else runs in the address space before its bootstrap
  have hspace : ∀ u other, u ≠ program.leader → s.tasks u = some other → other.space ≠ task.space := by
    intro u other hu hother he
    exact hu (h.booting u other program hother (he ▸ hprogram) hnone).1
  constructor
  · exact h.terminated
  · exact h.delivered
  · intro u other hu
    by_cases hul : u = program.leader
    · subst hul
      simp only [Function.update_self] at hu
      cases hu
      simp
    · simp only [Function.update_of_ne hul] at hu
      simp only [Function.update_of_ne (hspace u other hul hu)]
      exact h.known u other hu
  · intro n hn
    have hne : n ≠ task.space := by
      intro he
      have hf := h.fresh n hn
      rw [he, hprogram] at hf
      cases hf
    simp only [Function.update_of_ne hne]
    exact h.fresh n hn
  · intro u other p hu hp hnone'
    by_cases hul : u = program.leader
    · subst hul
      simp only [Function.update_self] at hu
      cases hu
      simp only [Function.update_self] at hp
      cases hp
      cases hnone'
    · simp only [Function.update_of_ne hul] at hu
      simp only [Function.update_of_ne (hspace u other hul hu)] at hp
      exact h.booting u other p hu hp hnone'
  · intro u other p image' hu hp himage
    by_cases hul : u = program.leader
    · subst hul
      simp only [Function.update_self] at hu
      cases hu
      simp only [Function.update_self] at hp
      cases hp
      cases himage
      exact ⟨hd, hw, r, rfl, by simp, rfl⟩
    · simp only [Function.update_of_ne hul] at hu
      simp only [Function.update_of_ne (hspace u other hul hu)] at hp
      obtain ⟨hd', hw', q, hq, hqs, hreader⟩ := h.booted u other p image' hu hp himage
      have hqr : q ≠ r := by
        intro he
        rw [he, hr] at hqs
        cases hqs
      refine ⟨hd', hw', q, hq, ?_, hreader⟩
      simp only [Function.update_of_ne hqr]
      exact hqs
  · intro q tracer hq
    by_cases hqr : q = r
    · subst hqr
      simp only [Function.update_self] at hq
      cases hq
      exact Owned.started
    · simp only [Function.update_of_ne hqr] at hq
      apply (h.owned q tracer hq).update
      exact not_owns (fun other hother => by rw [htask] at hother; cases hother; exact huntraced) q

/-- Every running task is traced, so the condition leaves no exec. -/
theorem no_exec (h : TreeInv s) {t : Pid} (hok : s.NoTracedExec (.exec t)) :
    s.step cfg (.exec t) ≠ some s' := by
  intro hs
  obtain ⟨⟨task, program, image⟩, hrun, -⟩ := Option.bind_eq_some_iff.mp hs
  obtain ⟨htask, hprogram, -, himage⟩ := running_iff.mp hrun
  obtain ⟨-, -, r, hr, -⟩ := h.booted t task program image htask hprogram himage
  rw [hok task htask] at hr
  cases hr

theorem initial : TreeInv .initial := by
  constructor
  · rfl
  · rfl
  · intro t task ht
    cases ht
  · exact fun _ _ => rfl
  · intro t task program ht
    cases ht
  · intro t task program image ht
    cases ht
  · intro r tracer hr
    cases hr

end TreeInv

theorem treeInv_of_reach {cfg : Config} (hsys : cfg.trace.syscall = true) {s : Tree}
    (h : (processTree cfg).Reach Tree.NoTracedExec s) : TreeInv s := by
  apply h.invariant
  · rintro s rfl
    exact TreeInv.initial
  · intro s l s' hinv hok hstep
    cases l with
    | start t => exact hinv.start hstep
    | boot space a => exact hinv.boot hsys hok hstep
    | fork t child => exact hinv.fork hstep
    | clone t child => exact hinv.clone hstep
    | exec t => exact absurd hstep (hinv.no_exec hok)
    | publishDepth t depth => exact hinv.publishDepth hstep
    | publishWindow t msg => exact hinv.publishWindow hstep
    | turn r => exact hinv.turn hstep
    | exit t => exact hinv.exit hstep
    | gone t => exact hinv.gone hstep

/-- After an exec of a running task and the bootstrap of the new image the property is lost,
whatever the configuration. -/
theorem exec_breaks {cfg : Config} (hsys : cfg.trace.syscall = true) {s s₁ s₂ : Tree} (h : TreeInv s)
    {t : Pid} {a : BootCalls} (hcalls : a.Succeed) (hexec : s.step cfg (.exec t) = some s₁)
    (hboot : s₁.step cfg (.boot s.next a) = some s₂) : ¬ Transparent s₂ := by
  obtain ⟨⟨task, program, image⟩, hrun, hexec⟩ := Option.bind_eq_some_iff.mp hexec
  cases hexec
  obtain ⟨htask, hprogram, -, himage⟩ := running_iff.mp hrun
  obtain ⟨-, -, r, hr, -⟩ := h.booted t task program image htask hprogram himage
  obtain ⟨new, hnew, hboot⟩ := Option.bind_eq_some_iff.mp hboot
  simp only [Tree.exec, Function.update_self] at hnew
  cases hnew
  obtain ⟨first, hfirst, hboot⟩ := Option.bind_eq_some_iff.mp hboot
  simp only [Tree.exec, if_true] at hfirst
  cases hfirst
  obtain ⟨_, -, hboot⟩ := Option.bind_eq_some_iff.mp hboot
  have htraced : task.tracer ≠ none := by
    rw [hr]
    nofun
  have hrefused := @boot_traced cfg hsys (s.exec t task program.leader) s.next
    ⟨program.leader, none, none⟩ ⟨s.next, task.tracer, true⟩ a hcalls htraced
  rw [hrefused] at hboot
  intro ht
  by_cases hf : cfg.fgraphEnabled = true
  · rw [if_pos hf] at hboot
    cases hboot
    have hended := ht.terminated
    simp [Tree.exec] at hended
  · rw [if_neg hf] at hboot
    cases hboot
    obtain ⟨q, -, -, hreader⟩ := ht.traced program.leader ⟨s.next, task.tracer, true⟩
      ⟨program.leader, some (withoutPipes cfg), none⟩ (withoutPipes cfg) (running_iff.mpr
        ⟨by simp [Tree.exec], by simp, rfl, rfl⟩)
    cases hreader

/-! A program that forks, and one that makes an exec. -/

def treeConfig (funcs : List String) : Config :=
  ⟨.file, "./cudatrace.output", .all, .full, 256, .us, .off, funcs, 16384⟩

def bootCalls (tracer : Pid) : BootCalls := ⟨some ⟨3, 4⟩, some ⟨5, 6⟩, some ⟨7, 8⟩, some tracer⟩

theorem bootCalls_succeed (tracer : Pid) : (bootCalls tracer).Succeed :=
  ⟨rfl, ⟨⟨5, 6⟩, rfl, by decide⟩, ⟨⟨7, 8⟩, rfl, by decide⟩, rfl⟩

/-- The first image publishes its depth and is replaced; the second one publishes too. -/
def execRun : List TreeLabel :=
  [.start 100, .boot 0 (bootCalls 101), .publishDepth 100 1, .turn 101, .exec 100,
    .boot 1 (bootCalls 102)]

/-- While no traced task makes an exec, the bootstrap is transparent; the first exec and the
bootstrap after it end that. -/
theorem bootstrap_transparency (cfg : Config) (hsys : cfg.trace.syscall = true) (s : Tree)
    (h : (processTree cfg).Reach Tree.NoTracedExec s) :
    Transparent s ∧ ∀ t a s₁ s₂, a.Succeed → (processTree cfg).step s (.exec t) s₁ →
      (processTree cfg).step s₁ (.boot s.next a) s₂ → ¬ Transparent s₂ :=
  ⟨(treeInv_of_reach hsys h).transparent, fun _ _ _ _ hcalls hexec hboot =>
    exec_breaks hsys (treeInv_of_reach hsys h) hcalls hexec hboot⟩

theorem bootstrap_transparency_fork : ∃ s, (processTree (treeConfig [])).Reach Tree.NoTracedExec s ∧
    (s.tasks 103).map TreeTask.tracer = some (some 101) ∧ Transparent s := by
  have h0 : (processTree (treeConfig [])).Reach Tree.NoTracedExec .initial := .start rfl
  have h1 := h0.step (l := TreeLabel.start 100) trivial rfl
  have h2 := h1.step (l := TreeLabel.boot 0 (bootCalls 101)) (bootCalls_succeed 101) rfl
  have h3 := h2.step (l := TreeLabel.fork 100 103) trivial rfl
  have h4 := h3.step (l := TreeLabel.publishDepth 103 1) trivial rfl
  obtain ⟨ht, -⟩ := bootstrap_transparency (treeConfig []) rfl _ h4
  exact ⟨_, h4, rfl, ht⟩

/-- With function graphs the new image is ended by its bootstrap. Without, its records are lost
and its syscalls are shown at the depth that the replaced image left behind. -/
theorem exec_not_transparent :
    (∃ s, (processTree (treeConfig ["cuLaunchKernel"])).Reachable s ∧ s.terminated = [100]) ∧
    ∃ s task tracer, (processTree (treeConfig [])).Reachable s ∧ s.lost = [100] ∧
      s.tasks 100 = some task ∧ task.live = true ∧ task.tracer = some 101 ∧ task.space = 1 ∧
      s.tracers 101 = some tracer ∧ tracer.drain.depthByTid 100 = some (1, 0) := by
  constructor
  · have hrun := @System.Reachable.of_foldlM _ _ (· = Tree.initial) (Tree.step (treeConfig ["cuLaunchKernel"]))
      _ _ execRun (.start rfl) rfl
    exact ⟨_, hrun, rfl⟩
  · have hrun := @System.Reachable.of_foldlM _ _ (· = Tree.initial) (Tree.step (treeConfig []))
      _ _ (execRun ++ [.publishDepth 100 2]) (.start rfl) rfl
    exact ⟨_, _, _, hrun, rfl, rfl, rfl, rfl, rfl, rfl, rfl⟩

end CudaTrace.Boot
