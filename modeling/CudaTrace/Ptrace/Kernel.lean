import CudaTrace.Ptrace.Turn

/-!
# Traced tasks (ptrace(2))

The other side of the loop: the stop each traced task is in, the moves tasks make
on their own, and what a resume request does to a stop. A stop is pending until
`waitpid` has reported it. The kernel may report pending stops in any order, and a
task may be killed at any moment.
-/

namespace CudaTrace.Ptrace
open CudaTrace.Base CudaTrace.Fgraph

/-- A syscall with its arguments. -/
structure Call where
  nr : I64
  args : Vector U64 6
  deriving DecidableEq

inductive NewTask where
  | fork
  | vfork
  | clone
  deriving DecidableEq

def NewTask.event : NewTask → BitVec 8
  | .fork => 1
  | .vfork => 2
  | .clone => 3

/-- The ptrace-stops; `attach` is the SIGSTOP of an attach or auto-attach, `signal`
that of a signal somebody sent. -/
inductive Stop where
  | syscallEntry (c : Call)
  | syscallExit (c : Call) (ret : I64)
  | newTask (c : Call) (how : NewTask) (child : Pid)
  | exec (c : Call) (former : Pid)
  | exit
  | signal (sig : Signal)
  | group (sig : Signal)
  | attach
  deriving DecidableEq

/-- The word `waitpid` reports for a stop. -/
def Stop.status : Stop → I32
  | .syscallEntry _ | .syscallExit _ _ => stopStatus 0x85 0
  | .newTask _ how _ => stopStatus 5 how.event
  | .exec _ _ => stopStatus 5 4
  | .exit => stopStatus 5 6
  | .signal sig | .group sig => stopStatus sig.val 0
  | .attach => stopStatus 19 0

inductive Death where
  | exited (code : BitVec 8)
  | killed (sig : Signal) (core : Bool)
  deriving DecidableEq

def Death.status : Death → I32
  | .exited code => exitedStatus code
  | .killed sig core => signaledStatus sig core

/-- Where a task is: in its own code, in a syscall, in a stop, past its exit stop, dead. -/
inductive Run where
  | user
  | kernel (c : Call)
  | stopped (stop : Stop) (reported : Bool)
  | exiting
  | zombie (death : Death)
  deriving DecidableEq

/-- A traced task; `attachPending` says that its attach stop is still to come. -/
structure Task where
  tgid : Pid
  attachPending : Bool
  run : Run
  deriving DecidableEq

abbrev Tasks := Pid → Option Task

/-! ### Moves of the tasks -/

inductive Move where
  | enter (t : Pid) (c : Call)
  | complete (t : Pid) (ret : I64)
  | spawn (t child : Pid) (how : NewTask) (thread : Bool)
  | attachStop (t : Pid)
  | signal (t : Pid) (sig : Signal)
  | group (t : Pid) (sig : Signal)
  | exec (t : Pid)
  | exitStop (t : Pid)
  | die (t : Pid) (death : Death)

def Run.stop (stop : Stop) : Run := .stopped stop false

/-- The moves that touch the moving task alone. A task reaches no syscall entry
before its attach stop. -/
def Task.move (task : Task) : Move → Option Task
  | .enter _ c =>
    if task.run = .user ∧ ¬ task.attachPending then
      some { task with run := .stop (.syscallEntry c) }
    else none
  | .complete _ ret =>
    match task.run with
    | .kernel c => some { task with run := .stop (.syscallExit c ret) }
    | _ => none
  | .spawn _ child how _ =>
    match task.run with
    | .kernel c => some { task with run := .stop (.newTask c how child) }
    | _ => none
  | .attachStop _ =>
    if task.run = .user ∧ task.attachPending then
      some { task with attachPending := false, run := .stop .attach }
    else none
  | .signal _ sig => if task.run = .user then some { task with run := .stop (.signal sig) } else none
  | .group _ sig => if task.run = .user then some { task with run := .stop (.group sig) } else none
  | .exec t =>
    match task.run with
    | .kernel c => some { task with run := .stop (.exec c t) }
    | _ => none
  | .exitStop _ =>
    match task.run with
    | .exiting | .zombie _ | .stopped .exit _ => none
    | _ => some { task with run := .stop .exit }
  | .die _ death =>
    match task.run with
    | .zombie _ => none
    | _ => some { task with run := .zombie death }

def Move.task : Move → Pid
  | .enter t _ | .complete t _ | .spawn t _ _ _ | .attachStop t | .signal t _ | .group t _ | .exec t
  | .exitStop t | .die t _ => t

/-- One move. A new task gets a fresh id. A thread that executes while it is not the
leader takes over the leader's id once the leader is dead, and its own id is gone. -/
def Tasks.move (k : Tasks) (m : Move) : Option Tasks := do
  let task ← k m.task
  let task' ← task.move m
  match m with
  | .spawn t child _ thread =>
    match k child with
    | some _ => none
    | none =>
      some (Function.update (Function.update k t (some task')) child
        (some ⟨if thread then task.tgid else child, true, .user⟩))
  | .exec t =>
    if task.tgid = t then some (Function.update k t (some task'))
    else match k task.tgid with
      | some ⟨_, _, .zombie _⟩ =>
        some (Function.update (Function.update k t none) task.tgid (some task'))
      | _ => none
  | _ => some (Function.update k m.task (some task'))

/-! ### Resuming -/

/-- Where a task goes on after a stop. -/
def Stop.resumed : Stop → Run
  | .syscallEntry c | .newTask c _ _ | .exec c _ => .kernel c
  | .syscallExit _ _ | .signal _ | .group _ | .attach => .user
  | .exit => .exiting

def Run.released : Run → Run
  | .stopped stop _ => stop.resumed
  | run => run

def Task.released (task : Task) : Task := { task with run := task.run.released }

/-- A stop that `PTRACE_SYSCALL` ended, with the signal number of the request. -/
structure Release where
  task : Pid
  stop : Stop
  reported : Bool
  sig : I32
  deriving DecidableEq

/-- One `PTRACE_SYSCALL`; it fails on a task that is not stopped. -/
def Tasks.resume (k : Tasks) (t : Pid) (sig : I32) : Tasks × List Release :=
  match k t with
  | some task =>
    match task.run with
    | .stopped stop reported =>
      (Function.update k t (some task.released), [⟨t, stop, reported, sig⟩])
    | _ => (k, [])
  | none => (k, [])

def Tasks.resumeAll (k : Tasks) : List (Pid × I32) → Tasks × List Release
  | [] => (k, [])
  | r :: rs =>
    let (k, a) := k.resume r.1 r.2
    let (k, b) := k.resumeAll rs
    (k, a ++ b)

/-! ### The tracer and its tasks -/

structure Sys where
  target : Pid
  booting : Bool
  tasks : Tasks
  loop : LoopState

/-- `attached` is the end of `wait_for_stop` with the resume that follows it, `turn`
one turn of the loop. -/
inductive Label where
  | move (m : Move)
  | attached
  | turn (t : Pid) (env : Env)

/-- The answers about the reported task are those of the kernel, or failures. -/
def Env.agrees (env : Env) (t : Pid) : Stop → Bool
  | .syscallEntry c => (env.getregs t).all fun regs =>
      regs.origRax = c.nr ∧ regs.args = c.args
  | .syscallExit _ ret => (env.getregs t).all fun regs => regs.rax = ret
  | .newTask _ _ child => (env.geteventmsg t).all fun msg => msg = child.setWidth 64
  | _ => true

/-- `waitpid` returns the stop of `task`, whose id is `t`. -/
def Tasks.report (k : Tasks) (t : Pid) (task : Task) (stop : Stop) : Tasks :=
  Function.update k t (some { task with run := .stopped stop true })

/-- The loop handles a status word of `t` while the tasks are as in `k`. -/
def Sys.handle (g : Globals) (s : Sys) (t : Pid) (env : Env) (status : I32) (k : Tasks) :
    Sys × List Release :=
  let loop := loopIter g env t status s.loop
  let (k, released) := k.resumeAll (resumes loop.out)
  ({ s with tasks := k, loop := loop }, released)

/-- One step, with the stops that the tracer ended in it. -/
def Sys.stepObs (g : Globals) (s : Sys) : Label → Option (Sys × List Release)
  | .move m => (s.tasks.move m).map fun k => ({ s with tasks := k }, [])
  | .attached =>
    if s.booting then
      match s.tasks s.target with
      | some task =>
        match task.run with
        | .stopped stop false =>
          let (k, released) := (s.tasks.report s.target task stop).resume s.target 0
          some ({ s with booting := false, tasks := k }, released)
        | _ => none
      | none => none
    else none
  | .turn t env =>
    if s.booting then none
    else match s.tasks t with
      | some task =>
        match task.run with
        | .stopped stop false =>
          if env.agrees t stop then
            some (s.handle g t env stop.status (s.tasks.report t task stop))
          else none
        | .zombie death => some (s.handle g t env death.status (Function.update s.tasks t none))
        | _ => none
      | none => none

def Sys.step (g : Globals) (s : Sys) (l : Label) : Option Sys := (s.stepObs g l).map Prod.fst

/-- The tracer has asked to attach to `target` and traces nothing else yet. -/
def Sys.initial (target : Pid) (loop : LoopState) : Sys where
  target := target
  booting := true
  tasks := Function.update (fun _ => none) target (some ⟨target, true, .user⟩)
  loop := loop

def sysStart (s : Sys) : Prop :=
  ∃ target controller fdPaths hiddenFds ranges,
    s = .initial target (initialLoop controller fdPaths hiddenFds ranges)

def tracer (g : Globals) : System Sys Label := System.ofPartial sysStart (Sys.step g)

/-! ### What a step can do -/

theorem update_some {k : Tasks} {t u : Pid} {task other : Task}
    (h : Function.update k t (some task) u = some other) :
    (u = t ∧ other = task) ∨ (u ≠ t ∧ k u = some other) := by
  by_cases hu : u = t
  · subst hu
    rw [Function.update_self] at h
    exact Or.inl ⟨rfl, (Option.some.inj h).symm⟩
  · rw [Function.update_of_ne hu] at h
    exact Or.inr ⟨hu, h⟩

theorem update_none {k : Tasks} {t u : Pid} {task : Task}
    (h : Function.update k t (some task) u = none) : u ≠ t ∧ k u = none := by
  by_cases hu : u = t
  · subst hu
    rw [Function.update_self] at h
    cases h
  · rw [Function.update_of_ne hu] at h
    exact ⟨hu, h⟩

theorem initial_task {target t : Pid} {loop : LoopState} {task : Task}
    (h : (Sys.initial target loop).tasks t = some task) :
    t = target ∧ task = ⟨target, true, .user⟩ := by
  have hu : Function.update (fun _ => none) target (some ⟨target, true, .user⟩) t = some task := h
  rcases update_some hu with h | ⟨-, h⟩
  · exact h
  · cases h

/-- A move changes its own task; a new task appears under a free id, and a thread that
executes may take over the id of its dead leader. -/
theorem move_cases {k k' : Tasks} {m : Move} (h : k.move m = some k') :
    ∃ task task', k m.task = some task ∧ task.move m = some task' ∧
      ((k' = Function.update k m.task (some task') ∧ (∀ t, m = .exec t → task.tgid = t) ∧
        ∀ t child how thread, m ≠ .spawn t child how thread) ∨
      (∃ t child how thread tgid, m = .spawn t child how thread ∧ k child = none ∧
        k' = Function.update (Function.update k t (some task')) child (some ⟨tgid, true, .user⟩)) ∨
      (∃ t leader death, m = .exec t ∧ task.tgid ≠ t ∧ k task.tgid = some leader ∧
        leader.run = .zombie death ∧
        k' = Function.update (Function.update k t none) task.tgid (some task'))) := by
  obtain ⟨task, htask, h⟩ := Option.bind_eq_some_iff.mp h
  obtain ⟨task', htask', h⟩ := Option.bind_eq_some_iff.mp h
  refine ⟨task, task', htask, htask', ?_⟩
  cases m with
  | spawn t child how thread =>
    cases hc : k child with
    | some other => simp [hc] at h
    | none =>
      simp only [hc] at h
      exact Or.inr (Or.inl ⟨t, child, how, thread, _, rfl, hc, (Option.some.inj h).symm⟩)
  | exec t =>
    by_cases htg : task.tgid = t
    · simp only [htg, if_true] at h
      refine Or.inl ⟨(Option.some.inj h).symm, ?_, nofun⟩
      intro u hu
      cases hu
      exact htg
    · simp only [htg, if_false] at h
      split at h
      · rename_i tgid pending death hl
        exact Or.inr (Or.inr ⟨t, _, death, rfl, htg, hl, rfl, (Option.some.inj h).symm⟩)
      · cases h
  | _ => exact Or.inl ⟨(Option.some.inj h).symm, nofun, nofun⟩

/-- A turn reports a pending stop or a dead task. -/
theorem turn_cases {g : Globals} {s s' : Sys} {t : Pid} {env : Env} {released : List Release}
    (h : s.stepObs g (.turn t env) = some (s', released)) :
    s.booting = false ∧ ∃ task, s.tasks t = some task ∧
      ((∃ stop, task.run = .stopped stop false ∧ env.agrees t stop = true ∧
        s.handle g t env stop.status (s.tasks.report t task stop) = (s', released)) ∨
      (∃ death, task.run = .zombie death ∧
        s.handle g t env death.status (Function.update s.tasks t none) = (s', released))) := by
  simp only [Sys.stepObs] at h
  split at h
  · cases h
  · rename_i hb
    refine ⟨by simpa using hb, ?_⟩
    cases htask : s.tasks t with
    | none => simp [htask] at h
    | some task =>
      simp only [htask] at h
      refine ⟨task, rfl, ?_⟩
      split at h
      · rename_i stop hrun
        split at h
        · rename_i hag
          exact Or.inl ⟨stop, hrun, hag, Option.some.inj h⟩
        · cases h
      · rename_i death hrun
        exact Or.inr ⟨death, hrun, Option.some.inj h⟩
      · cases h

/-- `wait_for_stop` takes the first stop of the target. -/
theorem attached_cases {g : Globals} {s s' : Sys} {released : List Release}
    (h : s.stepObs g .attached = some (s', released)) :
    s.booting = true ∧ ∃ task stop, s.tasks s.target = some task ∧ task.run = .stopped stop false ∧
      s' = { s with
        booting := false
        tasks := ((s.tasks.report s.target task stop).resume s.target 0).1 } ∧
      released = ((s.tasks.report s.target task stop).resume s.target 0).2 := by
  simp only [Sys.stepObs] at h
  split at h
  · rename_i hb
    refine ⟨hb, ?_⟩
    cases htask : s.tasks s.target with
    | none => simp [htask] at h
    | some task =>
      simp only [htask] at h
      split at h
      · rename_i stop hrun
        obtain ⟨h1, h2⟩ := Prod.mk.inj (Option.some.inj h)
        exact ⟨task, stop, rfl, hrun, h1.symm, h2.symm⟩
      · cases h
  · cases h

/-! ### Reported status words -/

/-- The branch of the loop a stop belongs to. -/
def Stop.kind : Stop → WaitKind
  | .syscallEntry _ | .syscallExit _ _ => .syscallStop
  | .newTask _ _ _ => .newTask
  | .exec _ _ => .exec
  | .exit => .otherStop sigtrap
  | .signal sig | .group sig => .otherStop sig.word
  | .attach => .otherStop Signal.sigstop.word

theorem waitKind_signal (sig : Signal) : waitKind (stopStatus sig.val 0) = .otherStop sig.word := by
  have hne : sig.val.setWidth 32 ≠ syscallStopSig := sig.word_ne_syscallStopSig
  simp only [waitKind, wifexited_stopStatus, wifsignaled_stopStatus, wifstopped_stopStatus,
    wstopsig_stopStatus, ptraceEvent_stopStatus, Bool.or_self, Bool.not_true, hne, if_false]
  have h0 : (0 : BitVec 8).setWidth 32 ≠ ptraceEventClone ∧
      (0 : BitVec 8).setWidth 32 ≠ ptraceEventFork ∧ (0 : BitVec 8).setWidth 32 ≠ ptraceEventVfork ∧
      (0 : BitVec 8).setWidth 32 ≠ ptraceEventExec := by decide
  simp only [Bool.false_eq_true, if_false, h0.1, h0.2.1, h0.2.2.1, h0.2.2.2, or_self, and_false]
  rfl

theorem waitKind_status (stop : Stop) : waitKind stop.status = stop.kind := by
  cases stop with
  | syscallEntry c => exact (by decide : waitKind (stopStatus 0x85 0) = .syscallStop)
  | syscallExit c ret => exact (by decide : waitKind (stopStatus 0x85 0) = .syscallStop)
  | newTask c how child =>
    cases how with
    | fork => exact (by decide : waitKind (stopStatus 5 1) = .newTask)
    | vfork => exact (by decide : waitKind (stopStatus 5 2) = .newTask)
    | clone => exact (by decide : waitKind (stopStatus 5 3) = .newTask)
  | exec c former => exact (by decide : waitKind (stopStatus 5 4) = .exec)
  | exit => exact (by decide : waitKind (stopStatus 5 6) = .otherStop sigtrap)
  | signal sig => exact waitKind_signal sig
  | group sig => exact waitKind_signal sig
  | attach => exact waitKind_signal .sigstop

theorem waitKind_death (death : Death) : waitKind death.status = .gone := by
  cases death with
  | exited code => simp only [waitKind, Death.status, wifexited_exitedStatus, Bool.true_or, if_true]
  | killed sig core =>
    simp only [waitKind, Death.status, wifsignaled_signaledStatus, Bool.or_true, if_true]

/-! ### What a list of resume requests does -/

theorem Run.released_ne_stopped (run : Run) (stop : Stop) (reported : Bool) :
    run.released ≠ .stopped stop reported := by
  cases run with
  | stopped stop' r => cases stop' <;> nofun
  | _ => nofun

theorem Task.released_released (task : Task) : task.released.released = task.released := by
  obtain ⟨tgid, pending, run⟩ := task
  cases run with
  | stopped stop r => cases stop <;> rfl
  | _ => rfl

theorem Task.released_of_not_stopped {task : Task}
    (h : ∀ stop reported, task.run ≠ .stopped stop reported) : task.released = task := by
  obtain ⟨tgid, pending, run⟩ := task
  cases run with
  | stopped stop r => exact absurd rfl (h stop r)
  | _ => rfl

theorem resume_tasks (k : Tasks) (t : Pid) (sig : I32) (u : Pid) :
    (k.resume t sig).1 u = if u = t then (k u).map Task.released else k u := by
  by_cases hu : u = t
  · subst hu
    rw [if_pos rfl]
    unfold Tasks.resume
    cases hk : k u with
    | none => simp only [hk, Option.map_none]
    | some task =>
      cases hrun : task.run with
      | stopped stop reported => simp only [hrun, Function.update_self, Option.map_some]
      | _ =>
        have hrel := @Task.released_of_not_stopped task (by rw [hrun]; nofun)
        simp only [hrun, hk, Option.map_some, hrel]
  · rw [if_neg hu]
    unfold Tasks.resume
    cases hk : k t with
    | none => rfl
    | some task =>
      cases hrun : task.run with
      | stopped stop reported => simp only [hrun, Function.update_of_ne hu]
      | _ => simp only [hrun]

theorem resumeAll_tasks (k : Tasks) (rs : List (Pid × I32)) (u : Pid) :
    (k.resumeAll rs).1 u = if u ∈ rs.map Prod.fst then (k u).map Task.released else k u := by
  induction rs generalizing k with
  | nil => rfl
  | cons r rs ih =>
    have hstep : (k.resumeAll (r :: rs)).1 = ((k.resume r.1 r.2).1.resumeAll rs).1 := rfl
    rw [hstep, ih, resume_tasks]
    by_cases hu : u = r.1
    · subst hu
      have htwice : ((k r.1).map Task.released).map Task.released = (k r.1).map Task.released := by
        cases k r.1 with
        | none => rfl
        | some task => exact congrArg some task.released_released
      simp [htwice]
    · simp [hu]

/-- A release answers one of the requests and ends the stop the task was in. -/
theorem mem_releases {k : Tasks} {rs : List (Pid × I32)} {x : Release}
    (hx : x ∈ (k.resumeAll rs).2) :
    (x.task, x.sig) ∈ rs ∧ ∃ task, k x.task = some task ∧ task.run = .stopped x.stop x.reported := by
  induction rs generalizing k with
  | nil => cases hx
  | cons r rs ih =>
    have hobs : (k.resumeAll (r :: rs)).2 =
        (k.resume r.1 r.2).2 ++ ((k.resume r.1 r.2).1.resumeAll rs).2 := rfl
    rw [hobs] at hx
    rcases List.mem_append.mp hx with h | h
    · unfold Tasks.resume at h
      cases hk : k r.1 with
      | none => simp [hk] at h
      | some task =>
        cases hrun : task.run with
        | stopped stop reported =>
          simp only [hk, hrun, List.mem_singleton] at h
          subst h
          exact ⟨List.mem_cons_self, task, hk, hrun⟩
        | _ => simp [hk, hrun] at h
    · obtain ⟨hmem, task, hk, hrun⟩ := ih h
      refine ⟨List.mem_cons_of_mem _ hmem, task, ?_, hrun⟩
      rw [resume_tasks] at hk
      split at hk
      · obtain ⟨task', hk', rfl⟩ := Option.map_eq_some_iff.mp hk
        exact absurd hrun (Run.released_ne_stopped _ _ _)
      · exact hk

theorem exists_of_resumeAll {k : Tasks} {rs : List (Pid × I32)} {u : Pid} {task : Task}
    (h : (k.resumeAll rs).1 u = some task) : ∃ old, k u = some old := by
  rw [resumeAll_tasks] at h
  split at h
  · obtain ⟨old, hold, -⟩ := Option.map_eq_some_iff.mp h
    exact ⟨old, hold⟩
  · exact ⟨task, h⟩

/-- A task is there after a step if it was there before, or the step is its creation. -/
theorem step_tasks {g : Globals} {s s' : Sys} {l : Label} (hs : s.step g l = some s') {u : Pid}
    {task : Task} (hu : s'.tasks u = some task) :
    (∃ old, s.tasks u = some old) ∨ ∃ t how thread, l = .move (.spawn t u how thread) := by
  obtain ⟨⟨s₁, released⟩, hobs, rfl⟩ := Option.map_eq_some_iff.mp hs
  have hold : ∀ {t : Pid} {old new : Task}, s.tasks t = some old →
      Function.update s.tasks t (some new) u = some task → ∃ old, s.tasks u = some old := by
    intro t old new ht h
    rcases update_some h with ⟨rfl, -⟩ | ⟨-, h⟩
    · exact ⟨old, ht⟩
    · exact ⟨task, h⟩
  cases l with
  | move m =>
    obtain ⟨k, hm, he⟩ := Option.map_eq_some_iff.mp hobs
    cases he
    obtain ⟨old, new, ht, -, hcase⟩ := move_cases hm
    rcases hcase with ⟨rfl, -, -⟩ | ⟨t, child, how, thread, tgid, rfl, -, rfl⟩ |
      ⟨t, leader, death, rfl, -, hl, -, rfl⟩
    · exact Or.inl (hold ht hu)
    · rcases update_some hu with ⟨rfl, -⟩ | ⟨-, hu⟩
      · exact Or.inr ⟨t, how, thread, rfl⟩
      · exact Or.inl (hold ht hu)
    · left
      rcases update_some hu with ⟨rfl, -⟩ | ⟨-, hu⟩
      · exact ⟨leader, hl⟩
      · by_cases hut : u = t
        · rw [hut, Function.update_self] at hu
          cases hu
        · rw [Function.update_of_ne hut] at hu
          exact ⟨task, hu⟩
  | attached =>
    left
    obtain ⟨-, old, stop, ht, -, rfl, -⟩ := attached_cases hobs
    have hu' : ((s.tasks.report s.target old stop).resumeAll [(s.target, 0)]).1 u = some task := hu
    obtain ⟨mid, hmid⟩ := exists_of_resumeAll hu'
    rcases update_some hmid with ⟨rfl, -⟩ | ⟨-, hmid⟩
    · exact ⟨old, ht⟩
    · exact ⟨mid, hmid⟩
  | turn t env =>
    left
    obtain ⟨-, old, ht, ⟨stop, -, -, hh⟩ | ⟨death, -, hh⟩⟩ := turn_cases hobs
    · obtain ⟨rfl, -⟩ := Prod.mk.inj hh
      obtain ⟨mid, hmid⟩ := exists_of_resumeAll hu
      rcases update_some hmid with ⟨rfl, -⟩ | ⟨-, hmid⟩
      · exact ⟨old, ht⟩
      · exact ⟨mid, hmid⟩
    · obtain ⟨rfl, -⟩ := Prod.mk.inj hh
      obtain ⟨mid, hmid⟩ := exists_of_resumeAll hu
      by_cases hut : u = t
      · rw [hut, Function.update_self] at hmid
        cases hmid
      · rw [Function.update_of_ne hut] at hmid
        exact ⟨mid, hmid⟩

end CudaTrace.Ptrace
