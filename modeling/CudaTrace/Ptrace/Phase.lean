import CudaTrace.Ptrace.Parity

/-!
# Lines and resumed stops over a run

With the parity invariant: which line a turn writes, which stops it ends, and the
condition under which both are right. A late clone event shows why it is needed.
-/

namespace CudaTrace.Ptrace
open CudaTrace.Base CudaTrace.Fgraph

/-! ### The lines of a turn -/

def writtenLines (actions : List Action) : List SyscallLine :=
  actions.filterMap fun
    | .line l => some l
    | _ => none

@[simp] theorem writtenLines_append (a b : List Action) :
    writtenLines (a ++ b) = writtenLines a ++ writtenLines b := List.filterMap_append

theorem writtenLines_begin {o : List Action} {tid : Pid} {ok : Bool}
    (h : ∀ x ∈ o, x = Action.beginCapture tid ok) : writtenLines o = [] :=
  List.filterMap_eq_nil_iff.mpr fun x hx => by rw [h x hx]

theorem writtenLines_end {o : List Action} {a : ActiveFgraphCapture}
    (h : ∀ x ∈ o, ∃ graph, x = Action.endCapture a graph) : writtenLines o = [] :=
  List.filterMap_eq_nil_iff.mpr fun x hx => by obtain ⟨graph, rfl⟩ := h x hx; rfl

theorem releaseWaiter_lines (g : Globals) (tid : Pid) (state : SyscallState) (s : LoopState) :
    writtenLines (releaseWaiter g tid state s).out = writtenLines s.out := by
  rcases releaseWaiter_cases g tid state s with ⟨c, a, -, hr⟩ | ⟨c, o, ho, hr⟩
  · rw [hr]
    simp [writtenLines]
  · rw [hr]
    simp only [writtenLines_append, writtenLines_begin ho]
    simp [writtenLines]

theorem drainWaiting_lines (g : Globals) (queue : List Pid) (s : LoopState) :
    writtenLines (drainWaiting g queue s).out = writtenLines s.out := by
  induction queue generalizing s with
  | nil => rfl
  | cons tid rest ih =>
    by_cases hheld : s.Held tid
    · obtain ⟨st, hst, -⟩ := hheld.record
      rw [drainWaiting_held g tid rest s st hst hheld]
      split
      · exact releaseWaiter_lines g tid st s
      · rw [ih, releaseWaiter_lines]
    · rw [drainWaiting_skip g tid rest s hheld, ih]

theorem maybeResume_lines (g : Globals) (s : LoopState) :
    writtenLines (maybeResumeWaitingFgraphTid g s).out = writtenLines s.out := by
  rw [maybeResumeWaitingFgraphTid]
  split
  · rfl
  · exact drainWaiting_lines g _ s

theorem finish_lines (s : LoopState) :
    writtenLines (finishActiveFgraphCapture s).out = writtenLines s.out := by
  cases ha : s.activeFgraphCapture with
  | none => rw [finish_none s ha]
  | some a =>
    obtain ⟨c, o, ho, hf⟩ := finish_cases s a ha
    rw [hf, writtenLines_append, writtenLines_end ho, List.append_nil]

theorem onEntry_lines (g : Globals) (env : Env) (pid : Pid) (regs : UserRegs)
    (state : SyscallState) (s : LoopState) :
    writtenLines (onEntry g env pid regs state s).out = writtenLines s.out := by
  unfold onEntry
  dsimp only
  split
  · split
    · rcases begin_cases g pid (entryState g env pid regs state s) s with
        ⟨c, a, -, hb⟩ | ⟨c, o, ho, hb⟩
      · rw [hb]
        simp [LoopState.emit, LoopState.setState, writtenLines]
      · rw [hb]
        simp only [LoopState.emit, LoopState.setState, writtenLines_append, writtenLines_begin ho]
        simp [writtenLines]
    · split <;> rfl
  · simp [LoopState.emit, LoopState.setState, writtenLines]

theorem onExit_lines (g : Globals) (env : Env) (pid : Pid) (regs : UserRegs)
    (state : SyscallState) (s : LoopState) :
    writtenLines (onExit g env pid regs state s).out =
      writtenLines s.out ++ writtenLines (exitLine g env pid regs state s) := by
  unfold onExit
  dsimp only
  split
  · simp only [LoopState.emit, writtenLines_append, maybeResume_lines, finish_lines]
    simp [writtenLines]
  · simp [LoopState.emit, writtenLines]

theorem onGone_lines (g : Globals) (pid : Pid) (s : LoopState) :
    writtenLines (onGone g pid s).out = writtenLines s.out := by
  unfold onGone
  dsimp only
  rw [maybeResume_lines]
  split
  · simp only [LoopState.emit, writtenLines_append, finish_lines]
    simp [writtenLines]
  · simp [LoopState.emit, writtenLines]

/-- A line is written at a syscall stop of a task whose bit is set, from its record and
the registers of the stop. -/
theorem loopIter_line {g : Globals} {env : Env} {pid : Pid} {status : I32} {s : LoopState}
    {l : SyscallLine} (h : l ∈ writtenLines (loopIter g env pid status s).out) :
    waitKind status = .syscallStop ∧ ∃ regs st, env.getregs pid = some regs ∧
      s.states pid = some st ∧ st.active = true ∧ l.tid = pid ∧ l.state.nr = st.nr ∧
      l.state.args = st.args ∧ l.retRaw = regs.rax := by
  unfold loopIter at h
  dsimp only at h
  cases hk : waitKind status with
  | syscallStop =>
    rw [hk] at h
    dsimp only at h
    unfold onSyscallStop at h
    cases hregs : env.getregs pid with
    | none =>
      rw [hregs] at h
      cases h
    | some regs =>
      rw [hregs] at h
      dsimp only at h
      cases hst : s.states pid with
      | none =>
        rw [show (drained env s).states pid = none from hst] at h
        simp only [Option.getD_none, SyscallState.default, Bool.not_false, if_true] at h
        rw [onEntry_lines] at h
        cases h
      | some st =>
        rw [show (drained env s).states pid = some st from hst, Option.getD_some] at h
        cases hact : st.active with
        | false =>
          rw [hact] at h
          simp only [Bool.not_false, if_true] at h
          rw [onEntry_lines] at h
          cases h
        | true =>
          rw [hact] at h
          simp only [Bool.not_true, Bool.false_eq_true, if_false] at h
          rw [onExit_lines] at h
          refine ⟨rfl, regs, st, rfl, rfl, hact, ?_⟩
          have hm : l ∈ writtenLines (exitLine g env pid regs st (drained env s)) := h
          unfold exitLine at hm
          split at hm
          · cases hm
          · obtain rfl := List.mem_singleton.mp hm
            exact ⟨rfl, rfl, rfl, rfl⟩
  | gone =>
    rw [hk] at h
    dsimp only at h
    rw [onGone_lines] at h
    cases h
  | notStopped =>
    rw [hk] at h
    cases h
  | newTask =>
    rw [hk] at h
    dsimp only at h
    unfold onNewTask at h
    split at h <;> cases h
  | exec =>
    rw [hk] at h
    cases h
  | otherStop sig =>
    rw [hk] at h
    cases h

/-! ### Steps and runs -/

/-- No held task has a pending stop when a turn closes the capture. -/
def WaitersHandled (s : Sys) : Label → Prop
  | .turn t _ => EndsCapture s t → ∀ u task stop, s.loop.Held u → s.tasks u = some task →
      task.run ≠ .stopped stop false
  | _ => True

/-- What a step from `s` to `s'` gets right: the bit after a syscall stop, the line, and
that the stops it ended had been handled. The attach stop of a new task is handled by
the turn for its parent's event. -/
structure PhaseStep (s : Sys) (l : Label) (s' : Sys) (released : List Release) : Prop where
  bit : ∀ t env task stop, l = .turn t env → s.tasks t = some task →
    task.run = .stopped stop false → stop.kind = .syscallStop →
    ((∃ st, s'.loop.states t = some st ∧ st.active = true) ↔ ∃ c, stop = .syscallEntry c)
  line : ∀ t env line, l = .turn t env → line ∈ writtenLines s'.loop.out →
    ∃ task c ret, s.tasks t = some task ∧ task.run = .stopped (.syscallExit c ret) false ∧
      line.tid = t ∧ line.state.nr = c.nr ∧ line.state.args = c.args ∧ line.retRaw = ret
  handled : ∀ x ∈ released, x.reported = true ∨ (x.stop = .attach ∧ ∃ t env task c how,
    l = .turn t env ∧ s.tasks t = some task ∧ task.run = .stopped (.newTask c how x.task) false)

theorem WaitersHandled.parked {s : Sys} {l : Label} (h : WaitersHandled s l) : WaitersParked s l := by
  cases l with
  | turn t env =>
    intro he u task stop hu htask hrun
    exact absurd hrun (h he u task stop hu htask)
  | _ => trivial

section Step

variable {g : Globals} {s s' : Sys} {t : Pid} {env : Env} {released : List Release} {task : Task}

theorem Parity.clear (h : Parity s) (htask : s.tasks t = some task) {c : Call}
    (hrun : task.run = .stopped (.syscallEntry c) false) :
    ∀ st, s.loop.states t = some st → st.active = false := by
  have hrec := h.tracked t task htask (by rw [hrun]; rfl)
  rw [hrun] at hrec
  exact hrec

theorem Parity.onRecord (h : Parity s) (htask : s.tasks t = some task) {c : Call} {ret : I64}
    (hrun : task.run = .stopped (.syscallExit c ret) false) :
    ∃ st, s.loop.states t = some st ∧ st.active = true ∧ st.nr = c.nr ∧ st.args = c.args := by
  have hrec := h.tracked t task htask (by rw [hrun]; rfl)
  rw [hrun] at hrec
  exact hrec

theorem handle_loop {status : I32} {k : Tasks} (hh : s.handle g t env status k = (s', released)) :
    s'.loop = loopIter g env t status s.loop := (congrArg (fun p => p.1.loop) hh).symm

theorem handle_released {status : I32} {k : Tasks} (hh : s.handle g t env status k = (s', released)) :
    (k.resumeAll (resumes (loopIter g env t status s.loop).out)).2 = released :=
  congrArg Prod.snd hh

theorem Parity.bit (h : Parity s) (hok : Tracked s (.turn t env)) {stop : Stop}
    (htask : s.tasks t = some task) (hrun : task.run = .stopped stop false)
    (hkind : stop.kind = .syscallStop) :
    (∃ st, (loopIter g env t stop.status s.loop).states t = some st ∧ st.active = true) ↔
      ∃ c, stop = .syscallEntry c := by
  have hk : waitKind stop.status = .syscallStop := (waitKind_status stop).trans hkind
  have hread := hok task stop htask hrun
  cases stop with
  | syscallEntry c =>
    obtain ⟨regs, hregs⟩ := Option.isSome_iff_exists.mp hread
    obtain ⟨state, w, b, -, hst⟩ := loopIter_entry g env t h.consistent hk hregs (h.clear htask hrun)
    exact iff_of_true ⟨_, hst, rfl⟩ ⟨c, rfl⟩
  | syscallExit c ret =>
    obtain ⟨regs, hregs⟩ := Option.isSome_iff_exists.mp hread
    obtain ⟨state, hst, hact, -⟩ := h.onRecord htask hrun
    obtain ⟨-, woken, -, hst'⟩ := loopIter_exit g env t h.consistent hk hregs hst hact
    refine iff_of_false ?_ nofun
    intro hactive
    obtain ⟨st, he, hact'⟩ := hactive
    rw [hst'] at he
    cases he
    cases hact'
  | _ => cases hkind

theorem Parity.line (h : Parity s) {stop : Stop} (htask : s.tasks t = some task)
    (hrun : task.run = .stopped stop false) (hag : env.agrees t stop = true) {line : SyscallLine}
    (hline : line ∈ writtenLines (loopIter g env t stop.status s.loop).out) :
    ∃ c ret, stop = .syscallExit c ret ∧ line.tid = t ∧ line.state.nr = c.nr ∧
      line.state.args = c.args ∧ line.retRaw = ret := by
  obtain ⟨hk, regs, st, hregs, hst, hact, htid, hnr, hargs, hret⟩ := loopIter_line hline
  rw [waitKind_status] at hk
  cases stop with
  | syscallEntry c =>
    have hclear := h.clear htask hrun st hst
    rw [hact] at hclear
    cases hclear
  | syscallExit c ret =>
    obtain ⟨st', hst', -, hnr', hargs'⟩ := h.onRecord htask hrun
    cases hst.symm.trans hst'
    have hrax : regs.rax = ret := by simpa [Env.agrees, hregs] using hag
    exact ⟨c, ret, rfl, htid, hnr.trans hnr', hargs.trans hargs', hret.trans hrax⟩
  | _ => cases hk

/-- A pending stop that a turn ends is the attach stop of the new task it handles. -/
theorem Parity.handledStop (h : Parity s) (hok : Tracked s (.turn t env))
    (hpark : WaitersHandled s (.turn t env)) {stop : Stop} (htask : s.tasks t = some task)
    (hrun : task.run = .stopped stop false) (hag : env.agrees t stop = true) {x : Release}
    (hx : x ∈ ((s.tasks.report t task stop).resumeAll
      (resumes (loopIter g env t stop.status s.loop).out)).2) (hfalse : x.reported = false) :
    x.stop = .attach ∧ ∃ c how, stop = .newTask c how x.task := by
  obtain ⟨woken, own, ht, hown, hends⟩ := loopIter_turned g env t stop.status h.consistent
  obtain ⟨hmem, task', h', hr'⟩ := mem_releases hx
  rw [hfalse] at hr'
  have hxt : x.task ≠ t := by
    intro he
    rw [he, Tasks.report, Function.update_self] at h'
    cases h'
    cases hr'
  have h₀ : s.tasks x.task = some task' := by
    rwa [Tasks.report, Function.update_of_ne hxt] at h'
  rw [ht.requests] at hmem
  rcases List.mem_append.mp hmem with hm | hm
  · -- a waiter: the turn closes the capture, so its stop had been handled
    obtain ⟨u, hu, he⟩ := List.mem_map.mp hm
    have hux : u = x.task := congrArg Prod.fst he
    have hne : woken ≠ [] := List.ne_nil_of_mem hu
    have howner : s.loop.owner = some t := ht.ends hne
    have hkind := hends hne
    rw [waitKind_status] at hkind
    have hexit : ∃ c ret, task.run = .stopped (.syscallExit c ret) false := by
      cases stop with
      | syscallEntry c => exact absurd howner (h.consistent.not_owner t (h.clear htask hrun))
      | syscallExit c ret => exact ⟨c, ret, hrun⟩
      | _ => rcases hkind with hk | hk <;> cases hk
    have hheld : s.loop.Held x.task := hux ▸ (ht.held hu).2
    exact absurd hr' (hpark ⟨howner, task, htask, Or.inl hexit⟩ _ task' x.stop hheld h₀)
  · rcases hown _ hm with ⟨he, -⟩ | ⟨hk, -, msg, hmsg, he⟩
    · exact absurd he hxt
    · rw [waitKind_status] at hk
      cases stop with
      | newTask c how child =>
        have hmc : msg = child.setWidth 64 := by simpa [Env.agrees, hmsg] using hag
        have hchild : msg.setWidth 32 = child := by
          rw [hmc]
          exact BitVec.setWidth_setWidth_of_le child (by decide)
        have hxc : x.task = child := he.trans hchild
        have hready := hok task _ htask hrun (by rw [hmsg]; rfl) task' x.stop (hxc ▸ h₀) hr'
        exact ⟨hready, c, how, by rw [hxc]⟩
      | _ => cases hk

theorem Parity.handledDeath (h : Parity s) (hpark : WaitersHandled s (.turn t env)) {death : Death}
    (htask : s.tasks t = some task) (hrun : task.run = .zombie death) {x : Release}
    (hx : x ∈ (Tasks.resumeAll (Function.update s.tasks t none)
      (resumes (loopIter g env t death.status s.loop).out)).2) : x.reported = true := by
  obtain ⟨woken, ht, -⟩ := loopIter_gone g env t h.consistent (waitKind_death death)
  obtain ⟨hmem, task', h', hr'⟩ := mem_releases hx
  rw [ht.requests, List.append_nil] at hmem
  obtain ⟨u, hu, he⟩ := List.mem_map.mp hmem
  obtain rfl : u = x.task := congrArg Prod.fst he
  obtain ⟨hxt, hheld⟩ := ht.held hu
  rw [Function.update_of_ne hxt] at h'
  have hend : EndsCapture s t :=
    ⟨ht.ends (List.ne_nil_of_mem hu), task, htask, Or.inr ⟨death, hrun⟩⟩
  by_contra hn
  rw [Bool.not_eq_true] at hn
  rw [hn] at hr'
  exact hpark hend _ task' x.stop hheld h' hr'

end Step

/-- A step of a run whose steps keep track of every task. -/
theorem Parity.phaseStep {g : Globals} {s s' : Sys} {l : Label} {released : List Release}
    (h : Parity s) (hok : Tracked s l) (hpark : WaitersHandled s l)
    (hs : s.stepObs g l = some (s', released)) : PhaseStep s l s' released := by
  cases l with
  | move m =>
    obtain ⟨k, -, he⟩ := Option.map_eq_some_iff.mp hs
    cases he
    exact ⟨fun _ _ _ _ hl => (by cases hl), fun _ _ _ hl => (by cases hl), fun x hx => (by cases hx)⟩
  | attached =>
    obtain ⟨-, task, stop, htask, hrun, -, rfl⟩ := attached_cases hs
    refine ⟨fun _ _ _ _ hl => (by cases hl), fun _ _ _ hl => (by cases hl), fun x hx => Or.inl ?_⟩
    have hx' : x ∈ ((s.tasks.report s.target task stop).resumeAll [(s.target, 0)]).2 :=
      List.mem_append_left _ hx
    obtain ⟨hmem, task', h', hr'⟩ := mem_releases hx'
    have hxt : x.task = s.target := congrArg Prod.fst (List.mem_singleton.mp hmem)
    rw [hxt, Tasks.report, Function.update_self] at h'
    cases h'
    exact (Run.stopped.inj hr').2.symm
  | turn t env =>
    obtain ⟨-, task, htask, ⟨stop, hrun, hag, hh⟩ | ⟨death, hrun, hh⟩⟩ := turn_cases hs
    · refine ⟨?_, ?_, ?_⟩
      · intro t' env' task' stop' ht h' hrun' hkind
        cases ht
        cases htask.symm.trans h'
        cases hrun.symm.trans hrun'
        rw [handle_loop hh]
        exact h.bit hok htask hrun hkind
      · intro t' env' line ht hline
        cases ht
        rw [handle_loop hh] at hline
        obtain ⟨c, ret, rfl, hl⟩ := h.line htask hrun hag hline
        exact ⟨task, c, ret, htask, hrun, hl⟩
      · intro x hx
        rw [← handle_released hh] at hx
        cases hrep : x.reported with
        | true => exact Or.inl rfl
        | false =>
          obtain ⟨hstop, c, how, rfl⟩ := h.handledStop hok hpark htask hrun hag hx hrep
          exact Or.inr ⟨hstop, t, env, task, c, how, rfl, htask, hrun⟩
    · refine ⟨?_, ?_, ?_⟩
      · intro t' env' task' stop' ht h' hrun' hkind
        cases ht
        cases htask.symm.trans h'
        cases hrun.symm.trans hrun'
      · intro t' env' line ht hline
        cases ht
        rw [handle_loop hh] at hline
        obtain ⟨hk, -⟩ := loopIter_line hline
        rw [waitKind_death] at hk
        cases hk
      · intro x hx
        rw [← handle_released hh] at hx
        exact Or.inl (h.handledDeath hpark htask hrun hx)

/-- The condition under which the phases stay right. -/
def PhasesKept (s : Sys) (l : Label) : Prop := Tracked s l ∧ WaitersHandled s l

theorem phase_parity (g : Globals) (s : Sys) (h : (tracer g).Reach PhasesKept s) (l : Label)
    (hok : PhasesKept s l) (s' : Sys) (released : List Release)
    (hs : s.stepObs g l = some (s', released)) : PhaseStep s l s' released := by
  have hinv : Parity s := parity_of_reach (fun s l hl => ⟨hl.1, hl.2.parked⟩) h
  exact hinv.phaseStep hok.1 hok.2 hs

/-- The moves that keep the phases right whatever the state. -/
def Sys.quietStep (g : Globals) (s : Sys) : Label → Option Sys
  | .move (.exec _) | .turn _ _ => none
  | l => s.step g l

theorem quietStep_kept {g : Globals} (s : Sys) (l : Label) (s' : Sys)
    (h : s.quietStep g l = some s') : PhasesKept s l ∧ s.step g l = some s' := by
  cases l with
  | move m =>
    cases m with
    | exec t => cases h
    | _ => exact ⟨⟨trivial, trivial⟩, h⟩
  | attached => exact ⟨⟨trivial, trivial⟩, h⟩
  | turn t env => cases h

def cloneCall : Call := ⟨56, .replicate 6 0⟩

def writeCall : Call := ⟨sysWrite, .replicate 6 0⟩

def Env.newTid (tid : Pid) : Env :=
  { Env.silent with geteventmsg := fun _ => some (tid.setWidth 64) }

def bareSys : Sys := .initial 100 (initialLoop none (fun _ => none) (fun _ => false) [])

def attachSteps : List Label := [.move (.attachStop 100), .attached]

/-- Task 100 waits at the entry of a `write`, and no capture is open. -/
def atWriteEntry (s : Sys) : Bool :=
  decide (s.tasks 100 = some ⟨100, false, .stopped (.syscallEntry writeCall) false⟩) &&
    s.loop.owner.isNone && (s.stepObs plainGlobals (.turn 100 (.regsAt (.entering sysWrite)))).isSome

theorem phase_parity_write_entry : ∃ s s' released,
    (tracer plainGlobals).Reach PhasesKept s ∧
      s.stepObs plainGlobals (.turn 100 (.regsAt (.entering sysWrite))) = some (s', released) ∧
      PhaseStep s (.turn 100 (.regsAt (.entering sysWrite))) s' released := by
  have hrun : ((attachSteps ++ [Label.move (.enter 100 writeCall)]).foldlM
      (Sys.quietStep plainGlobals) bareSys).any atWriteEntry = true := by decide
  obtain ⟨s, hs, hat⟩ := (Option.any_eq_true _ _).mp hrun
  have hreach : (tracer plainGlobals).Reach PhasesKept s :=
    System.Reach.of_foldlM quietStep_kept (.start ⟨100, _, _, _, _, rfl⟩) hs
  obtain ⟨hat, hsome⟩ := (Bool.and_eq_true _ _).mp hat
  obtain ⟨htask, hfree⟩ := (Bool.and_eq_true _ _).mp hat
  obtain ⟨⟨s', released⟩, hstep⟩ := Option.isSome_iff_exists.mp hsome
  have hkept : PhasesKept s (.turn 100 (.regsAt (.entering sysWrite))) := by
    refine ⟨fun task stop h' hrun => ?_, fun he => ?_⟩
    · cases (of_decide_eq_true htask).symm.trans h'
      cases hrun
      rfl
    · have howner := he.1
      rw [Option.isNone_iff_eq_none.mp hfree] at howner
      cases howner
  exact ⟨s, s', released, hreach, hstep,
    phase_parity plainGlobals s hreach _ hkept s' released hstep⟩

/-! ### A clone event handled late

Task 100 clones 101. The attach stop of 101 is reported before the clone event of
100, so 101 runs on to the entry stop of a `write`; then the clone event ends that
stop while it is pending, and the exit stop of the `write` is taken for an entry. -/

def lateClone : List Label := attachSteps ++
  [.move (.enter 100 cloneCall), .turn 100 (.regsAt (.entering 56)),
    .move (.spawn 100 101 .clone true), .move (.attachStop 101), .turn 101 .silent,
    .move (.group 101 .sigstop), .turn 101 .silent, .move (.enter 101 writeCall),
    .turn 100 (.newTid 101), .move (.complete 101 5)]

def writeExit : Env := .regsAt { UserRegs.entering sysWrite with rax := 5 }

/-- At the exit stop of 101 the bit of 101 gets set. -/
def bitSetAtExit (s : Sys) : Bool :=
  match s.tasks 101, s.stepObs plainGlobals (.turn 101 writeExit) with
  | some task, some (s', _) =>
    decide (task.run = .stopped (.syscallExit writeCall 5) false) &&
      (s'.loop.states 101).any (·.active)
  | _, _ => false

theorem phase_parity_late_clone : ¬ ∀ (s : Sys) (l : Label) (s' : Sys) (released : List Release),
    (tracer plainGlobals).Reachable s → s.stepObs plainGlobals l = some (s', released) →
      PhaseStep s l s' released := by
  intro hall
  have hrun : (lateClone.foldlM (Sys.step plainGlobals) bareSys).any bitSetAtExit = true := by decide
  obtain ⟨s, hs, hbit⟩ := (Option.any_eq_true _ _).mp hrun
  have hreach : (tracer plainGlobals).Reachable s :=
    System.Reachable.of_foldlM (.start ⟨100, _, _, _, _, rfl⟩) hs
  unfold bitSetAtExit at hbit
  split at hbit
  · rename_i task s' released htask hstep
    obtain ⟨hr, hact⟩ := (Bool.and_eq_true _ _).mp hbit
    have hrun := of_decide_eq_true hr
    obtain ⟨st, hst, hst'⟩ := (Option.any_eq_true _ _).mp hact
    have hp := hall s _ s' released hreach hstep
    obtain ⟨c, hc⟩ := (hp.bit 101 writeExit task _ rfl htask hrun rfl).mp ⟨st, hst, hst'⟩
    cases hc
  · cases hbit

end CudaTrace.Ptrace
