import CudaTrace.Ptrace.HandOver
import CudaTrace.Ptrace.Phase

/-!
# Capture completeness and exclusion

The automaton accepts every run in which the loop keeps track of the tasks. A thread
that executes while it is captured shows what goes wrong otherwise.
-/

namespace CudaTrace.Ptrace
open CudaTrace.Base CudaTrace.Fgraph

/-! ### The condition -/

/-- `Tracked`, with a new task in no stop at all but its attach stop when its parent's
event is handled, and the windows of held tasks still open when the capture ends. -/
def CapturesKept (s : Sys) : Label → Prop
  | .move m => Tracked s (.move m)
  | .attached => True
  | .turn t env =>
    Tracked s (.turn t env) ∧
    (∀ task c how child, s.tasks t = some task → task.run = .stopped (.newTask c how child) false →
      (env.geteventmsg t).isSome → ∀ other stop r, s.tasks child = some other →
        other.run = .stopped stop r → stop = .attach) ∧
    (EndsCapture s t → ∀ u, s.loop.Held u →
      0 < windowDepth (drained env s.loop).fgraphWindowByTid u)

/-! ### Runs -/

/-- The automaton is where the loop is. -/
structure Mirrors (m : CaptureMonitor) (s : LoopState) : Prop where
  owner : m.owner = s.owner
  phase : ∀ u, m.phase u = phaseOf (s.states u)

theorem Mirrors.follows {m : CaptureMonitor} {s : LoopState} (h : Mirrors m s) (t : Pid) :
    Follows t (phaseOf (s.states t)) m s := ⟨h.owner, h.phase t, fun u _ => h.phase u⟩

theorem Follows.mirrors {t : Pid} {m : CaptureMonitor} {s : LoopState}
    (h : Follows t (phaseOf (s.states t)) m s) : Mirrors m s := by
  constructor
  · exact h.owner
  · intro u
    by_cases hu : u = t
    · rw [hu]
      exact h.self
    · exact h.others u hu

structure Captures (s : Sys) : Prop where
  parity : Parity s
  healthy : s.loop.Healthy
  parked : ∀ u, s.loop.Held u → Parked s.tasks u
  outer : ∀ u st, s.loop.Held u → s.loop.states u = some st → st.internal = false

theorem Parked.stop {k : Tasks} {u : Pid} (h : Parked k u) {task : Task} {stop : Stop}
    (hk : k u = some task) (hr : task.run = .stopped stop false) : stop = .exit := by
  obtain ⟨task', hk', ⟨c, hr'⟩ | hd⟩ := h
  · cases hk.symm.trans hk'
    cases hr.symm.trans hr'
  · cases hk.symm.trans hk'
    rw [hr] at hd
    cases stop with
    | exit => rfl
    | _ => cases hd

/-- A parked task can only be killed. -/
theorem Parked.move {k k' : Tasks} {mv : Move} {u : Pid} (h : Parked k u)
    (hexec : ∀ t, mv = .exec t → ∀ task, k t = some task → task.tgid = t)
    (hm : k.move mv = some k') : Parked k' u := by
  obtain ⟨task, task', htask, hmove, hcase⟩ := move_cases hm
  obtain ⟨old, hold, hpark⟩ := h
  have hself : u = mv.task → Parked (Function.update k mv.task (some task')) u := by
    intro hu
    subst hu
    cases htask.symm.trans hold
    refine ⟨task', Function.update_self _ _ _, Or.inr ?_⟩
    rcases (Task.move_run hmove).2 with ⟨stop, hr, -⟩ | ⟨c, stop, hr, -⟩ | ⟨-, hr'⟩ | ⟨death, hr'⟩
    · rcases hpark with ⟨c, hp⟩ | hp
      · cases hr.symm.trans hp
      · rw [hr] at hp
        cases hp
    · rcases hpark with ⟨c, hp⟩ | hp
      · cases hr.symm.trans hp
      · rw [hr] at hp
        cases hp
    · rw [hr']
      rfl
    · rw [hr']
      rfl
  have hother : ∀ r, u ≠ mv.task → Function.update k mv.task r u = some old := by
    intro r hu
    rw [Function.update_of_ne hu]
    exact hold
  rcases hcase with ⟨rfl, -, -⟩ | ⟨t, child, how, thread, tgid, rfl, hc, rfl⟩ |
    ⟨t, leader, death, rfl, hne, -⟩
  · by_cases hu : u = mv.task
    · exact hself hu
    · exact ⟨old, hother _ hu, hpark⟩
  · have huc : u ≠ child := by
      rintro rfl
      rw [hc] at hold
      cases hold
    unfold Parked
    rw [Function.update_of_ne huc]
    by_cases hu : u = t
    · exact hself hu
    · exact ⟨old, hother _ hu, hpark⟩
  · exact absurd (hexec t rfl task htask) hne

/-- The automaton accepts `es` and is then where the loop of `s'` is. -/
def Carried (m : CaptureMonitor) (es : List CaptureEvent) (s' : Sys) : Prop :=
  ∃ m', es.foldlM CaptureEvent.accept m = some m' ∧ Mirrors m' s'.loop ∧ Captures s'

section Turn

variable {g : Globals} {s : Sys} {t : Pid} {env : Env} {m : CaptureMonitor}

theorem Captures.waitersParked (h : Captures s) (l : Label) : WaitersParked s l := by
  cases l with
  | turn t env => exact fun _ u task stop hu htask hr => (h.parked u hu).stop htask hr
  | _ => trivial

/-- After the pipes are drained. -/
theorem Captures.after_drain (h : Captures s) (hm : Mirrors m s.loop) (env : Env) (t : Pid) :
    (drained env s.loop).Healthy ∧
      Follows t (phaseOf (s.loop.states t)) m (drained env s.loop) :=
  ⟨h.healthy.congr rfl, (hm.follows t).congr rfl fun _ _ => rfl⟩

theorem Captures.wanted (h : Captures s) (hok : CapturesKept s (.turn t env)) {task : Task}
    (htask : s.tasks t = some task)
    (hends : (∃ c ret, task.run = .stopped (.syscallExit c ret) false) ∨
      ∃ death, task.run = .zombie death)
    (ho : (drained env s.loop).owner = some t) :
    (drained env s.loop).WaitersWanted := by
  intro u st hu hst
  exact ⟨h.outer u st hu hst, hok.2.2 ⟨ho, task, htask, hends⟩ u hu⟩

/-- The state after a turn, from what it does to the automaton and to the task it is for. -/
theorem Captures.handle (h : Captures s) {status : I32} {k : Tasks} {woken : List Pid}
    {own : List (Pid × I32)} {es : List CaptureEvent}
    (ht : Turned t (drained env s.loop) (loopIter g env t status s.loop) woken own)
    (hother : ∀ u, u ≠ t → k u = s.tasks u)
    (hown : ∀ u, u ∈ own.map Prod.fst → u ≠ t → ∀ task stop r, s.tasks u = some task →
      task.run = .stopped stop r → stop = .attach)
    (hpar : Parity (s.handle g t env status k).1)
    (hset : Settled t es m (loopIter g env t status s.loop))
    (hself : (loopIter g env t status s.loop).Held t →
      Parked (s.handle g t env status k).1.tasks t ∧
        ∀ st, (loopIter g env t status s.loop).states t = some st → st.internal = false) :
    Carried m es (s.handle g t env status k).1 := by
  obtain ⟨m', hacc, hf⟩ := hset.accepts
  refine ⟨m', hacc, hf.mirrors, hpar, hset.healthy, ?_, ?_⟩
  · intro u hu
    by_cases hut : u = t
    · subst hut
      exact (hself hu).1
    · obtain ⟨hold, hw⟩ := ht.held_after hut hu
      obtain ⟨task, htask, hpark⟩ := h.parked u hold
      refine ⟨task, ?_, hpark⟩
      rw [handle_tasks ht u, hother u hut, htask]
      split
      · rename_i hm
        rcases hm with hm | hm
        · exact absurd hm hw
        · -- a parked task is in no attach stop, so the request finds it dying and not stopped
          have hrel : task.released = task := by
            apply Task.released_of_not_stopped
            intro stop r hr
            have hatt := hown u hm hut task stop r htask hr
            subst hatt
            rcases hpark with ⟨c, hp⟩ | hp
            · cases hr.symm.trans hp
            · rw [hr] at hp
              cases hp
          rw [Option.map_some, hrel]
      · rfl
  · intro u st hu hst
    by_cases hut : u = t
    · subst hut
      exact (hself hu).2 st hst
    · obtain ⟨hold, hw⟩ := ht.held_after hut hu
      have hsame : (s.handle g t env status k).1.loop.states u = s.loop.states u :=
        ht.others u hut hw
      exact h.outer u st hold (hsame.symm.trans hst)

/-- A turn that leaves records and capture alone. -/
theorem Captures.quiet (h : Captures s) (hm : Mirrors m s.loop) {status : I32} {k : Tasks}
    (hstates : (loopIter g env t status s.loop).states = s.loop.states)
    (howner : (loopIter g env t status s.loop).owner = s.loop.owner)
    (hc : (loopIter g env t status s.loop).fgraphController = s.loop.fgraphController)
    (hq : Quiet k (loopIter g env t status s.loop).out) :
    Settled t (k.captureEvents (loopIter g env t status s.loop).out) m
      (loopIter g env t status s.loop) := by
  constructor
  · refine ⟨m, by rw [hq.captureEvents]; rfl, ?_⟩
    rw [hstates]
    apply (hm.follows t).congr howner
    intro u _
    rw [hstates]
  · exact h.healthy.congr hc

theorem Captures.entry (h : Captures s) (hm : Mirrors m s.loop) (hok : CapturesKept s (.turn t env))
    {task : Task} {c : Call} (htask : s.tasks t = some task)
    (hrun : task.run = .stopped (.syscallEntry c) false)
    (hpar : Parity (s.handle g t env (Stop.syscallEntry c).status
      (s.tasks.report t task (.syscallEntry c))).1) :
    Carried m (.entered t (s.wants t env) :: (s.tasks.report t task (.syscallEntry c)).captureEvents
        (loopIter g env t (Stop.syscallEntry c).status s.loop).out)
      (s.handle g t env (Stop.syscallEntry c).status (s.tasks.report t task (.syscallEntry c))).1 := by
  obtain ⟨regs, hregs⟩ := Option.isSome_iff_exists.mp (hok.1 task _ htask hrun)
  have hidle := h.parity.clear htask hrun
  have hkind := waitKind_status (.syscallEntry c)
  have hact : ((s.loop.states t).getD (.default env.instantNow)).active = false := by
    cases hst : s.loop.states t with
    | none => rfl
    | some st => exact hidle st hst
  have hrun' : loopIter g env t (Stop.syscallEntry c).status s.loop = onEntry g env t regs
      ((s.loop.states t).getD (.default env.instantNow)) (drained env s.loop) := by
    simp only [loopIter_eq, hkind, Stop.kind, onSyscallStop, hregs]
    exact if_pos (by rw [Bool.not_eq_true']; exact hact)
  have hwants : s.wants t env = (!isInternalSyscall env t regs s.loop.cudatraceRanges &&
      decide (0 < windowDepth (drained env s.loop).fgraphWindowByTid t)) := by
    rw [Sys.wants, hregs]
    rfl
  obtain ⟨state, w, b, ht, hst⟩ := loopIter_entry g env t h.parity.consistent hkind hregs hidle
  obtain ⟨hh, hf⟩ := h.after_drain hm env t
  rw [phaseOf_clear hidle] at hf
  have hreport : s.tasks.report t task (.syscallEntry c) t =
      some { task with run := .stopped (.syscallEntry c) true } := Function.update_self _ _ _
  have hset := @onEntry_settled g env t m (drained env s.loop) _ regs
    ((s.loop.states t).getD (.default env.instantNow)) hf hh rfl _ _ hreport rfl
  rw [hwants]
  apply h.handle ht (fun u hu => Function.update_of_ne hu _ _)
  · intro u hu hut
    cases w with
    | true => cases hu
    | false => exact absurd (List.mem_singleton.mp hu) hut
  · exact hpar
  · rw [hrun']
    exact hset
  · intro hheld
    obtain ⟨st, hst', -, hwait⟩ := hheld.record
    constructor
    · cases hst.symm.trans hst'
      cases hwait
      rw [Parked, handle_self_kept ht List.not_mem_nil]
      exact ⟨_, hreport, Or.inl ⟨c, rfl⟩⟩
    · intro st₂ h₂
      cases hst'.symm.trans h₂
      rw [hrun'] at hst'
      exact onEntry_outer hst' hwait

theorem Captures.exit (h : Captures s) (hm : Mirrors m s.loop) (hok : CapturesKept s (.turn t env))
    {task : Task} {c : Call} {ret : I64} (htask : s.tasks t = some task)
    (hrun : task.run = .stopped (.syscallExit c ret) false)
    (hpar : Parity (s.handle g t env (Stop.syscallExit c ret).status
      (s.tasks.report t task (.syscallExit c ret))).1) :
    Carried m ((s.tasks.report t task (.syscallExit c ret)).captureEvents
        (loopIter g env t (Stop.syscallExit c ret).status s.loop).out ++ [.left t])
      (s.handle g t env (Stop.syscallExit c ret).status
        (s.tasks.report t task (.syscallExit c ret))).1 := by
  obtain ⟨regs, hregs⟩ := Option.isSome_iff_exists.mp (hok.1 task _ htask hrun)
  obtain ⟨state, hst, hact, -⟩ := h.parity.onRecord htask hrun
  have hkind := waitKind_status (.syscallExit c ret)
  obtain ⟨hrun', woken, ht, hst'⟩ := loopIter_exit g env t h.parity.consistent hkind hregs hst hact
  obtain ⟨hh, hf⟩ := h.after_drain hm env t
  have hheld : ¬ s.loop.Held t := by
    intro hheld
    cases (h.parked t hheld).stop htask hrun
  have hreport : ∀ u, u ≠ t → s.tasks.report t task (.syscallExit c ret) u = s.tasks u :=
    fun u hu => Function.update_of_ne hu _ _
  apply h.handle ht hreport
  · intro u hu hut
    exact absurd (List.mem_singleton.mp hu) hut
  · exact hpar
  · rw [hrun']
    apply onExit_settled (h.parity.consistent.drained env) hst hact hheld hf hh rfl
      (h.wanted hok htask (Or.inl ⟨c, ret, hrun⟩))
    · intro u hut hu
      rw [Parked, hreport u hut]
      exact h.parked u hu
    · intro task' c' r hk hr
      rw [Tasks.report, Function.update_self] at hk
      cases hk
      cases hr
  · intro hheld'
    obtain ⟨st, h₂, hact₂, -⟩ := hheld'.record
    rw [hst'] at h₂
    cases h₂
    cases hact₂

theorem Captures.gone (h : Captures s) (hm : Mirrors m s.loop) (hok : CapturesKept s (.turn t env))
    {task : Task} {death : Death} (htask : s.tasks t = some task) (hrun : task.run = .zombie death)
    (hpar : Parity (s.handle g t env death.status (Function.update s.tasks t none)).1) :
    Carried m (Tasks.captureEvents (Function.update s.tasks t none)
        (loopIter g env t death.status s.loop).out ++ [.gone t])
      (s.handle g t env death.status (Function.update s.tasks t none)).1 := by
  have hkind := waitKind_death death
  obtain ⟨woken, ht, hst'⟩ := loopIter_gone g env t h.parity.consistent hkind
  obtain ⟨hh, hf⟩ := h.after_drain hm env t
  have hrun' : loopIter g env t death.status s.loop = onGone g t (drained env s.loop) := by
    rw [loopIter_eq, hkind]
  have hother : ∀ u, u ≠ t → Function.update s.tasks t none u = s.tasks u :=
    fun u hu => Function.update_of_ne hu _ _
  apply h.handle ht hother nofun hpar
  · rw [hrun']
    apply onGone_settled (h.parity.consistent.drained env) hf hh rfl
      (h.wanted hok htask (Or.inr ⟨death, hrun⟩))
    intro u hut hu
    rw [Parked, hother u hut]
    exact h.parked u hu
  · intro hheld
    obtain ⟨st, h₂, -⟩ := hheld.record
    rw [hst'] at h₂
    cases h₂

/-- A turn for a stop that is neither an entry nor an exit. -/
theorem Captures.pause (h : Captures s) (hm : Mirrors m s.loop) (hok : CapturesKept s (.turn t env))
    {task : Task} {stop : Stop} (htask : s.tasks t = some task) (hrun : task.run = .stopped stop false)
    (hag : env.agrees t stop = true) (hk : stop.kind ≠ .syscallStop)
    (hpar : Parity (s.handle g t env stop.status (s.tasks.report t task stop)).1) :
    Carried m ((s.tasks.report t task stop).captureEvents (loopIter g env t stop.status s.loop).out)
      (s.handle g t env stop.status (s.tasks.report t task stop)).1 := by
  have hkind := waitKind_status stop
  have hreport : ∀ u, u ≠ t → s.tasks.report t task stop u = s.tasks u :=
    fun u hu => Function.update_of_ne hu _ _
  -- the task itself is in no entry stop
  have hself : ∀ task' c r, s.tasks.report t task stop t = some task' →
      task'.run ≠ .stopped (.syscallEntry c) r := by
    intro task' c r h' hr
    rw [Tasks.report, Function.update_self] at h'
    cases h'
    cases hr
    exact hk rfl
  have hdone : ∀ own : List (Pid × I32),
      Turned t (drained env s.loop) (loopIter g env t stop.status s.loop) [] own →
      (loopIter g env t stop.status s.loop).states = s.loop.states → t ∈ own.map Prod.fst →
      (loopIter g env t stop.status s.loop).owner = s.loop.owner →
      (loopIter g env t stop.status s.loop).fgraphController = s.loop.fgraphController →
      Quiet (s.tasks.report t task stop) (loopIter g env t stop.status s.loop).out →
      (∀ u, u ∈ own.map Prod.fst → u ≠ t → ∀ task stop r, s.tasks u = some task →
        task.run = .stopped stop r → stop = .attach) →
      Carried m ((s.tasks.report t task stop).captureEvents
          (loopIter g env t stop.status s.loop).out)
        (s.handle g t env stop.status (s.tasks.report t task stop)).1 := by
    intro own ht hstates hmem ho hc hq hown
    apply h.handle ht hreport hown hpar (h.quiet hm hstates ho hc hq)
    intro hheld
    have hold : s.loop.Held t := (isHeld_congr (congrFun hstates t)).symm.trans hheld
    have hexit := (h.parked t hold).stop htask hrun
    constructor
    · refine ⟨_, handle_self task stop ht hmem, Or.inr ?_⟩
      rw [hexit]
      rfl
    · intro st hst
      rw [hstates] at hst
      exact h.outer t st hold hst
  -- the turns that resume the task and do nothing else
  have hplain : ∀ sig : I32, (loopIter g env t stop.status s.loop).out = [.resume t sig] →
      Turned t (drained env s.loop) (loopIter g env t stop.status s.loop) [] [(t, sig)] →
      (loopIter g env t stop.status s.loop).states = s.loop.states →
      (loopIter g env t stop.status s.loop).owner = s.loop.owner →
      (loopIter g env t stop.status s.loop).fgraphController = s.loop.fgraphController →
      Carried m ((s.tasks.report t task stop).captureEvents
          (loopIter g env t stop.status s.loop).out)
        (s.handle g t env stop.status (s.tasks.report t task stop)).1 := by
    intro sig hout ht hstates ho hc
    apply hdone _ ht hstates List.mem_cons_self ho hc
    · intro x hx
      rw [hout] at hx
      exact Or.inr ⟨t, sig, List.mem_singleton.mp hx, hself⟩
    · intro u hu hut
      exact absurd (List.mem_singleton.mp hu) hut
  cases hkd : stop.kind with
  | gone => cases stop <;> cases hkd
  | notStopped => cases stop <;> cases hkd
  | syscallStop => exact absurd hkd hk
  | exec =>
    rw [hkd] at hkind
    obtain ⟨ht, hstates⟩ := loopIter_exec g env t h.parity.consistent hkind
    have hrun' : loopIter g env t stop.status s.loop = onExec env t (drained env s.loop) := by
      rw [loopIter_eq, hkind]
    exact hplain 0 (by rw [hrun']; rfl) ht hstates (by rw [hrun']; rfl) (by rw [hrun']; rfl)
  | otherStop sig =>
    rw [hkd] at hkind
    obtain ⟨ht, hstates⟩ := loopIter_other g env t h.parity.consistent hkind
    have hrun' : loopIter g env t stop.status s.loop = (drained env s.loop).emit (.resume t sig) := by
      rw [loopIter_eq, hkind]
    exact hplain sig (by rw [hrun']; rfl) ht hstates (by rw [hrun']; rfl) (by rw [hrun']; rfl)
  | newTask =>
    rw [hkd] at hkind
    obtain ⟨ht, hstates⟩ := loopIter_newTask g env t h.parity.consistent hkind
    have hrun' : loopIter g env t stop.status s.loop = onNewTask env t (drained env s.loop) := by
      rw [loopIter_eq, hkind]
    cases hmsg : env.geteventmsg t with
    | none =>
      rw [hmsg] at ht
      have hrun₂ : onNewTask env t (drained env s.loop) =
          (drained env s.loop).emit (.resume t 0) := by simp only [onNewTask, hmsg]
      rw [hrun₂] at hrun'
      exact hplain 0 (by rw [hrun']; rfl) ht hstates (by rw [hrun']; rfl) (by rw [hrun']; rfl)
    | some msg =>
      rw [hmsg] at ht
      obtain ⟨c, how, child, rfl⟩ : ∃ c how child, stop = .newTask c how child := by
        cases stop with
        | newTask c how child => exact ⟨c, how, child, rfl⟩
        | _ => cases hkd
      have hchild : msg.setWidth 32 = child := by
        have hm' : msg = child.setWidth 64 := by simpa [Env.agrees, hmsg] using hag
        rw [hm']
        exact BitVec.setWidth_setWidth_of_le child (by decide)
      have hrun₂ : onNewTask env t (drained env s.loop) =
          (((drained env s.loop).emit (.setOptions child)).emit (.resume child 0)).emit
            (.resume t 0) := by simp only [onNewTask, hmsg, hchild]
      rw [hrun₂] at hrun'
      dsimp only at ht
      rw [hchild] at ht
      have hnew := hok.2.1 task c how child htask hrun (by rw [hmsg]; rfl)
      apply hdone _ ht hstates (by simp) (by rw [hrun']; rfl) (by rw [hrun']; rfl)
      · intro x hx
        rw [hrun'] at hx
        simp only [LoopState.emit, drained, List.nil_append, List.cons_append, List.mem_cons,
          List.not_mem_nil, or_false] at hx
        rcases hx with rfl | rfl | rfl
        · exact Or.inl ⟨child, rfl⟩
        · refine Or.inr ⟨child, 0, rfl, ?_⟩
          intro task' c' r h' hr
          by_cases hct : child = t
          · exact hself task' c' r ((congrArg _ hct.symm).trans h') hr
          · rw [hreport child hct] at h'
            cases hnew task' _ r h' hr
        · exact Or.inr ⟨t, 0, rfl, hself⟩
      · intro u hu hut task' stop' r h' hr
        have huc : u = child := by
          rcases List.mem_cons.mp hu with hu | hu
          · exact hu
          · exact absurd (List.mem_singleton.mp hu) hut
        subst huc
        exact hnew task' stop' r h' hr

theorem Captures.turn {s' : Sys} {released : List Release} (h : Captures s) (hm : Mirrors m s.loop)
    (hok : CapturesKept s (.turn t env)) (hs : s.stepObs g (.turn t env) = some (s', released)) :
    Carried m (captureEvents g s (.turn t env) s') s' := by
  have hpar := h.parity.turn hok.1 (h.waitersParked _) hs
  obtain ⟨-, task, htask, ⟨stop, hrun, hag, hh⟩ | ⟨death, hrun, hh⟩⟩ := turn_cases hs
  · obtain rfl : (s.handle g t env stop.status (s.tasks.report t task stop)).1 = s' := by rw [hh]
    simp only [captureEvents, htask, hrun]
    cases stop with
    | syscallEntry c => exact h.entry hm hok htask hrun hpar
    | syscallExit c ret => exact h.exit hm hok htask hrun hpar
    | _ => exact h.pause hm hok htask hrun hag nofun hpar
  · obtain rfl : (s.handle g t env death.status (Function.update s.tasks t none)).1 = s' := by
      rw [hh]
    simp only [captureEvents, htask, hrun]
    exact h.gone hm hok htask hrun hpar

end Turn

theorem Captures.move {g : Globals} {s : Sys} {m : CaptureMonitor} {mv : Move} {k : Tasks} (h : Captures s)
    (hm : Mirrors m s.loop) (hok : Tracked s (.move mv)) (hk : s.tasks.move mv = some k) :
    Carried m (captureEvents g s (.move mv) { s with tasks := k }) { s with tasks := k } := by
  have hexec : ∀ t, mv = .exec t → ∀ task, s.tasks t = some task → task.tgid = t := by
    intro t ht
    subst ht
    exact hok
  have hev : captureEvents g s (.move mv) { s with tasks := k } = [] := by
    cases mv with
    | exec t =>
      cases ht : s.tasks t with
      | none => simp only [captureEvents, ht]
      | some task => simp only [captureEvents, ht, hexec t rfl task ht, if_true]
    | _ => rfl
  rw [hev]
  refine ⟨m, rfl, hm, h.parity.move hexec hk, h.healthy, ?_, h.outer⟩
  intro u hu
  exact (h.parked u hu).move hexec hk

theorem Captures.attached {g : Globals} {s s' : Sys} {m : CaptureMonitor} {released : List Release}
    (h : Captures s) (hm : Mirrors m s.loop) (hs : s.stepObs g .attached = some (s', released)) :
    Carried m (captureEvents g s .attached s') s' := by
  have hpar := h.parity.attached hs
  have hev : captureEvents g s .attached s' = released.flatMap Release.ran := by
    simp only [captureEvents, hs]
  obtain ⟨hb, task, stop, htask, hrun, rfl, rfl⟩ := attached_cases hs
  rw [hev, ran_other]
  · refine ⟨m, rfl, hm, hpar, h.healthy, ?_, h.outer⟩
    intro u hu
    by_cases hut : u = s.target
    · subst hut
      have hexit := (h.parked _ hu).stop htask hrun
      refine ⟨{ task with run := stop.resumed }, ?_, Or.inr ?_⟩
      · dsimp only
        rw [resume_tasks, if_pos rfl, Tasks.report, Function.update_self]
        rfl
      · rw [hexit]
        rfl
    · obtain ⟨other, ho, hpark⟩ := h.parked u hu
      refine ⟨other, ?_, hpark⟩
      dsimp only
      rw [resume_tasks, if_neg hut, Tasks.report, Function.update_of_ne hut]
      exact ho
  · intro other c r ho hr
    rw [Tasks.report, Function.update_self] at ho
    cases ho
    cases hr
    have hin := (h.parity.booting hb s.target task htask).1
    rw [hrun] at hin
    cases hin

theorem capture_step {g : Globals} {s s' : Sys} {m : CaptureMonitor} {l : Label} (h : Captures s)
    (hm : Mirrors m s.loop) (hok : CapturesKept s l) (hs : s.step g l = some s') :
    Carried m (captureEvents g s l s') s' := by
  obtain ⟨⟨s₁, released⟩, hobs, rfl⟩ := Option.map_eq_some_iff.mp hs
  cases l with
  | move mv =>
    obtain ⟨k, hk, he⟩ := Option.map_eq_some_iff.mp hobs
    cases he
    exact h.move hm hok hk
  | attached => exact h.attached hm hobs
  | turn t env => exact h.turn hm hok hobs

/-- The tracer with function-graph capture on a tracefs that never fails. -/
def captureTracer (g : Globals) : System Sys Label :=
  System.ofPartial (fun s => sysStart s ∧ s.loop.Healthy) (Sys.step g)

theorem capture_start {s : Sys} (hs : sysStart s) (hh : s.loop.Healthy) :
    Captures s ∧ Mirrors .initial s.loop := by
  have hpar := Parity.start hs
  obtain ⟨target, controller, fdPaths, hiddenFds, ranges, rfl⟩ := hs
  constructor
  · exact ⟨hpar, hh, fun u hu => (by cases hu), fun u st hu => (by cases hu)⟩
  · exact ⟨rfl, fun _ => rfl⟩

/-- The automaton accepts the run; its owner is the task of the open capture, which still
exists, and a wanted call waits only for the end of that capture. -/
theorem capture_completeness (g : Globals) (s : Sys) (w : List CaptureEvent)
    (h : (captureTracer g).Trace CapturesKept (captureEvents g) s w) :
    ∃ m, w.foldlM CaptureEvent.accept .initial = some m ∧ m.owner = s.loop.owner ∧
      (∀ t, m.owner = some t → ∃ task, s.tasks t = some task) ∧
      ∀ t, m.phase t = .wanted → ∃ o, m.owner = some o ∧ o ≠ t := by
  obtain ⟨m, hacc, hc, hm⟩ := h.monitor (R := fun s m => Captures s ∧ Mirrors m s.loop)
    (fun s (hs : sysStart s ∧ s.loop.Healthy) => capture_start hs.1 hs.2)
    (fun s m l s' hR hok hs => by
      obtain ⟨m', hacc, hm', hc'⟩ := capture_step hR.1 hR.2 hok hs
      exact ⟨m', hacc, hc', hm'⟩)
  refine ⟨m, hacc, hm.owner, ?_, ?_⟩
  · intro t ht
    cases htask : s.tasks t with
    | some task => exact ⟨task, rfl⟩
    | none =>
      have hnone := hc.parity.untracked t htask
      obtain ⟨st, hst, -⟩ := (hc.parity.consistent.capturing t).mpr (hm.owner.symm.trans ht)
      rw [hnone] at hst
      cases hst
  · intro t ht
    have hheld := phaseOf_wanted.mp ((hm.phase t).symm.trans ht)
    have hwait : t ∈ s.loop.arbiter.queue :=
      mem_waiters.mpr ⟨hc.parity.consistent.queued t hheld, hheld⟩
    obtain ⟨o, ho, hne⟩ := hc.parity.consistent.fair.blocked_by_owner hwait
    exact ⟨o, hm.owner.trans ho, hne⟩

/-- The syscall stops of the run that are handled while no capture is open. -/
def Sys.freeStep (g : Globals) (s : Sys) (l : Label) : Option Sys :=
  match l with
  | .move (.exec _) => none
  | .turn t env =>
    if (s.tasks t).any (fun task => task.run matches .stopped (.syscallEntry _) _) &&
        (env.getregs t).isSome && s.loop.owner.isNone then s.step g l
    else none
  | _ => s.step g l

theorem freeStep_kept {g : Globals} (s : Sys) (l : Label) (s' : Sys) (h : s.freeStep g l = some s') :
    CapturesKept s l ∧ s.step g l = some s' := by
  cases l with
  | move mv =>
    cases mv with
    | exec t => cases h
    | _ => exact ⟨trivial, h⟩
  | attached => exact ⟨trivial, h⟩
  | turn t env =>
    simp only [Sys.freeStep] at h
    split at h
    · rename_i hand
      obtain ⟨hand, hfree⟩ := (Bool.and_eq_true _ _).mp hand
      obtain ⟨hentry, hregs⟩ := (Bool.and_eq_true _ _).mp hand
      obtain ⟨task, htask, hentry⟩ := (Option.any_eq_true _ _).mp hentry
      refine ⟨⟨?_, ?_, ?_⟩, h⟩
      · intro task' stop h' hr
        cases htask.symm.trans h'
        rw [hr] at hentry
        cases stop with
        | syscallEntry c => exact hregs
        | _ => cases hentry
      · intro task' c how child h' hr
        cases htask.symm.trans h'
        rw [hr] at hentry
        cases hentry
      · intro he
        have howner := he.1
        rw [Option.isNone_iff_eq_none.mp hfree] at howner
        cases howner
    · cases h

def openSys : Sys := .initial 100 idleLoop

theorem openSys_start : (captureTracer plainGlobals).start openSys :=
  ⟨⟨100, _, _, _, _, rfl⟩, _, rfl, fun _ => ⟨_, rfl⟩⟩

/-- The steps of `ls` with what happens to captures. -/
def captureRun (step : Sys → Label → Option Sys) (ls : List Label) :
    Option (Sys × List CaptureEvent) :=
  ls.foldlM (fun p l => (step p.1 l).map fun s' =>
    (s', p.2 ++ captureEvents plainGlobals p.1 l s')) (openSys, [])

theorem capture_completeness_write : ∃ s w, (captureTracer plainGlobals).Trace CapturesKept
      (captureEvents plainGlobals) s w ∧ w = [.entered 100 true, .began 100, .ran 100] ∧
    ∃ m, w.foldlM CaptureEvent.accept .initial = some m ∧ m.owner = s.loop.owner ∧
      (∀ t, m.owner = some t → ∃ task, s.tasks t = some task) ∧
      ∀ t, m.phase t = .wanted → ∃ o, m.owner = some o ∧ o ≠ t := by
  have hrun : (captureRun (Sys.freeStep plainGlobals)
      (attachSteps ++ [.move (.enter 100 writeCall), .turn 100 (writeEntry 100).env])).any
      (fun p => decide (p.2 = [.entered 100 true, .began 100, .ran 100])) = true := by decide
  obtain ⟨⟨s, w⟩, hs, hw⟩ := (Option.any_eq_true _ _).mp hrun
  have htrace := System.Trace.of_foldlM freeStep_kept (.start
    (S := captureTracer plainGlobals) (s := openSys) openSys_start) hs
  exact ⟨s, w, htrace, of_decide_eq_true hw, capture_completeness plainGlobals s w htrace⟩

/-! ### A thread that executes while it is captured

Thread 101 enters `execve` inside a window and is captured. The leader 100 is dead when
the exec takes place, so 101 goes on as 100 and no exit of 101 is ever reported. -/

def execCall : Call := ⟨59, .replicate 6 0⟩

def threadExec : List Label := attachSteps ++
  [.move (.enter 100 cloneCall), .turn 100 (.regsAt (.entering 56)),
    .move (.spawn 100 101 .clone true), .move (.attachStop 101), .turn 100 (.newTid 101),
    .move (.enter 101 execCall),
    .turn 101 { Env.regsAt (.entering 59) with windowRecords := [openWindow 101] },
    .move (.die 100 (.exited 0)), .move (.exec 101)]

theorem capture_completeness_exec : ¬ ∀ (s : Sys) (w : List CaptureEvent),
    (captureTracer plainGlobals).Trace (fun _ _ => True) (captureEvents plainGlobals) s w →
      ∃ m, w.foldlM CaptureEvent.accept .initial = some m := by
  intro hall
  have hrun : (captureRun (Sys.step plainGlobals) threadExec).any
      (fun p => (p.2.foldlM CaptureEvent.accept .initial).isNone) = true := by decide
  obtain ⟨⟨s, w⟩, hs, hw⟩ := (Option.any_eq_true _ _).mp hrun
  have htrace := System.Trace.of_foldlM (fun _ _ _ hf => ⟨trivial, hf⟩) (.start
    (S := captureTracer plainGlobals) (s := openSys) openSys_start) hs
  obtain ⟨m, hm⟩ := hall s w htrace
  rw [hm] at hw
  cases hw

end CudaTrace.Ptrace
