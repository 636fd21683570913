import CudaTrace.Ptrace.Phase
import CudaTrace.TraceFiles

/-!
# Open trace files over a run (ptrace.rs)

The loop writes lines for the task it handles, and closes the file of a task that is gone.
A thread that executes a program while it is not the leader gives its id up without an
exit, and its file stays open.
-/

namespace CudaTrace.Ptrace
open CudaTrace.Base CudaTrace.Fgraph

/-- A call into the writer. -/
inductive SinkCall where
  | line (tid : Pid)
  | close (tid : Pid)
  deriving DecidableEq

def Action.sinkCall? : Action → Option SinkCall
  | .line l => some (.line l.tid)
  | .closeSink tid => some (.close tid)
  | _ => none

def FileLabel.sinkCall? : FileLabel → Option SinkCall
  | .writeLine tid _ _ => some (.line tid)
  | .closeTid tid => some (.close tid)
  | _ => none

def sinkCalls (actions : List Action) : List SinkCall := actions.filterMap Action.sinkCall?

def applySinkCall (opened : Pid → Bool) : SinkCall → Pid → Bool
  | .line tid => Function.update opened tid true
  | .close tid => Function.update opened tid false

/-- The tasks whose last call was a line. -/
def openSinks (calls : List SinkCall) : Pid → Bool := calls.foldl applySinkCall fun _ => false

/-! ### Calls -/

theorem foldl_applySinkCall {calls : List SinkCall} {opened : Pid → Bool} {t : Pid}
    (h : calls.foldl applySinkCall opened t = true) : opened t = true ∨ .line t ∈ calls := by
  induction calls generalizing opened with
  | nil => exact Or.inl h
  | cons c calls ih =>
    rcases ih h with h | h
    · cases c with
      | line u =>
        by_cases ht : t = u
        · exact Or.inr (ht ▸ List.mem_cons_self)
        · rw [applySinkCall, Function.update_of_ne ht] at h
          exact Or.inl h
      | close u =>
        by_cases ht : t = u
        · rw [applySinkCall, ht, Function.update_self] at h
          cases h
        · rw [applySinkCall, Function.update_of_ne ht] at h
          exact Or.inl h
    · exact Or.inr (List.mem_cons_of_mem _ h)

theorem foldl_applySinkCall_close {calls : List SinkCall} (opened : Pid → Bool) {t : Pid}
    (hclose : .close t ∈ calls) (hline : .line t ∉ calls) : calls.foldl applySinkCall opened t = false := by
  obtain ⟨before, after, rfl⟩ := List.append_of_mem hclose
  rw [List.foldl_append, List.foldl_cons, Bool.eq_false_iff]
  intro h
  rcases foldl_applySinkCall h with h | h
  · rw [applySinkCall, Function.update_self] at h
    cases h
  · exact hline (List.mem_append_right _ (List.mem_cons_of_mem _ h))

/-! ### The writer -/

namespace TraceFiles

theorem writeLine_lookup {s s' : TraceFiles} {tid : Pid} {line : String} {a : LineAnswers} {fate : Fate}
    (h : s.writeLine tid line a = some (s', fate)) {t : Pid} (ht : t ≠ tid) :
    s'.writer.fds.lookup t = s.writer.fds.lookup t := by
  have hprint : ∀ {s₁ : TraceFiles} {data cut : Bytes}, s₁.print a data cut = some (s', fate) →
      s'.writer = s₁.writer := by
    intro s₁ data cut hs₁
    obtain ⟨x, -, he⟩ := Option.map_eq_some_iff.mp hs₁
    exact (congrArg TraceFiles.writer (Prod.mk.inj he).1).symm
  unfold writeLine at h
  dsimp only at h
  cases hout : s.writer.output with
  | stdout =>
    rw [hout] at h
    rw [hprint h]
  | file =>
    rw [hout] at h
    obtain ⟨⟨s₁, fd⟩, hfd, hrest⟩ := Option.bind_eq_some_iff.mp h
    have hopened : s₁.writer.fds.lookup t = s.writer.fds.lookup t := by
      unfold fdForTid at hfd
      split at hfd
      · obtain ⟨rfl, -⟩ := Prod.mk.inj (Option.some.inj hfd)
        rfl
      · dsimp only at hfd
        split_ifs at hfd
        · obtain ⟨rfl, -⟩ := Prod.mk.inj (Option.some.inj hfd)
          rfl
        · obtain ⟨rfl, -⟩ := Prod.mk.inj (Option.some.inj hfd)
          rfl
        · obtain ⟨rfl, -⟩ := Prod.mk.inj (Option.some.inj hfd)
          exact AList.lookup_insert_ne ht
    rw [← hopened]
    cases fd with
    | none => rw [hprint hrest]
    | some fd =>
      obtain ⟨x, -, hrest⟩ := Option.bind_eq_some_iff.mp hrest
      dsimp only at hrest
      split at hrest
      · obtain ⟨rfl, -⟩ := Prod.mk.inj (Option.some.inj hrest)
        rfl
      · rw [hprint hrest]

/-- What the writer's map holds when `opened` does. -/
def Within (s : TraceFiles) (opened : Pid → Bool) : Prop :=
  ∀ t fd, s.writer.fds.lookup t = some fd → opened t = true

theorem Within.step {s s' : TraceFiles} {l : FileLabel} {opened : Pid → Bool} (h : s.Within opened)
    (hs : s.step l = some s') : s'.Within (l.sinkCall?.toList.foldl applySinkCall opened) := by
  obtain ⟨⟨s₁, es⟩, hobs, rfl⟩ := Option.map_eq_some_iff.mp hs
  intro t fd hfd
  cases l with
  | writeLine tid line a =>
    obtain ⟨⟨s₂, fate⟩, hwrite, he⟩ := Option.map_eq_some_iff.mp hobs
    obtain ⟨rfl, -⟩ := Prod.mk.inj he
    show Function.update opened tid true t = true
    by_cases ht : t = tid
    · rw [ht, Function.update_self]
    · rw [Function.update_of_ne ht]
      exact h t fd ((writeLine_lookup hwrite ht).symm.trans hfd)
  | closeTid tid =>
    obtain ⟨rfl, -⟩ := Prod.mk.inj (Option.some.inj hobs)
    show Function.update opened tid false t = true
    cases hlook : s.writer.fds.lookup tid with
    | none =>
      have hsame : s.closeTid tid = s := by rw [TraceFiles.closeTid, hlook]
      have ht : t ≠ tid := by
        rintro rfl
        dsimp only at hfd
        rw [hsame, hlook] at hfd
        cases hfd
      dsimp only at hfd
      rw [hsame] at hfd
      rw [Function.update_of_ne ht]
      exact h t fd hfd
    | some fd' =>
      have hclosed : (s.closeTid tid).writer.fds = s.writer.fds.erase tid := by
        rw [TraceFiles.closeTid, hlook]
      dsimp only at hfd
      rw [hclosed] at hfd
      have ht : t ≠ tid := by
        rintro rfl
        rw [AList.lookup_erase] at hfd
        cases hfd
      rw [AList.lookup_erase_ne ht] at hfd
      rw [Function.update_of_ne ht]
      exact h t fd hfd
  | drop =>
    obtain ⟨rfl, -⟩ := Prod.mk.inj (Option.some.inj hobs)
    exact absurd ((AList.lookup_empty t).symm.trans hfd) fun he => by cases he
  | openOther fd' =>
    obtain ⟨-, he⟩ := Option.ite_none_right_eq_some.mp hobs
    obtain ⟨rfl, -⟩ := Prod.mk.inj (Option.some.inj he)
    exact h t fd hfd
  | closeOther fd' =>
    obtain ⟨-, he⟩ := Option.ite_none_right_eq_some.mp hobs
    obtain ⟨rfl, -⟩ := Prod.mk.inj (Option.some.inj he)
    exact h t fd hfd

theorem Within.run {s s' : TraceFiles} {ls : List FileLabel} {opened : Pid → Bool} (h : s.Within opened)
    (hs : ls.foldlM TraceFiles.step s = some s') :
    s'.Within ((ls.filterMap FileLabel.sinkCall?).foldl applySinkCall opened) := by
  induction ls generalizing s opened with
  | nil =>
    obtain rfl : s = s' := Option.some.inj hs
    exact h
  | cons l ls ih =>
    rw [List.foldlM_cons] at hs
    obtain ⟨s₁, h₁, hrest⟩ := Option.bind_eq_some_iff.mp hs
    have hcalls : (l :: ls).filterMap FileLabel.sinkCall? =
        l.sinkCall?.toList ++ ls.filterMap FileLabel.sinkCall? := by
      cases hc : l.sinkCall? with
      | none => rw [List.filterMap_cons_none hc]; rfl
      | some c => rw [List.filterMap_cons_some hc]; rfl
    rw [hcalls, List.foldl_append]
    exact ih (h.step h₁) hrest

end TraceFiles

/-! ### The loop -/

theorem mem_drainWaiting (g : Globals) (queue : List Pid) {s : LoopState} {x : Action} (h : x ∈ s.out) :
    x ∈ (drainWaiting g queue s).out := by
  have hrelease : ∀ tid st (s : LoopState), x ∈ s.out → x ∈ (releaseWaiter g tid st s).out := by
    intro tid st s hx
    rcases releaseWaiter_cases g tid st s with ⟨c, a, -, hr⟩ | ⟨c, o, -, hr⟩
    · rw [hr]
      simp [hx]
    · rw [hr]
      simp [hx]
  induction queue generalizing s with
  | nil => exact h
  | cons tid rest ih =>
    by_cases hheld : s.Held tid
    · obtain ⟨st, hst, -⟩ := hheld.record
      rw [drainWaiting_held g tid rest s st hst hheld]
      split
      · exact hrelease tid st s h
      · exact ih (hrelease tid st s h)
    · rw [drainWaiting_skip g tid rest s hheld]
      exact ih h

theorem mem_maybeResume (g : Globals) {s : LoopState} {x : Action} (h : x ∈ s.out) :
    x ∈ (maybeResumeWaitingFgraphTid g s).out := by
  rw [maybeResumeWaitingFgraphTid]
  split
  · exact h
  · exact mem_drainWaiting g _ h

/-- The file of a task that is gone is closed. -/
theorem closeSink_of_gone (g : Globals) (env : Env) (pid : Pid) {status : I32} (s : LoopState)
    (hk : waitKind status = .gone) : .closeSink pid ∈ (loopIter g env pid status s).out := by
  have hrun : loopIter g env pid status s = onGone g pid (drained env s) := by
    simp only [loopIter_eq, hk]
  rw [hrun]
  exact mem_maybeResume g (List.mem_append_right _ (List.mem_singleton_self _))

theorem line_of_sinkCalls {actions : List Action} {t : Pid} (h : .line t ∈ sinkCalls actions) :
    ∃ l ∈ writtenLines actions, l.tid = t := by
  obtain ⟨x, hx, he⟩ := List.mem_filterMap.mp h
  cases x with
  | line l => exact ⟨l, List.mem_filterMap.mpr ⟨_, hx, rfl⟩, SinkCall.line.inj (Option.some.inj he)⟩
  | _ => cases he

/-! ### Runs of the tracer -/

inductive SinkEvent where
  | call (c : SinkCall)
  | givenUp (t : Pid)
  deriving DecidableEq

def SinkEvent.call? : SinkEvent → Option SinkCall
  | .call c => some c
  | .givenUp _ => none

/-- The calls of a turn, and the id that a thread leaves by an exec. -/
def sinkEvents (s : Sys) (l : Label) (s' : Sys) : List SinkEvent :=
  match l with
  | .turn _ _ => (sinkCalls s'.loop.out).map .call
  | .move (.exec t) =>
    match s.tasks t with
    | some task => if task.tgid = t then [] else [.givenUp t]
    | none => []
  | _ => []

/-- Open files are those of tasks that are there, or of ids that were given up. -/
structure SinksLive (s : Sys) (w : List SinkEvent) : Prop where
  consistent : Consistent s.loop
  live : ∀ t, openSinks (w.filterMap SinkEvent.call?) t = true →
    (∃ task, s.tasks t = some task) ∨ .givenUp t ∈ w

theorem calls_of_map (calls : List SinkCall) :
    (calls.map SinkEvent.call).filterMap SinkEvent.call? = calls := by
  rw [List.filterMap_map]
  exact List.filterMap_some

/-- A step without calls that takes away no task but one whose id is given up. -/
theorem SinksLive.quiet {s s' : Sys} {w es : List SinkEvent} (h : SinksLive s w)
    (hc : Consistent s'.loop) (hcalls : es.filterMap SinkEvent.call? = [])
    (hkept : ∀ t task, s.tasks t = some task → (∃ task', s'.tasks t = some task') ∨ .givenUp t ∈ es) :
    SinksLive s' (w ++ es) := by
  refine ⟨hc, fun t ht => ?_⟩
  rw [List.filterMap_append, hcalls, List.append_nil] at ht
  rcases h.live t ht with ⟨task, htask⟩ | hgiven
  · rcases hkept t task htask with hlive | hgiven
    · exact Or.inl hlive
    · exact Or.inr (List.mem_append_right _ hgiven)
  · exact Or.inr (List.mem_append_left _ hgiven)

theorem exists_resumeAll {k : Tasks} (rs : List (Pid × I32)) {t : Pid} (h : ∃ task, k t = some task) :
    ∃ task, (k.resumeAll rs).1 t = some task := by
  obtain ⟨task, htask⟩ := h
  rw [resumeAll_tasks, htask]
  split
  · exact ⟨task.released, rfl⟩
  · exact ⟨task, rfl⟩

/-- A move takes away no task but one whose id is given up. -/
theorem move_kept {s : Sys} {m : Move} {k : Tasks} (hm : s.tasks.move m = some k) {t : Pid} {task : Task}
    (htask : s.tasks t = some task) :
    (∃ new, k t = some new) ∨ .givenUp t ∈ sinkEvents s (.move m) { s with tasks := k } := by
  have hself : ∀ (u : Pid) (task' : Task), ∃ new, Function.update s.tasks u (some task') t = some new := by
    intro u task'
    by_cases ht : t = u
    · exact ⟨task', by rw [ht, Function.update_self]⟩
    · exact ⟨task, by rw [Function.update_of_ne ht, htask]⟩
  obtain ⟨old, task', hold, -, hcase⟩ := move_cases hm
  rcases hcase with ⟨rfl, -, -⟩ | ⟨u, child, how, thread, tgid, rfl, -, rfl⟩ |
    ⟨u, leader, death, rfl, hne, -, -, rfl⟩
  · exact Or.inl (hself _ task')
  · left
    by_cases ht : t = child
    · exact ⟨_, by rw [ht, Function.update_self]⟩
    · obtain ⟨new, hnew⟩ := hself u task'
      exact ⟨new, by rw [Function.update_of_ne ht, hnew]⟩
  · by_cases ht : t = u
    · right
      subst ht
      have hevents : sinkEvents s (.move (.exec t)) { s with
          tasks := Function.update (Function.update s.tasks t none) old.tgid (some task') } =
          [.givenUp t] := by
        unfold sinkEvents
        dsimp only
        rw [show s.tasks t = some old from hold]
        exact if_neg hne
      rw [hevents]
      exact List.mem_singleton_self _
    · left
      by_cases htg : t = old.tgid
      · exact ⟨task', by rw [← htg, Function.update_self]⟩
      · exact ⟨task, by rw [Function.update_of_ne htg, Function.update_of_ne ht, htask]⟩

theorem attached_kept {g : Globals} {s s' : Sys} {released : List Release}
    (h : s.stepObs g .attached = some (s', released)) {t : Pid} {task : Task}
    (htask : s.tasks t = some task) : ∃ new, s'.tasks t = some new := by
  obtain ⟨-, old, stop, hold, -, rfl, -⟩ := attached_cases h
  refine exists_resumeAll [(s.target, 0)] ?_
  by_cases ht : t = s.target
  · exact ⟨_, by rw [ht, Tasks.report, Function.update_self]⟩
  · exact ⟨task, by rw [Tasks.report, Function.update_of_ne ht, htask]⟩

theorem SinksLive.move {s : Sys} {w : List SinkEvent} (h : SinksLive s w) {m : Move} {k : Tasks}
    (hm : s.tasks.move m = some k) :
    SinksLive { s with tasks := k } (w ++ sinkEvents s (.move m) { s with tasks := k }) := by
  have hcalls : (sinkEvents s (.move m) { s with tasks := k }).filterMap SinkEvent.call? = [] := by
    cases m with
    | exec t =>
      unfold sinkEvents
      dsimp only
      split
      · split <;> rfl
      · rfl
    | _ => rfl
  exact h.quiet h.consistent hcalls fun t task htask => move_kept hm htask

theorem SinksLive.turn {g : Globals} {s s' : Sys} {w : List SinkEvent} (h : SinksLive s w) {t : Pid}
    {env : Env} {released : List Release} (hobs : s.stepObs g (.turn t env) = some (s', released)) :
    SinksLive s' (w ++ sinkEvents s (.turn t env) s') := by
  obtain ⟨-, task, htask, hcase⟩ := turn_cases hobs
  -- the status word of the turn and the tasks beside it
  obtain ⟨status, k, hhandle, hother, hself⟩ : ∃ status k,
      s.handle g t env status k = (s', released) ∧ (∀ u, u ≠ t → k u = s.tasks u) ∧
        ((∃ new, k t = some new) ∨ waitKind status = .gone) := by
    rcases hcase with ⟨stop, -, -, hh⟩ | ⟨death, -, hh⟩
    · refine ⟨_, _, hh, fun u hu => Function.update_of_ne hu _ _, Or.inl ⟨_, Function.update_self _ _ _⟩⟩
    · exact ⟨_, _, hh, fun u hu => Function.update_of_ne hu _ _, Or.inr (waitKind_death death)⟩
  obtain ⟨rfl, -⟩ := Prod.mk.inj hhandle
  refine ⟨handle_consistent h.consistent, fun u hu => ?_⟩
  have hlines : ∀ v, .line v ∈ sinkCalls (loopIter g env t status s.loop).out →
      v = t ∧ waitKind status ≠ .gone := by
    intro v hv
    obtain ⟨l, hl, rfl⟩ := line_of_sinkCalls hv
    obtain ⟨hk, -, -, -, -, -, htid, -⟩ := loopIter_line hl
    exact ⟨htid, by rw [hk]; decide⟩
  have hlive : ∀ v, (∃ new, k v = some new) → ∃ new, (s.handle g t env status k).1.tasks v = some new :=
    fun v hv => exists_resumeAll _ hv
  have hcalls : (w ++ sinkEvents s (.turn t env) (s.handle g t env status k).1).filterMap SinkEvent.call? =
      w.filterMap SinkEvent.call? ++ sinkCalls (loopIter g env t status s.loop).out := by
    rw [List.filterMap_append]
    exact congrArg _ (calls_of_map _)
  change openSinks ((w ++ sinkEvents s (.turn t env) (s.handle g t env status k).1).filterMap
    SinkEvent.call?) u = true at hu
  rw [hcalls, openSinks, List.foldl_append] at hu
  by_cases hut : u = t
  · subst hut
    rcases hself with hnew | hgone
    · exact Or.inl (hlive u hnew)
    · have hclose : .close u ∈ sinkCalls (loopIter g env u status s.loop).out :=
        List.mem_filterMap.mpr ⟨_, closeSink_of_gone g env u s.loop hgone, rfl⟩
      have hfalse := foldl_applySinkCall_close (openSinks (w.filterMap SinkEvent.call?)) hclose
        fun hline => (hlines u hline).2 hgone
      exact absurd (hfalse.symm.trans hu) Bool.false_ne_true
  · rcases foldl_applySinkCall hu with hbefore | hline
    · rcases h.live u hbefore with ⟨old, hold⟩ | hgiven
      · exact Or.inl (hlive u ⟨old, by rw [hother u hut, hold]⟩)
      · exact Or.inr (List.mem_append_left _ hgiven)
    · exact absurd (hlines u hline).1 hut

theorem sinks_live {g : Globals} {s : Sys} {w : List SinkEvent}
    (h : (tracer g).Trace (fun _ _ => True) sinkEvents s w) : SinksLive s w := by
  refine h.history (fun s hs => ?_) fun s w l s' hinv _ hst => ?_
  · obtain ⟨target, controller, fdPaths, hiddenFds, ranges, rfl⟩ := hs
    exact ⟨initialLoop_consistent _ _ _ _, fun t ht => by cases ht⟩
  · obtain ⟨⟨s₁, released⟩, hobs, rfl⟩ := Option.map_eq_some_iff.mp hst
    cases l with
    | move m =>
      obtain ⟨k, hm, he⟩ := Option.map_eq_some_iff.mp hobs
      obtain ⟨rfl, -⟩ := Prod.mk.inj he
      exact hinv.move hm
    | attached =>
      have hkept : ∀ t task, s.tasks t = some task → ∃ new, s₁.tasks t = some new :=
        fun t task htask => attached_kept hobs htask
      obtain ⟨-, task, stop, htask, -, rfl, -⟩ := attached_cases hobs
      exact hinv.quiet hinv.consistent rfl fun t old hold => Or.inl (hkept t old hold)
    | turn t env => exact hinv.turn hobs

/-- A writer that gets the calls of the run has trace files open for no other tasks. -/
theorem trace_files_live {g : Globals} {s : Sys} {w : List SinkEvent} {cfg : Config} {k : Disk}
    {f₀ f : TraceFiles} {ls : List FileLabel}
    (h : (tracer g).Trace (fun _ _ => True) sinkEvents s w) (hf₀ : TraceFiles.Start cfg k f₀)
    (hls : ls.foldlM TraceFiles.step f₀ = some f)
    (hcalls : ls.filterMap FileLabel.sinkCall? = w.filterMap SinkEvent.call?) {fd : I32} {path : String}
    (hfd : f.disk.fds fd = some (.file path)) :
    ∃ tid, path = tidPath cfg.path tid ∧ ((∃ task, s.tasks tid = some task) ∨ .givenUp tid ∈ w) := by
  have hreach : (traceFiles cfg k).Reachable f :=
    System.Reachable.of_foldlM (.start hf₀) hls
  obtain ⟨es, htrace⟩ : ∃ es, (traceFiles cfg k).Trace (fun _ _ => True) TraceFiles.events f es :=
    hreach.trace
  obtain ⟨hkept, -⟩ := trace_files_kept htrace
  obtain ⟨tid, htid, hpath⟩ := hkept.tidy.owned fd path hfd
  rw [hkept.basePath] at hpath
  have hempty : f₀.Within fun _ => false := by
    intro t fd' hfd'
    rw [hf₀.writer] at hfd'
    exact absurd ((AList.lookup_empty t).symm.trans hfd') fun he => by cases he
  have hopen := hempty.run hls tid fd htid
  rw [hcalls] at hopen
  exact ⟨tid, hpath, (sinks_live h).live tid hopen⟩

/-- A `write` of the target that is traced. -/
def writeSteps : List Label := attachSteps ++
  [.move (.enter 100 writeCall), .turn 100 (.regsAt (.entering sysWrite)),
    .move (.complete 100 5), .turn 100 writeExit]

def sinkRun (start : Sys) (ls : List Label) : Option (Sys × List SinkEvent) :=
  ls.foldlM (fun p l => (p.1.step plainGlobals l).map fun s' => (s', p.2 ++ sinkEvents p.1 l s'))
    (start, [])

def oneLine : FileLabel := .writeLine 100 "a" ⟨3#32, takesTwo, takesTwo, 2⟩

theorem trace_files_live_write : ∃ s w, (tracer plainGlobals).Trace (fun _ _ => True) sinkEvents s w ∧
    w = [.call (.line 100)] ∧
    ∃ tid, tidPath "./cudatrace.output" 100 = tidPath "./cudatrace.output" tid ∧
      ((∃ task, s.tasks tid = some task) ∨ .givenUp tid ∈ w) := by
  have hrun : (sinkRun bareSys writeSteps).any (fun p => decide (p.2 = [.call (.line 100)])) = true := by decide
  obtain ⟨⟨s, w⟩, hs, hw⟩ := (Option.any_eq_true _ _).mp hrun
  have htrace := System.Trace.of_foldlM (fun _ _ _ h => ⟨trivial, h⟩)
    (.start (S := tracer plainGlobals) (s := bareSys) ⟨100, _, _, _, _, rfl⟩) hs
  obtain rfl := of_decide_eq_true hw
  have hstart : TraceFiles.Start plainGlobals.config emptyDisk
      ⟨.fromConfig plainGlobals.config, emptyDisk⟩ := ⟨rfl, rfl, rfl, emptyDisk_fresh⟩
  obtain ⟨f, hf, hfd⟩ : ∃ f, [oneLine].foldlM TraceFiles.step ⟨.fromConfig plainGlobals.config, emptyDisk⟩ =
      some f ∧ f.disk.fds 3#32 = some (.file (tidPath "./cudatrace.output" 100)) := ⟨_, rfl, rfl⟩
  exact ⟨s, _, htrace, rfl, trace_files_live htrace hstart hf rfl hfd⟩

end CudaTrace.Ptrace
