import CudaTrace.Ptrace.CaptureFiles
import CudaTrace.Ptrace.Completeness

/-!
# What the loop keeps of tasks that are gone (ptrace.rs)

A task that exits leaves no record, no capture and no place in the queue. A thread that gives
its id up by an exec leaves all of them, and a capture that is left so is never ended.
-/

namespace CudaTrace.Ptrace
open CudaTrace.Base CudaTrace.Fgraph

/-! ### Records -/

/-- A task that was not reported has a record only if it had one. -/
theorem record_before {g : Globals} {env : Env} {pid : Pid} {status : I32} {s : LoopState} (hc : Consistent s)
    {t : Pid} (ht : t ≠ pid) {st : SyscallState} (h : (loopIter g env pid status s).states t = some st) :
    ∃ st', s.states t = some st' := by
  obtain ⟨woken, own, hturned, -, -⟩ := loopIter_turned g env pid status hc
  have hcall := hturned.call ht
  rw [h] at hcall
  cases hs : s.states t with
  | none =>
    rw [show (drained env s).states t = none from hs] at hcall
    cases hcall
  | some st' => exact ⟨st', rfl⟩

/-- Records are those of tasks that are there, or of ids that were given up. -/
structure RecordsLive (s : Sys) (w : List SinkEvent) : Prop where
  consistent : Consistent s.loop
  live : ∀ t st, s.loop.states t = some st → (∃ task, s.tasks t = some task) ∨ .givenUp t ∈ w

namespace RecordsLive

variable {g : Globals} {s s' : Sys} {w : List SinkEvent}

theorem same (h : RecordsLive s w) (s' : Sys) (hloop : s'.loop = s.loop) {es : List SinkEvent}
    (hkept : ∀ t task, s.tasks t = some task → (∃ new, s'.tasks t = some new) ∨ .givenUp t ∈ es) :
    RecordsLive s' (w ++ es) := by
  refine ⟨hloop ▸ h.consistent, fun t st hst => ?_⟩
  rw [hloop] at hst
  rcases h.live t st hst with ⟨task, htask⟩ | hgiven
  · rcases hkept t task htask with hnew | hgiven
    · exact Or.inl hnew
    · exact Or.inr (List.mem_append_right _ hgiven)
  · exact Or.inr (List.mem_append_left _ hgiven)

theorem turn (h : RecordsLive s w) {t : Pid} {env : Env} {released : List Release}
    (hobs : s.stepObs g (.turn t env) = some (s', released)) (es : List SinkEvent) :
    RecordsLive s' (w ++ es) := by
  obtain ⟨-, task, htask, hcase⟩ := turn_cases hobs
  -- what the report leaves of the other tasks, and of `t` itself
  obtain ⟨status, k, hhandle, hother, hself⟩ : ∃ status k, s.handle g t env status k = (s', released) ∧
      (∀ u, u ≠ t → k u = s.tasks u) ∧
        ((∃ new, k t = some new) ∨ (loopIter g env t status s.loop).states t = none) := by
    rcases hcase with ⟨stop, -, -, hh⟩ | ⟨death, -, hh⟩
    · exact ⟨_, _, hh, fun u hu => Function.update_of_ne hu _ _, Or.inl ⟨_, Function.update_self _ _ _⟩⟩
    · obtain ⟨woken, -, hst⟩ := loopIter_gone g env t h.consistent (waitKind_death death)
      exact ⟨_, _, hh, fun u hu => Function.update_of_ne hu _ _, Or.inr hst⟩
  obtain ⟨rfl, -⟩ := Prod.mk.inj hhandle
  have hkept : ∀ u, (∃ new, k u = some new) → ∃ new, (s.handle g t env status k).1.tasks u = some new :=
    fun u hu => exists_resumeAll _ hu
  refine ⟨handle_consistent h.consistent, fun u st hst => ?_⟩
  change (loopIter g env t status s.loop).states u = some st at hst
  by_cases hut : u = t
  · subst hut
    rcases hself with hnew | hnone
    · exact Or.inl (hkept u hnew)
    · rw [hnone] at hst
      cases hst
  · obtain ⟨st', hst'⟩ := record_before h.consistent hut hst
    rcases h.live u st' hst' with ⟨old, hold⟩ | hgiven
    · exact Or.inl (hkept u ⟨old, by rw [hother u hut, hold]⟩)
    · exact Or.inr (List.mem_append_left _ hgiven)

theorem step (h : RecordsLive s w) {l : Label} (hst : s.step g l = some s') :
    RecordsLive s' (w ++ sinkEvents s l s') := by
  obtain ⟨⟨s₁, released⟩, hobs, rfl⟩ := Option.map_eq_some_iff.mp hst
  cases l with
  | move m =>
    obtain ⟨k, hm, he⟩ := Option.map_eq_some_iff.mp hobs
    obtain ⟨rfl, -⟩ := Prod.mk.inj he
    exact h.same { s with tasks := k } rfl fun t task htask => move_kept hm htask
  | attached =>
    have hloop : s₁.loop = s.loop := by
      obtain ⟨-, task, stop, -, -, rfl, -⟩ := attached_cases hobs
      rfl
    exact h.same s₁ hloop fun t task htask => Or.inl (attached_kept hobs htask)
  | turn t env => exact h.turn hobs _

end RecordsLive

/-- Nothing is left of a task but what it leaves by giving its id up. -/
theorem records_live {g : Globals} {s : Sys} {w : List SinkEvent}
    (h : (tracer g).Trace (fun _ _ => True) sinkEvents s w) :
    (∀ t st, s.loop.states t = some st → (∃ task, s.tasks t = some task) ∨ .givenUp t ∈ w) ∧
    (∀ t, s.loop.Held t → (∃ task, s.tasks t = some task) ∨ .givenUp t ∈ w) ∧
    (∀ c, s.loop.activeFgraphCapture = some c →
      (∃ task, s.tasks c.tid = some task) ∨ .givenUp c.tid ∈ w) ∧
    ((∀ t, s.tasks t = none) → (∀ t, .givenUp t ∉ w) →
      s.loop.states = (fun _ => none) ∧ s.loop.activeFgraphCapture = none) := by
  have hinv : RecordsLive s w := by
    refine h.history (fun s hs => ?_) fun s w l s' hinv _ hst => hinv.step hst
    obtain ⟨target, controller, fdPaths, hiddenFds, ranges, rfl⟩ := hs
    exact ⟨initialLoop_consistent _ _ _ _, fun t st hst => by cases hst⟩
  have hcapture : ∀ c, s.loop.activeFgraphCapture = some c → ∃ st, s.loop.states c.tid = some st := by
    intro c hc
    have howner : s.loop.owner = some c.tid := by
      rw [LoopState.owner, hc]
      rfl
    obtain ⟨st, hst, -⟩ := (hinv.consistent.capturing c.tid).mpr howner
    exact ⟨st, hst⟩
  refine ⟨hinv.live, fun t hheld => ?_, fun c hc => ?_, fun hnone hgiven => ?_⟩
  · obtain ⟨st, hst, -⟩ := hheld.record
    exact hinv.live t st hst
  · obtain ⟨st, hst⟩ := hcapture c hc
    exact hinv.live _ st hst
  · have hrecords : ∀ t, s.loop.states t = none := by
      intro t
      cases hst : s.loop.states t with
      | none => rfl
      | some st =>
        rcases hinv.live t st hst with ⟨task, htask⟩ | hg
        · rw [hnone t] at htask
          cases htask
        · exact absurd hg (hgiven t)
    refine ⟨funext hrecords, ?_⟩
    cases hc : s.loop.activeFgraphCapture with
    | none => rfl
    | some c =>
      obtain ⟨st, hst⟩ := hcapture c hc
      rw [hrecords] at hst
      cases hst

/-! ### A capture without a task -/

/-- The task of a turn and the captures that end in it. -/
def turnEndings (_ : Sys) (l : Label) (s' : Sys) : List (Pid × List (ActiveFgraphCapture × Option String)) :=
  match l with
  | .turn t _ => [(t, endings s'.loop.out)]
  | _ => []

/-- Turns of other tasks leave a capture open, and every waiter held. -/
theorem loopIter_blocked {g : Globals} {env : Env} {pid : Pid} {status : I32} {s : LoopState}
    (hc : Consistent s) {c : ActiveFgraphCapture} (hcap : s.activeFgraphCapture = some c) (hne : c.tid ≠ pid) :
    (loopIter g env pid status s).activeFgraphCapture = some c ∧
    endings (loopIter g env pid status s).out = [] ∧
    ∀ t, t ≠ pid → s.Held t → (loopIter g env pid status s).Held t := by
  obtain ⟨woken, own, hturned, -, -⟩ := loopIter_turned g env pid status hc
  have hcaptures := loopIter_captures g ⟨env, pid, status⟩ hc
  have howner : s.owner = some c.tid := by
    rw [LoopState.owner, hcap]
    rfl
  have hnobody : woken = [] := by
    by_contra hw
    exact hne (Option.some.inj (howner.symm.trans (hturned.ends hw)))
  have hothers : ∀ t, t ≠ pid → (loopIter g env pid status s).states t = s.states t :=
    fun t ht => hturned.others t ht (by rw [hnobody]; exact List.not_mem_nil)
  -- the record of the owner is untouched, so it owns a capture still
  obtain ⟨c', hc', howned⟩ : ∃ c', (loopIter g env pid status s).activeFgraphCapture = some c' ∧
      c'.tid = c.tid := by
    obtain ⟨st, hst, hcapturing⟩ := (hc.capturing c.tid).mpr howner
    have hstill := (hturned.consistent.capturing c.tid).mp ⟨st, (hothers c.tid hne).trans hst, hcapturing⟩
    exact Option.map_eq_some_iff.mp hstill
  have hends : endings (loopIter g env pid status s).out = [] := by
    rcases hcaptures.ended with h | ⟨a, graph, -, ha, htid⟩
    · exact h
    · obtain rfl := Option.some.inj (hcap.symm.trans ha)
      exact absurd htid hne
  refine ⟨?_, hends, fun t ht hheld => ?_⟩
  · rcases hcaptures.active c' hc' with ⟨hsame, -⟩ | ⟨-, st, -, ⟨hpid, -⟩ | ⟨hst, hisHeld⟩⟩
    · exact hc'.trans (hsame.symm.trans hcap)
    · exact absurd (howned.symm.trans hpid) hne
    · rw [howned] at hst
      exact absurd ((isHeld_of_some hst).trans hisHeld) (hc.owner_not_held howner)
  · exact (isHeld_congr (hothers t ht)).trans hheld

/-- `c` is open since `s₀`, and nothing else has happened to captures and waiters. -/
structure Blocked (c : ActiveFgraphCapture) (s₀ s : Sys)
    (w : List (Pid × List (ActiveFgraphCapture × Option String))) : Prop where
  consistent : Consistent s.loop
  capture : s.loop.activeFgraphCapture = some c
  ended : ∀ e ∈ w, e.2 = []
  held : ∀ t, s₀.loop.Held t → (∀ e ∈ w, e.1 ≠ t) → s.loop.Held t

theorem Blocked.step {g : Globals} {c : ActiveFgraphCapture} {s₀ s s' : Sys}
    {w : List (Pid × List (ActiveFgraphCapture × Option String))} (h : Blocked c s₀ s w) {l : Label}
    (hgone : s.tasks c.tid = none) (hst : s.step g l = some s') :
    Blocked c s₀ s' (w ++ turnEndings s l s') := by
  obtain ⟨⟨s₁, released⟩, hobs, rfl⟩ := Option.map_eq_some_iff.mp hst
  have hquiet : s₁.loop = s.loop → Blocked c s₀ s₁ (w ++ []) := by
    intro hloop
    rw [List.append_nil]
    exact ⟨hloop ▸ h.consistent, hloop ▸ h.capture, h.ended, fun t h₀ hw => hloop ▸ h.held t h₀ hw⟩
  cases l with
  | move m =>
    obtain ⟨k, -, he⟩ := Option.map_eq_some_iff.mp hobs
    obtain ⟨rfl, -⟩ := Prod.mk.inj he
    exact hquiet rfl
  | attached =>
    obtain ⟨-, task, stop, -, -, rfl, -⟩ := attached_cases hobs
    exact hquiet rfl
  | turn t env =>
    obtain ⟨-, task, htask, hcase⟩ := turn_cases hobs
    obtain ⟨status, k, hhandle⟩ : ∃ status k, s.handle g t env status k = (s₁, released) := by
      rcases hcase with ⟨stop, -, -, hh⟩ | ⟨death, -, hh⟩
      · exact ⟨_, _, hh⟩
      · exact ⟨_, _, hh⟩
    obtain ⟨rfl, -⟩ := Prod.mk.inj hhandle
    have hne : c.tid ≠ t := by
      rintro rfl
      rw [hgone] at htask
      cases htask
    obtain ⟨hcap, hends, hheld⟩ := @loopIter_blocked g env t status s.loop h.consistent c h.capture hne
    refine ⟨handle_consistent h.consistent, hcap, fun e he => ?_, fun u h₀ hw => ?_⟩
    · rcases List.mem_append.mp he with he | he
      · exact h.ended e he
      · rw [List.mem_singleton.mp he]
        exact hends
    · have hself : t ≠ u := hw (t, _) (List.mem_append_right _ (List.mem_singleton_self _))
      exact hheld u (Ne.symm hself) (h.held u h₀ fun e he => hw e (List.mem_append_left _ he))

/-- While no new task has the id of its owner, a capture without a task stays open: no
capture ends, no waiter goes on, and who enters a syscall inside a window waits as well. -/
theorem orphan_blocks {g : Globals} {s₀ s : Sys} {c : ActiveFgraphCapture}
    {w : List (Pid × List (ActiveFgraphCapture × Option String))} (hs₀ : (tracer g).Reachable s₀)
    (hc : s₀.loop.activeFgraphCapture = some c)
    (h : (System.ofPartial (· = s₀) (Sys.step g)).Trace (fun s _ => s.tasks c.tid = none) turnEndings s w) :
    Blocked c s₀ s w ∧
    ∀ t env regs status, waitKind status = .syscallStop → env.getregs t = some regs →
      (∀ st, s.loop.states t = some st → st.active = false) →
      shouldCaptureFgraph t (entryState g env t regs ((s.loop.states t).getD (.default env.instantNow))
        (drained env s.loop)) (drained env s.loop) = true →
      (loopIter g env t status s.loop).Held t := by
  have hinv : Blocked c s₀ s w := by
    refine h.history (fun s hs => ?_) fun s w l s' hinv hgone hst => hinv.step hgone hst
    obtain rfl := hs
    refine ⟨?_, hc, fun e he => absurd he List.not_mem_nil, fun t ht _ => ht⟩
    obtain ⟨w, htrace⟩ : ∃ w, (tracer g).Trace (fun _ _ => True) sinkEvents s w := hs₀.trace
    exact (sinks_live htrace).consistent
  refine ⟨hinv, fun t env regs status hk hregs hidle hwants => ?_⟩
  have hact : ((s.loop.states t).getD (.default env.instantNow)).active = false := by
    cases hst : s.loop.states t with
    | none => rfl
    | some st => exact hidle st hst
  have hrun : loopIter g env t status s.loop = onEntry g env t regs
      ((s.loop.states t).getD (.default env.instantNow)) (drained env s.loop) := by
    simp only [loopIter_eq, hk, onSyscallStop, hregs]
    exact if_pos (by rw [Bool.not_eq_true']; exact hact)
  have hopen : (drained env s.loop).activeFgraphCapture = some c := hinv.capture
  rw [hrun]
  unfold onEntry
  dsimp only
  rw [if_pos hwants, hopen, if_neg (by simp)]
  refine (@isHeld_of_some _ t { entryState g env t regs ((s.loop.states t).getD (.default env.instantNow))
    (drained env s.loop) with fgraphWaiting := true } ?_).trans rfl
  split
  · exact Function.update_self _ _ _
  · exact Function.update_self _ _ _

/-! ### A thread that executes inside its window

Thread 101 is captured at its `execve` and goes on as 100. Then 100 writes inside a window
of its own, and waits for the capture of 101. -/

def afterExec : List Label :=
  [.turn 100 (.regsAt (.entering 59)), .move (.complete 100 0), .turn 100 (.regsAt { UserRegs.entering 59 with rax := 0 }),
    .move (.enter 100 writeCall), .turn 100 (writeEntry 100).env]

def Sys.orphanStep (s : Sys) (l : Label) : Option Sys :=
  if (s.tasks 101).isNone then s.step plainGlobals l else none

theorem records_live_exec : ∃ s w, (tracer plainGlobals).Trace (fun _ _ => True) sinkEvents s w ∧
    s.loop.owner = some 101 ∧ ((∃ task, s.tasks 101 = some task) ∨ .givenUp 101 ∈ w) := by
  have hrun : (sinkRun openSys threadExec).any (fun p => decide (p.1.loop.owner = some 101)) = true := by
    decide
  obtain ⟨⟨s, w⟩, hs, howner⟩ := (Option.any_eq_true _ _).mp hrun
  have htrace := System.Trace.of_foldlM (fun _ _ _ h => ⟨trivial, h⟩)
    (.start (S := tracer plainGlobals) (s := openSys) ⟨100, _, _, _, _, rfl⟩) hs
  obtain ⟨c, hc, htid⟩ := Option.map_eq_some_iff.mp (of_decide_eq_true howner)
  obtain ⟨-, -, hcapture, -⟩ := records_live htrace
  exact ⟨s, w, htrace, of_decide_eq_true howner, htid ▸ hcapture c hc⟩

theorem orphan_blocks_exec : ∃ s₀ s c w, Blocked c s₀ s w ∧ c.tid = 101 ∧ s.loop.Held 100 := by
  have hexec : (threadExec.foldlM (Sys.step plainGlobals) openSys).any (fun s₀ =>
      decide (s₀.loop.owner = some 101) && (afterExec.foldlM (fun (p : Sys × List _) l =>
        (p.1.orphanStep l).map fun s' => (s', p.2 ++ turnEndings p.1 l s')) (s₀, [])).any
          fun p => p.1.loop.isHeld 100) = true := by
    decide
  obtain ⟨s₀, hs₀, hrest⟩ := (Option.any_eq_true _ _).mp hexec
  obtain ⟨howner, hafter⟩ := (Bool.and_eq_true _ _).mp hrest
  obtain ⟨⟨s, w⟩, hs, hheld⟩ := (Option.any_eq_true _ _).mp hafter
  have hreach : (tracer plainGlobals).Reachable s₀ :=
    System.Reachable.of_foldlM (.start (s := openSys) ⟨100, _, _, _, _, rfl⟩) hs₀
  obtain ⟨c, hc, htid⟩ := Option.map_eq_some_iff.mp (of_decide_eq_true howner)
  have hstep : ∀ (s : Sys) l s', s.orphanStep l = some s' → s.tasks c.tid = none ∧ s.step plainGlobals l = some s' := by
    intro s l s' h
    obtain ⟨hnone, h⟩ := Option.ite_none_right_eq_some.mp h
    rw [htid]
    exact ⟨Option.isNone_iff_eq_none.mp hnone, h⟩
  have htrace := System.Trace.of_foldlM hstep
    (.start (S := System.ofPartial (· = s₀) (Sys.step plainGlobals)) (s := s₀) rfl) hs
  exact ⟨s₀, s, c, w, (orphan_blocks hreach hc htrace).1, htid, hheld⟩

end CudaTrace.Ptrace
