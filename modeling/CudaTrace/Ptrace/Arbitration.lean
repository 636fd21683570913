import CudaTrace.Base.Arbiter
import CudaTrace.Base.Transition
import CudaTrace.Ptrace.Drain

/-!
# Capture arbitration over a run

The active capture, the per-task flags and the queue stay in step over every
sequence of wait events, and each turn of the loop is one step of the arbiter.
-/

namespace CudaTrace.Ptrace
open CudaTrace.Base CudaTrace.Fgraph

/-! ### The invariant -/

/-- The flags of the records agree with the active capture and the queue. -/
structure WellFormed (s : LoopState) : Prop where
  capturing : ∀ t, s.Capturing t ↔ s.owner = some t
  busy : ∀ t st, s.states t = some st → st.fgraphCapturing = true →
    st.active = true ∧ st.fgraphWaiting = false
  queued : ∀ t, s.Held t → t ∈ s.waitingFgraphTids
  nodup : s.waitingFgraphTids.Nodup

structure Consistent (s : LoopState) : Prop extends WellFormed s where
  idle : s.owner = none → s.waiters = []

def LoopState.arbiter (s : LoopState) : Arbiter Pid := ⟨s.owner, s.waiters⟩

theorem WellFormed.owner_not_held {s : LoopState} (h : WellFormed s) {t : Pid}
    (ht : s.owner = some t) : ¬ s.Held t := by
  intro hh
  obtain ⟨st, hst, hc⟩ := (h.capturing t).mpr ht
  obtain ⟨st', hst', -, hw⟩ := hh.record
  obtain rfl : st = st' := Option.some.inj (hst.symm.trans hst')
  rw [(h.busy t st hst hc).2] at hw
  cases hw

theorem Consistent.fair {s : LoopState} (h : Consistent s) : s.arbiter.Fair where
  idle := h.idle
  once := h.nodup.filter _
  apart := fun _ ho hm => h.owner_not_held ho (mem_waiters.mp hm).2

theorem WellFormed.drain {s s' : LoopState} {woken : List Pid} (h : WellFormed s)
    (hfree : s.owner = none) (hd : Drain s s' s.waitingFgraphTids woken) : Consistent s' := by
  have hcapt : ∀ t st, t ∉ woken → s.states t = some st → st.fgraphCapturing = false := by
    intro t st _ hst
    cases hc : st.fgraphCapturing with
    | false => rfl
    | true =>
      have ho := (h.capturing t).mp ⟨st, hst, hc⟩
      rw [hfree] at ho
      cases ho
  refine ⟨⟨?_, ?_, ?_, h.nodup.sublist hd.suffix.sublist⟩, ?_⟩
  · intro t
    by_cases ht : t ∈ woken
    · obtain ⟨st, -, hst'⟩ := hd.woke t ht
      constructor
      · rintro ⟨st', h', hc⟩
        obtain rfl := Option.some.inj (hst'.symm.trans h')
        exact of_decide_eq_true hc
      · exact fun ho => ⟨_, hst', decide_eq_true ho⟩
    · constructor
      · rintro ⟨st, hst, hc⟩
        rw [hd.others t ht] at hst
        rw [hcapt t st ht hst] at hc
        cases hc
      · intro ho
        rcases hd.ends with ⟨hn, -⟩ | ⟨u, hu, hl⟩
        · rw [hn] at ho
          cases ho
        · obtain rfl : u = t := Option.some.inj (hu.symm.trans ho)
          exact absurd (List.mem_of_getLast? hl) ht
  · intro t st' hst' hc
    by_cases ht : t ∈ woken
    · obtain ⟨st, hst, heq⟩ := hd.woke t ht
      obtain rfl := Option.some.inj (heq.symm.trans hst')
      obtain ⟨st0, hst0, hact, -⟩ := (hd.held ht).2.record
      obtain rfl := Option.some.inj (hst.symm.trans hst0)
      exact ⟨hact, rfl⟩
    · rw [hd.others t ht] at hst'
      exact h.busy t st' hst' hc
  · intro t hh
    have ht : t ∉ woken := by
      intro ht
      obtain ⟨st, -, heq⟩ := hd.woke t ht
      obtain ⟨st', hst', -, hw⟩ := hh.record
      obtain rfl := Option.some.inj (heq.symm.trans hst')
      cases hw
    have hh0 : s.Held t := (isHeld_congr (hd.others t ht)).symm.trans hh
    have hm : t ∈ woken ++ s'.waitingFgraphTids.filter s.isHeld := by
      rw [← hd.order]
      exact List.mem_filter.mpr ⟨h.queued t hh0, hh0⟩
    exact List.mem_of_mem_filter ((List.mem_append.mp hm).resolve_left ht)
  · intro ho
    rcases hd.ends with ⟨-, hq⟩ | ⟨u, hu, -⟩
    · rw [LoopState.waiters, hq, List.filter_nil]
    · rw [hu] at ho
      cases ho

/-! ### A task leaves the arbitration -/

/-- The records of `s'` are those of `s` but for that of `pid`, which neither captures
nor waits. -/
def Cleared (pid : Pid) (s s' : LoopState) : Prop :=
  ∃ r : Option SyscallState, s'.states = Function.update s.states pid r ∧
    ∀ st, r = some st → st.fgraphCapturing = false ∧ st.isHeld = false

theorem Cleared.isHeld {pid : Pid} {s s' : LoopState} (h : Cleared pid s s') (t : Pid) :
    s'.isHeld t = (decide (t ≠ pid) && s.isHeld t) := by
  obtain ⟨r, hr, hclear⟩ := h
  by_cases ht : t = pid
  · subst ht
    simp only [LoopState.isHeld, hr, Function.update_self, ne_eq, not_true_eq_false, decide_false,
      Bool.false_and]
    cases r with
    | none => rfl
    | some st => exact (hclear st rfl).2
  · simp [LoopState.isHeld, hr, ht]

theorem Cleared.filter {pid : Pid} {s s' : LoopState} (h : Cleared pid s s') (queue : List Pid) :
    queue.filter s'.isHeld = (queue.filter s.isHeld).filter (· ≠ pid) := by
  rw [List.filter_filter]
  exact List.filter_congr fun t _ => h.isHeld t

theorem Cleared.states_of_ne {pid : Pid} {s s' : LoopState} (h : Cleared pid s s') {t : Pid}
    (ht : t ≠ pid) : s'.states t = s.states t := by
  obtain ⟨r, hr, -⟩ := h
  rw [hr, Function.update_of_ne ht]

/-- The step from `s` to `s'` takes `pid` out of the arbitration and closes its capture. -/
structure Dropped (pid : Pid) (s s' : LoopState) : Prop where
  cleared : Cleared pid s s'
  owner : s'.owner = if s.owner = some pid then none else s.owner
  sublist : s'.waitingFgraphTids.Sublist s.waitingFgraphTids
  waiters : s'.waiters = s.waiters.filter (· ≠ pid)

theorem Dropped.of_queue {pid : Pid} {s s' : LoopState} (hc : Cleared pid s s')
    (ho : s'.owner = if s.owner = some pid then none else s.owner)
    (hq : s'.waitingFgraphTids = s.waitingFgraphTids) : Dropped pid s s' :=
  ⟨hc, ho, hq ▸ List.Sublist.refl _, by rw [LoopState.waiters, hq, hc.filter, LoopState.waiters]⟩

theorem Dropped.of_filter {pid : Pid} {s s' : LoopState} (hc : Cleared pid s s')
    (ho : s'.owner = if s.owner = some pid then none else s.owner)
    (hq : s'.waitingFgraphTids = s.waitingFgraphTids.filter (· ≠ pid)) : Dropped pid s s' := by
  refine ⟨hc, ho, hq ▸ List.filter_sublist, ?_⟩
  rw [LoopState.waiters, hq, hc.filter, LoopState.waiters, List.filter_filter, List.filter_filter,
    List.filter_filter]
  refine List.filter_congr fun t _ => ?_
  cases decide (t ≠ pid) <;> cases s.isHeld t <;> rfl

theorem Dropped.wellFormed {pid : Pid} {s s' : LoopState} (hd : Dropped pid s s')
    (h : WellFormed s) : WellFormed s' := by
  have hself : ∀ st, s'.states pid = some st → st.fgraphCapturing = false := by
    obtain ⟨r, hr, hclear⟩ := hd.cleared
    intro st hst
    rw [hr, Function.update_self] at hst
    exact (hclear st hst).1
  refine ⟨?_, ?_, ?_, h.nodup.sublist hd.sublist⟩
  · intro t
    rw [hd.owner]
    by_cases ht : t = pid
    · subst ht
      constructor
      · rintro ⟨st, hst, hc⟩
        rw [hself st hst] at hc
        cases hc
      · intro ho
        split at ho
        · cases ho
        · contradiction
    · have hcap : s'.Capturing t ↔ s.Capturing t := by
        simp only [LoopState.Capturing, hd.cleared.states_of_ne ht]
      rw [hcap, h.capturing t]
      split
      · rename_i hp
        rw [hp]
        exact ⟨fun he => absurd (Option.some.inj he).symm ht, nofun⟩
      · rfl
  · intro t st hst hc
    by_cases ht : t = pid
    · subst ht
      rw [hself st hst] at hc
      cases hc
    · exact h.busy t st (hd.cleared.states_of_ne ht ▸ hst) hc
  · intro t ht
    rw [LoopState.Held, hd.cleared.isHeld t] at ht
    obtain ⟨hne, hh⟩ := (Bool.and_eq_true _ _).mp ht
    have hm : t ∈ s.waiters := mem_waiters.mpr ⟨h.queued t hh, hh⟩
    have hm' : t ∈ s'.waiters := by
      rw [hd.waiters]
      exact List.mem_filter.mpr ⟨hm, hne⟩
    exact (mem_waiters.mp hm').1

/-! ### One turn -/

/-- What a turn for `pid` does from `s` to `s'`: it lets the waiters `woken` go on
and makes the requests `own` besides. -/
structure Turned (pid : Pid) (s s' : LoopState) (woken : List Pid) (own : List (Pid × I32)) :
    Prop where
  consistent : Consistent s'
  step : Arbiter.Step s.arbiter woken s'.arbiter
  resumed : ∃ o, s'.out = s.out ++ o ∧ resumes o = (woken.map fun t => (t, 0)) ++ own
  order : s.waiters.filter (· ≠ pid) = woken ++ s'.waiters.filter (· ≠ pid)
  others : ∀ t, t ≠ pid → t ∉ woken → s'.states t = s.states t
  woke : ∀ t ∈ woken, ∃ st, s.states t = some st ∧ s'.states t =
    some { st with fgraphWaiting := false, fgraphCapturing := decide (s'.owner = some t) }
  ends : woken ≠ [] → s.owner = some pid

theorem Turned.held {pid : Pid} {s s' : LoopState} {woken : List Pid} {own : List (Pid × I32)}
    (h : Turned pid s s' woken own) {t : Pid} (ht : t ∈ woken) : t ≠ pid ∧ s.Held t := by
  have hm : t ∈ s.waiters.filter (· ≠ pid) := by
    rw [h.order]
    exact List.mem_append_left _ ht
  obtain ⟨hw, hne⟩ := List.mem_filter.mp hm
  exact ⟨of_decide_eq_true hne, (mem_waiters.mp hw).2⟩

theorem Turned.emit {pid : Pid} {s s' : LoopState} {woken : List Pid} {own : List (Pid × I32)}
    (h : Turned pid s s' woken own) (a : Action) :
    Turned pid s (s'.emit a) woken (own ++ resumes [a]) := by
  obtain ⟨o, hout, hres⟩ := h.resumed
  refine ⟨⟨⟨h.consistent.capturing, h.consistent.busy, h.consistent.queued, h.consistent.nodup⟩,
    h.consistent.idle⟩, h.step, ⟨o ++ [a], ?_, ?_⟩, h.order, h.others, h.woke, h.ends⟩
  · rw [LoopState.emit, hout, List.append_assoc]
  · rw [resumes_append, hres, List.append_assoc]

/-- The turn leaves records, queue and capture alone. -/
theorem Turned.quiet {pid : Pid} {s s' : LoopState} {o : List Action} (h : Consistent s)
    (hstates : s'.states = s.states) (hcap : s'.activeFgraphCapture = s.activeFgraphCapture)
    (hqueue : s'.waitingFgraphTids = s.waitingFgraphTids) (hout : s'.out = s.out ++ o) :
    Turned pid s s' [] (resumes o) := by
  have hheld : s'.isHeld = s.isHeld := funext fun t => isHeld_congr (by rw [hstates])
  have howner : s'.owner = s.owner := by rw [LoopState.owner, hcap, LoopState.owner]
  have hwait : s'.waiters = s.waiters := by rw [LoopState.waiters, hqueue, hheld, LoopState.waiters]
  refine ⟨⟨⟨?_, ?_, ?_, hqueue ▸ h.nodup⟩, ?_⟩, ?_, ⟨o, hout, rfl⟩, ?_, ?_,
    fun t ht => absurd ht List.not_mem_nil, fun he => absurd rfl he⟩
  · intro t
    simpa only [LoopState.Capturing, hstates, howner] using h.capturing t
  · simpa only [hstates] using h.busy
  · intro t ht
    rw [LoopState.Held, hheld] at ht
    exact hqueue ▸ h.queued t ht
  · simpa only [howner, hwait] using h.idle
  · simpa only [LoopState.arbiter, howner, hwait] using Arbiter.Step.skip s.arbiter
  · rw [hwait, List.nil_append]
  · exact fun t _ _ => by rw [hstates]

/-- The turn drops `pid`, which owns no capture. -/
theorem Turned.leave {pid : Pid} {s s' : LoopState} {o : List Action} (h : Consistent s)
    (hd : Dropped pid s s') (hne : s.owner ≠ some pid) (hout : s'.out = s.out ++ o) :
    Turned pid s s' [] (resumes o) := by
  have howner : s'.owner = s.owner := by rw [hd.owner, if_neg hne]
  refine ⟨⟨hd.wellFormed h.toWellFormed, ?_⟩, ?_, ⟨o, hout, rfl⟩, ?_, ?_, nofun, nofun⟩
  · intro hn
    rw [hd.waiters, h.idle (howner ▸ hn), List.filter_nil]
  · have harb : s'.arbiter = ⟨s.owner, s.waiters.filter (· ≠ pid)⟩ := by
      rw [LoopState.arbiter, howner, hd.waiters]
    rw [harb]
    exact Arbiter.Step.leave pid
  · rw [hd.waiters, List.nil_append, List.filter_filter]
    exact List.filter_congr fun t _ => (Bool.and_self _).symm
  · exact fun t ht _ => hd.cleared.states_of_ne ht

/-- The turn drops the owner `pid` and hands the capture on. -/
theorem Turned.release {pid : Pid} {s s₁ s' : LoopState} {woken : List Pid} (h : Consistent s)
    (howner : s.owner = some pid) (hd : Dropped pid s s₁)
    (hout : ∃ o, s₁.out = s.out ++ o ∧ resumes o = [])
    (hdrain : Drain s₁ s' s₁.waitingFgraphTids woken) : Turned pid s s' woken [] := by
  have hwf := hd.wellFormed h.toWellFormed
  have hfree : s₁.owner = none := by rw [hd.owner, if_pos howner]
  have hself : s.waiters.filter (· ≠ pid) = s.waiters := by
    refine List.filter_eq_self.mpr fun t ht => decide_eq_true ?_
    rintro rfl
    exact h.owner_not_held howner (mem_waiters.mp ht).2
  have hsplit : s.waiters = woken ++ s'.waiters := by
    rw [← hdrain.waiters hwf.nodup, ← hself, ← hd.waiters]
    rfl
  have hcons := hwf.drain hfree hdrain
  have hnew : s'.waiters.filter (· ≠ pid) = s'.waiters := by
    refine List.filter_eq_self.mpr fun t ht => decide_eq_true ?_
    rintro rfl
    refine h.owner_not_held howner (mem_waiters.mp ?_).2
    rw [hsplit]
    exact List.mem_append_right _ ht
  refine ⟨hcons, ?_, ?_, ?_, ?_, ?_, fun _ => howner⟩
  · have harb : s.arbiter = ⟨some pid, woken ++ s'.waiters⟩ := by
      rw [LoopState.arbiter, howner, ← hsplit]
    rw [harb]
    rcases hdrain.ends with ⟨hn, hq⟩ | ⟨t, ht, hl⟩
    · have harb' : s'.arbiter = ⟨none, []⟩ := by
        rw [LoopState.arbiter, hn, LoopState.waiters, hq, List.filter_nil]
      rw [harb', hcons.idle hn, List.append_nil]
      exact Arbiter.Step.close
    · obtain ⟨init, rfl⟩ := List.getLast?_eq_some_iff.mp hl
      have harb' : s'.arbiter = ⟨some t, s'.waiters⟩ := by rw [LoopState.arbiter, ht]
      rw [harb', List.append_assoc]
      exact Arbiter.Step.pass
  · obtain ⟨o, ho, hres⟩ := hdrain.resumed
    obtain ⟨o₁, ho₁, hnil⟩ := hout
    refine ⟨o₁ ++ o, ?_, ?_⟩
    · rw [ho, ho₁, List.append_assoc]
    · rw [resumes_append, hnil, hres, List.nil_append, List.append_nil]
  · rw [hself, hnew, hsplit]
  · intro t ht hw
    rw [hdrain.others t hw, hd.cleared.states_of_ne ht]
  · intro t ht
    obtain ⟨st, hst, heq⟩ := hdrain.woke t ht
    have hne : t ≠ pid := by
      rintro rfl
      have hh : s₁.isHeld t = true := (hdrain.held ht).2
      rw [hd.cleared.isHeld t] at hh
      simp at hh
    exact ⟨st, (hd.cleared.states_of_ne hne).symm.trans hst, heq⟩

end CudaTrace.Ptrace
