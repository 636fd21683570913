import CudaTrace.Ptrace.Drain

/-!
# Captures when tracefs works

With every tracefs access succeeding, a begin opens the capture, a finish reads the
trace, and a drain of the queue gives the capture to the first held task.
-/

namespace CudaTrace.Ptrace
open CudaTrace.Fgraph

/-- Function-graph capture is on and every tracefs access from now on succeeds. -/
def LoopState.Healthy (s : LoopState) : Prop := ∃ c, s.fgraphController = some c ∧ c.Healthy

/-- The held tasks would be captured if they were let go now. -/
def LoopState.WaitersWanted (s : LoopState) : Prop :=
  ∀ u st, s.Held u → s.states u = some st →
    st.internal = false ∧ 0 < windowDepth s.fgraphWindowByTid u

namespace LoopState.Healthy

variable {s : LoopState}

theorem congr {s' : LoopState} (h : s.Healthy) (hc : s'.fgraphController = s.fgraphController) :
    s'.Healthy := by
  obtain ⟨c, hs, hh⟩ := h
  exact ⟨c, hc.trans hs, hh⟩

theorem shouldCapture (h : s.Healthy) (tid : Pid) (state : SyscallState) :
    shouldCaptureFgraph tid state s =
      (!state.internal && decide (0 < windowDepth s.fgraphWindowByTid tid)) := by
  obtain ⟨c, hc, -⟩ := h
  simp only [shouldCaptureFgraph, hc, Option.isSome_some, Bool.true_and]

theorem begins (h : s.Healthy) (g : Globals) (tid : Pid) (state : SyscallState) :
    ∃ c : TraceFsController, c.Healthy ∧ beginFgraphCaptureForState g tid state s =
      ({ s with
          fgraphController := some c
          activeFgraphCapture := some (captureOf g tid state s.fgraphWindowByTid)
          out := s.out ++ [.beginCapture tid true] }, true) := by
  obtain ⟨c, hc, hh⟩ := h
  obtain ⟨c', hb, hh'⟩ := hh.beginCapture tid (syscallGraphFunction g state.nr)
  refine ⟨c', hh', ?_⟩
  simp only [beginFgraphCaptureForState, hc, hb, LoopState.emit]

theorem finishes (h : s.Healthy) {a : ActiveFgraphCapture} (ha : s.activeFgraphCapture = some a) :
    ∃ (c : TraceFsController) (graph : String), c.Healthy ∧ finishActiveFgraphCapture s =
      { s with
          fgraphController := some c
          activeFgraphCapture := none
          out := s.out ++ [.endCapture a (some graph)] } := by
  obtain ⟨c, hc, hh⟩ := h
  obtain ⟨c', graph, he, hh'⟩ := hh.endCaptureAndRead
  refine ⟨c', graph, hh', ?_⟩
  simp only [finishActiveFgraphCapture, ha, hc, he, LoopState.emit]

theorem releases (h : s.Healthy) (hw : s.WaitersWanted) (g : Globals) {u : Pid} {st : SyscallState}
    (hst : s.states u = some st) (hu : s.Held u) :
    ∃ (c : TraceFsController) (a : ActiveFgraphCapture), c.Healthy ∧ a.tid = u ∧
      releaseWaiter g u st s =
        { s with
          fgraphController := some c
          states := Function.update s.states u
            (some { st with fgraphWaiting := false, fgraphCapturing := true })
          activeFgraphCapture := some a
          out := s.out ++ [.beginCapture u true, .resume u 0] } := by
  obtain ⟨hint, hdepth⟩ := hw u st hu hst
  have hcap : shouldCaptureFgraph u { st with fgraphWaiting := false } s = true := by
    rw [h.shouldCapture]
    simp only [hint, Bool.not_false, Bool.true_and]
    exact decide_eq_true hdepth
  obtain ⟨c, hh, hb⟩ := h.begins g u { st with fgraphWaiting := false }
  refine ⟨c, captureOf g u { st with fgraphWaiting := false } s.fgraphWindowByTid, hh, rfl, ?_⟩
  simp [releaseWaiter, hcap, hb, LoopState.setState, LoopState.emit]

/-- By induction on the queue: what is not held is skipped, and the first held task
takes the capture, which ends the drain. -/
theorem drains (h : s.Healthy) (hw : s.WaitersWanted) (g : Globals) (queue : List Pid) :
    (queue.filter s.isHeld = [] ∧ drainWaiting g queue s = { s with waitingFgraphTids := [] }) ∨
    ∃ (u : Pid) (st : SyscallState) (c : TraceFsController) (a : ActiveFgraphCapture)
      (rest : List Pid), s.states u = some st ∧ s.Held u ∧ c.Healthy ∧ a.tid = u ∧
      drainWaiting g queue s =
        { s with
          fgraphController := some c
          states := Function.update s.states u
            (some { st with fgraphWaiting := false, fgraphCapturing := true })
          activeFgraphCapture := some a
          waitingFgraphTids := rest
          out := s.out ++ [.beginCapture u true, .resume u 0] } := by
  induction queue with
  | nil => exact Or.inl ⟨rfl, rfl⟩
  | cons tid rest ih =>
    by_cases hheld : s.Held tid
    · obtain ⟨st, hst, -⟩ := hheld.record
      obtain ⟨c, a, hh, ha, hr⟩ := h.releases hw g hst hheld
      refine Or.inr ⟨tid, st, c, a, rest, hst, hheld, hh, ha, ?_⟩
      rw [drainWaiting_held g tid rest s st hst hheld, hr]
      rfl
    · rw [drainWaiting_skip g tid rest s hheld]
      rcases ih with ⟨hnil, hd⟩ | hd
      · exact Or.inl ⟨by rw [List.filter_cons_of_neg hheld, hnil], hd⟩
      · exact Or.inr hd

end LoopState.Healthy

end CudaTrace.Ptrace
