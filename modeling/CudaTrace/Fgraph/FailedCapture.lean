import CudaTrace.Fgraph.Recording
import CudaTrace.Ptrace.Turn

/-!
# What a capture that did not begin leaves behind

`begin_capture` stops at the first control write that fails, and its caller resumes the
thread without a capture and without `reset_state`.
-/

namespace CudaTrace.Fgraph
open CudaTrace.Base CudaTrace.Ptrace

/-- A cleared control file: a clearing write leaves a line break, a truncation nothing. -/
def Blank (text : String) : Prop := text = "" ∨ text = "\n"

/-- The control files between two captures. -/
structure Quiescent (c : TraceFsController) : Prop where
  off : c.files .tracingOn = "0"
  noTask : Blank (c.files .setFtracePid)
  noFunction : c.hasGraphFunctionFile = true → Blank (c.files .setGraphFunction)

def Outcome.IsDone : Outcome → Prop
  | .done _ => True
  | .openFails _ | .accessFails _ => False

/-- The first write that fails is the one of the switch, which keeps its text, or one of
the two writes of the task filter. -/
def FailsEarly (c : TraceFsController) : Prop :=
  (∃ err, c.outcomes 0 = .openFails err) ∨
    (c.outcomes 0).IsDone ∧ ¬((c.outcomes 1).IsDone ∧ (c.outcomes 2).IsDone)

theorem outcomes_writeControl (c : TraceFsController) (file : ControlFile) (value : String)
    (n : ℕ) : (c.writeControl file value).1.outcomes n = c.outcomes (n + 1) := by
  unfold TraceFsController.writeControl
  cases c.outcomes 0 <;> rfl

/-- A write succeeds exactly when its access does. -/
theorem writeControl_isDone (c : TraceFsController) (file : ControlFile) (value : String) :
    (∃ c', c.writeControl file value = (c', .ok ())) ↔ (c.outcomes 0).IsDone := by
  unfold TraceFsController.writeControl
  cases c.outcomes 0 with
  | done text => simp [Outcome.IsDone]
  | openFails err => simp [Outcome.IsDone]
  | accessFails err => simp [Outcome.IsDone]

namespace Quiescent
variable {c c' : TraceFsController}

theorem clearTask (h : Quiescent c) : Quiescent (c.writeControl .setFtracePid "").1 where
  off := (files_writeControl_of_ne c (by decide) "").trans h.off
  noTask := by
    unfold TraceFsController.writeControl
    cases c.outcomes 0 with
    | done text =>
      have htask : Function.update c.files .setFtracePid "\n" .setFtracePid = "\n" :=
        Function.update_self _ _ _
      exact .inr htask
    | openFails err => exact h.noTask
    | accessFails err =>
      have htask : Function.update c.files .setFtracePid "" .setFtracePid = "" :=
        Function.update_self _ _ _
      exact .inl htask
  noFunction hfile := by
    rw [files_writeControl_of_ne c (by decide) ""]
    exact h.noFunction (by rwa [hasFile_writeControl] at hfile)

/-- A task that could not be written is not in the filter. -/
theorem failedTask (h : Quiescent c) {value err : String}
    (hw : c.writeControl .setFtracePid value = (c', .error err)) : Quiescent c' := by
  have hoff := @files_writeControl_of_ne c .setFtracePid .tracingOn (by decide) value
  have hfunction := @files_writeControl_of_ne c .setFtracePid .setGraphFunction (by decide) value
  have hfile := hasFile_writeControl c .setFtracePid value
  rw [hw] at hoff hfunction hfile
  refine ⟨hoff.trans h.off, ?_, fun hhas => ?_⟩
  · cases ho : c.outcomes 0 with
    | done text =>
      simp only [TraceFsController.writeControl, ho] at hw
      cases hw
    | openFails e =>
      simp only [TraceFsController.writeControl, ho] at hw
      cases hw
      exact h.noTask
    | accessFails e =>
      simp only [TraceFsController.writeControl, ho] at hw
      cases hw
      have htask : Function.update c.files .setFtracePid "" .setFtracePid = "" :=
        Function.update_self _ _ _
      exact .inl htask
  · rw [hfunction]
    exact h.noFunction (hfile.symm.trans hhas)

theorem switchOff (h : Quiescent c) (hw : c.writeControl .tracingOn "0" = (c', .ok ())) :
    Quiescent c' := by
  have htask := @files_writeControl_of_ne c .tracingOn .setFtracePid (by decide) "0"
  have hfunction := @files_writeControl_of_ne c .tracingOn .setGraphFunction (by decide) "0"
  have hfile := hasFile_writeControl c .tracingOn "0"
  rw [hw] at htask hfunction hfile
  exact ⟨file_written (by decide) hw, htask ▸ h.noTask,
    fun hhas => hfunction ▸ h.noFunction (hfile.symm.trans hhas)⟩

end Quiescent

/-! ### How far a failed `begin_capture` went -/

/-- `begin_capture` past the writes that fail early. -/
theorem beginCapture_ends {c c1 c2 c3 : TraceFsController} {tid : Pid}
    (h1 : c.writeControl .tracingOn "0" = (c1, .ok ()))
    (h2 : c1.writeControl .setFtracePid "" = (c2, .ok ()))
    (h3 : c2.writeControl .setFtracePid (toString tid.toInt) = (c3, .ok ()))
    (graphFunction : Option String) :
    (c.beginCapture tid graphFunction).1.files .setFtracePid = toString tid.toInt := by
  have hrest : ∀ hasFile, Leaves .setFtracePid (do
      bestEffortSetGraphFunction hasFile graphFunction
      writeControl .currentTracer "function_graph"
      writeControl .trace ""
      writeControl .tracingOn "1") := fun hasFile =>
    .bind (.bestEffort (by decide) _ _) fun _ => .bind (.write (by decide) _) fun _ =>
      .bind (.write (by decide) _) fun _ => .write (by decide) _
  have htask : c3.files .setFtracePid = toString tid.toInt :=
    file_written (isEmpty_toString_int _) h3
  rw [← exec_beginCapture, ← htask, ← ((hrest c.hasGraphFunctionFile).unchanged c3).1]
  simp only [beginCapture, Control.exec_bind, Control.exec_write, h1, h2, h3]

theorem not_blank_tid (tid : Pid) : ¬Blank (toString tid.toInt) := by
  intro h
  cases h with
  | inl h => exact toString_int_ne (by simp) _ h
  | inr h => exact toString_int_ne (by decide) _ h

theorem quiescent_beginCapture {c : TraceFsController} (hq : Quiescent c) (tid : Pid)
    (graphFunction : Option String) :
    Quiescent (c.beginCapture tid graphFunction).1 ↔ FailsEarly c := by
  have hout1 := outcomes_writeControl c .tracingOn "0"
  have hdone1 := writeControl_isDone c .tracingOn "0"
  rcases h1 : c.writeControl .tracingOn "0" with ⟨c1, err | u⟩
  · have hend : (c.beginCapture tid graphFunction).1 = c1 := by
      simp only [TraceFsController.beginCapture, TraceFsController.writeAll, h1]
    rw [hend]
    cases ho : c.outcomes 0 with
    | done text =>
      simp only [TraceFsController.writeControl, ho] at h1
      cases h1
    | openFails e =>
      simp only [TraceFsController.writeControl, ho] at h1
      cases h1
      exact iff_of_true ⟨hq.off, hq.noTask, hq.noFunction⟩ (.inl ⟨e, ho⟩)
    | accessFails e =>
      simp only [TraceFsController.writeControl, ho] at h1
      cases h1
      have hlate : ¬FailsEarly c := by simp [FailsEarly, ho, Outcome.IsDone]
      refine iff_of_false (fun hafter => ?_) hlate
      have hoff : Function.update c.files .tracingOn "" .tracingOn = "0" := hafter.off
      rw [Function.update_self] at hoff
      exact absurd hoff (by decide)
  rw [h1] at hout1
  have hfirst : (c.outcomes 0).IsDone := hdone1.mp ⟨c1, h1⟩
  have hq1 : Quiescent c1 := hq.switchOff h1
  have hout2 := outcomes_writeControl c1 .setFtracePid ""
  have hdone2 := writeControl_isDone c1 .setFtracePid ""
  rcases h2 : c1.writeControl .setFtracePid "" with ⟨c2, err | u⟩
  · have hend : (c.beginCapture tid graphFunction).1 = c2 := by
      simp only [TraceFsController.beginCapture, TraceFsController.writeAll, h1, h2]
    rw [hend]
    refine iff_of_true (hq1.failedTask h2) (.inr ⟨hfirst, fun hsecond => ?_⟩)
    rw [← hout1] at hsecond
    obtain ⟨c', hc'⟩ := hdone2.mpr hsecond.1
    rw [h2] at hc'
    cases hc'
  rw [h2] at hout2
  have hsecond : (c.outcomes 1).IsDone := by
    rw [← hout1]
    exact hdone2.mp ⟨c2, h2⟩
  have hq2 : Quiescent c2 := by
    have hclear := hq1.clearTask
    rwa [h2] at hclear
  have hdone3 := writeControl_isDone c2 .setFtracePid (toString tid.toInt)
  rw [hout2, hout1] at hdone3
  rcases h3 : c2.writeControl .setFtracePid (toString tid.toInt) with ⟨c3, err | u⟩
  · have hend : (c.beginCapture tid graphFunction).1 = c3 := by
      simp only [TraceFsController.beginCapture, TraceFsController.writeAll, h1, h2, h3]
    rw [hend]
    refine iff_of_true (hq2.failedTask h3) (.inr ⟨hfirst, fun hthird => ?_⟩)
    obtain ⟨c', hc'⟩ := hdone3.mpr hthird.2
    rw [h3] at hc'
    cases hc'
  · have hthird : (c.outcomes 2).IsDone := hdone3.mp ⟨c3, h3⟩
    refine iff_of_false (fun hafter => ?_) fun hearly => ?_
    · have htask := hafter.noTask
      rw [beginCapture_ends h1 h2 h3] at htask
      exact not_blank_tid tid htask
    · cases hearly with
      | inl hopen =>
        obtain ⟨err, hopen⟩ := hopen
        rw [hopen] at hfirst
        exact hfirst
      | inr hlate => exact hlate.2 ⟨hsecond, hthird⟩

/-- A capture that could not begin leaves the files quiescent exactly when it failed before
the task was in the filter, for the controller by itself and for the tracer's loop, which
goes on without a capture. -/
theorem failed_capture_quiescent_iff {c : TraceFsController} (hq : Quiescent c) :
    (∀ tid graphFunction c' err, c.beginCapture tid graphFunction = (c', .error err) →
      (Quiescent c' ↔ FailsEarly c)) ∧
    ∀ g tid state s s', s.fgraphController = some c →
      beginFgraphCaptureForState g tid state s = (s', false) →
      s'.activeFgraphCapture = s.activeFgraphCapture ∧
        ∃ c', s'.fgraphController = some c' ∧ (Quiescent c' ↔ FailsEarly c) := by
  have hfiles := quiescent_beginCapture hq
  refine ⟨fun tid f c' err hb => ?_, fun g tid state s s' hc hb => ?_⟩
  · have hend := hfiles tid f
    rwa [hb] at hend
  · have hend := hfiles tid (syscallGraphFunction g state.nr)
    simp only [beginFgraphCaptureForState, hc] at hb
    rcases hbegin : c.beginCapture tid (syscallGraphFunction g state.nr) with ⟨c', err | u⟩
    · rw [hbegin] at hb hend
      cases hb
      exact ⟨rfl, c', rfl, hend⟩
    · rw [hbegin] at hb
      cases hb


/-- Cleared files, and a kernel that refuses the access with number `n`. -/
def refusing (n : ℕ) : TraceFsController where
  root := "/sys/kernel/tracing"
  files := fun file => if file = .tracingOn then "0" else "\n"
  hasGraphFunctionFile := true
  outcomes := fun i => if i = n then .accessFails "Invalid argument (os error 22)" else .done ""

theorem quiescent_refusing (n : ℕ) : Quiescent (refusing n) := ⟨rfl, .inr rfl, fun _ => .inr rfl⟩

def writeState : SyscallState := { SyscallState.default 0 with active := true, nr := sysWrite }

def refusedLoop (n : ℕ) : LoopState :=
  initialLoop (some (refusing n)) (fun _ => none) (fun _ => false) []

/-- The task could not be written, so nothing of it is left. -/
theorem failed_capture_second_write :
    ∃ s', beginFgraphCaptureForState plainGlobals 7 writeState (refusedLoop 2) = (s', false) ∧
      ∃ c', s'.fgraphController = some c' ∧ Quiescent c' := by
  have hiff := failed_capture_quiescent_iff (quiescent_refusing 2)
  obtain ⟨s', hs'⟩ : ∃ s', beginFgraphCaptureForState plainGlobals 7 writeState (refusedLoop 2) =
      (s', false) := ⟨_, rfl⟩
  obtain ⟨_, c', hc', hquiet⟩ := hiff.2 plainGlobals 7 writeState (refusedLoop 2) s' rfl hs'
  exact ⟨s', hs', c', hc', hquiet.mpr (.inr ⟨trivial, fun h => h.2⟩)⟩

/-- When the tracer is refused, the task and the function stay in their filters. -/
theorem stale_filters :
    Quiescent (refusing 5) ∧
      ∃ s', beginFgraphCaptureForState plainGlobals 7 writeState (refusedLoop 5) = (s', false) ∧
        ∃ c', s'.fgraphController = some c' ∧ c'.files .setFtracePid = "7" ∧
          c'.files .setGraphFunction = "__x64_sys_write" ∧ ¬Quiescent c' := by
  refine ⟨quiescent_refusing 5, _, rfl, _, rfl, ?_, ?_, fun hq => ?_⟩
  · decide
  · decide
  · exact not_blank_tid 7 hq.noTask

end CudaTrace.Fgraph
