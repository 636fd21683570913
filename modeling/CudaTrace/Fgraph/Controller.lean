import CudaTrace.Config
import CudaTrace.Ptrace.Status
import Mathlib.Logic.Function.Basic

/-!
# The tracefs controller (fgraph.rs)

Control files with their contents. Every open, write and read may fail; the
outcomes are a stream that the operations consume in order, so a failure pattern
over a whole run is one stream.
-/

namespace CudaTrace.Fgraph
open CudaTrace.Ptrace

inductive ControlFile where
  | tracingOn
  | setFtracePid
  | setGraphFunction
  | currentTracer
  | trace
  | bufferSizeKb
  deriving DecidableEq

def ControlFile.name : ControlFile → String
  | .tracingOn => "tracing_on"
  | .setFtracePid => "set_ftrace_pid"
  | .setGraphFunction => "set_graph_function"
  | .currentTracer => "current_tracer"
  | .trace => "trace"
  | .bufferSizeKb => "buffer_size_kb"

/-- Outcome of one access: `done` carries the text a read returns. A write that
fails after its open leaves the file truncated. -/
inductive Outcome where
  | done (text : String)
  | openFails (err : String)
  | accessFails (err : String)

/-- `TraceFsController` with the files below its root. -/
structure TraceFsController where
  root : String
  files : ControlFile → String
  hasGraphFunctionFile : Bool
  outcomes : ℕ → Outcome

namespace TraceFsController

variable (c : TraceFsController)

def path (file : ControlFile) : String := c.root ++ "/" ++ file.name

def advance : TraceFsController := { c with outcomes := fun n => c.outcomes (n + 1) }

def writeControl (file : ControlFile) (value : String) : TraceFsController × Except String Unit :=
  let payload := if value.isEmpty then "\n" else value
  match c.outcomes 0 with
  | .done _ => ({ c.advance with files := Function.update c.files file payload }, .ok ())
  | .openFails err => (c.advance, .error ("failed to open " ++ c.path file ++ ": " ++ err))
  | .accessFails err =>
    ({ c.advance with files := Function.update c.files file "" },
      .error ("failed to write " ++ c.path file ++ ": " ++ err))

/-- Run the writes in order and stop at the first that fails. -/
def writeAll : List (ControlFile × String) → TraceFsController → TraceFsController × Except String Unit
  | [], c => (c, .ok ())
  | (file, value) :: rest, c =>
    match c.writeControl file value with
    | (c, .ok ()) => writeAll rest c
    | (c, .error err) => (c, .error err)

def bestEffortSetGraphFunction (graphFunction : Option String) : TraceFsController :=
  if !c.hasGraphFunctionFile then c
  else
    let c := (c.writeControl .setGraphFunction "").1
    match graphFunction with
    | none => c
    | some f =>
      match c.writeControl .setGraphFunction f with
      | (c, .ok ()) => c
      | (c, .error _) => (c.writeControl .setGraphFunction "").1

/-- `begin_capture`. -/
def beginCapture (tid : Pid) (graphFunction : Option String) :
    TraceFsController × Except String Unit :=
  match writeAll [(.tracingOn, "0"), (.setFtracePid, ""),
      (.setFtracePid, toString tid.toInt)] c with
  | (c, .error err) => (c, .error err)
  | (c, .ok ()) =>
    writeAll [(.currentTracer, "function_graph"), (.trace, ""), (.tracingOn, "1")]
      (c.bestEffortSetGraphFunction graphFunction)

/-- The read of `trace` in `end_capture_and_read`. -/
def readTrace : TraceFsController × Except String String :=
  match c.outcomes 0 with
  | .done text => (c.advance, .ok text)
  | .openFails err | .accessFails err => (c.advance, .error ("failed to read trace: " ++ err))

/-- `end_capture_and_read`. -/
def endCaptureAndRead : TraceFsController × Except String String :=
  match c.writeControl .tracingOn "0" with
  | (c, .error err) => (c, .error err)
  | (c, .ok ()) =>
    match c.readTrace with
    | (c, .error err) => (c, .error err)
    | (c, .ok trace) =>
      match c.writeControl .trace "" with
      | (c, .error err) => (c, .error err)
      | (c, .ok ()) =>
        match (c.bestEffortSetGraphFunction none).writeControl .setFtracePid "" with
        | (c, .error err) => (c, .error err)
        | (c, .ok ()) => (c, .ok trace)

/-- `reset_state`. -/
def resetState : TraceFsController × Except String Unit :=
  match c.writeControl .tracingOn "0" with
  | (c, .error err) => (c, .error err)
  | (c, .ok ()) =>
    writeAll [(.setFtracePid, ""), (.currentTracer, "nop"), (.trace, "")]
      (c.bestEffortSetGraphFunction none)

/-! ### Runs in which every access succeeds -/

/-- Every access from now on succeeds. -/
def Healthy : Prop := ∀ n, ∃ text, c.outcomes n = .done text

/-- A fresh instance on which every access succeeds. -/
def flawless : TraceFsController where
  root := "/sys/kernel/tracing/instances/cudatrace"
  files := fun _ => ""
  hasGraphFunctionFile := true
  outcomes := fun _ => .done ""

variable {c}

theorem Healthy.advance (h : c.Healthy) : c.advance.Healthy := fun n => h (n + 1)

theorem Healthy.writeControl (h : c.Healthy) (file : ControlFile) (value : String) :
    ∃ c', c.writeControl file value = (c', .ok ()) ∧ c'.Healthy := by
  obtain ⟨text, ht⟩ := h 0
  refine ⟨{ c.advance with
    files := Function.update c.files file (if value.isEmpty then "\n" else value) }, ?_, h.advance⟩
  simp only [TraceFsController.writeControl, ht]

theorem Healthy.writeAll (h : c.Healthy) (ws : List (ControlFile × String)) :
    ∃ c', TraceFsController.writeAll ws c = (c', .ok ()) ∧ c'.Healthy := by
  induction ws generalizing c with
  | nil => exact ⟨c, rfl, h⟩
  | cons w ws ih =>
    obtain ⟨c1, e1, h1⟩ := h.writeControl w.1 w.2
    obtain ⟨c2, e2, h2⟩ := ih h1
    exact ⟨c2, by simp only [TraceFsController.writeAll, e1, e2], h2⟩

theorem Healthy.bestEffortSetGraphFunction (h : c.Healthy) (f : Option String) :
    (c.bestEffortSetGraphFunction f).Healthy := by
  unfold TraceFsController.bestEffortSetGraphFunction
  obtain ⟨c1, e1, h1⟩ := h.writeControl .setGraphFunction ""
  split
  · exact h
  · cases f with
    | none => simpa only [e1] using h1
    | some f =>
      obtain ⟨c2, e2, h2⟩ := h1.writeControl .setGraphFunction f
      simpa only [e1, e2] using h2

theorem Healthy.beginCapture (h : c.Healthy) (tid : Pid) (f : Option String) :
    ∃ c', c.beginCapture tid f = (c', .ok ()) ∧ c'.Healthy := by
  obtain ⟨c1, e1, h1⟩ := h.writeAll [(.tracingOn, "0"), (.setFtracePid, ""),
    (.setFtracePid, toString tid.toInt)]
  obtain ⟨c2, e2, h2⟩ := (h1.bestEffortSetGraphFunction f).writeAll
    [(.currentTracer, "function_graph"), (.trace, ""), (.tracingOn, "1")]
  exact ⟨c2, by simp only [TraceFsController.beginCapture, e1, e2], h2⟩

theorem Healthy.readTrace (h : c.Healthy) :
    ∃ c' text, c.readTrace = (c', .ok text) ∧ c'.Healthy := by
  obtain ⟨text, ht⟩ := h 0
  exact ⟨c.advance, text, by simp only [TraceFsController.readTrace, ht], h.advance⟩

theorem Healthy.endCaptureAndRead (h : c.Healthy) :
    ∃ c' text, c.endCaptureAndRead = (c', .ok text) ∧ c'.Healthy := by
  obtain ⟨c1, e1, h1⟩ := h.writeControl .tracingOn "0"
  obtain ⟨c2, text, e2, h2⟩ := h1.readTrace
  obtain ⟨c3, e3, h3⟩ := h2.writeControl .trace ""
  obtain ⟨c4, e4, h4⟩ := (h3.bestEffortSetGraphFunction none).writeControl .setFtracePid ""
  exact ⟨c4, text, by simp only [TraceFsController.endCaptureAndRead, e1, e2, e3, e4], h4⟩

end TraceFsController

end CudaTrace.Fgraph
