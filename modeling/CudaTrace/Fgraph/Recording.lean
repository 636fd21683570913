import CudaTrace.Base.Script
import CudaTrace.Base.Text
import CudaTrace.Base.Transition
import CudaTrace.Fgraph.Controller

/-!
# When the kernel records (fgraph.rs)

The operations of the controller as scripts of accesses, so that every state of the
control files inside one of them can be looked at. A write opens its file, which
truncates it, before the new contents are there.
-/

namespace CudaTrace.Fgraph
open CudaTrace.Base CudaTrace.Ptrace

/-! ### Accesses -/

inductive ControlAccess where
  | write (file : ControlFile) (value : String)
  | read (file : String)

def ControlAccess.Answer : ControlAccess → Type
  | .write _ _ => Except String Unit
  | .read _ => Except String String

/-- A failed open or read leaves every file alone. -/
def tracefs : Device TraceFsController ControlAccess.Answer where
  serve c
    | .write file value => c.writeControl file value
    | .read file =>
      match c.outcomes 0 with
      | .done text => (c.advance, .ok text)
      | .openFails err | .accessFails err =>
        (c.advance, .error ("failed to read " ++ file ++ ": " ++ err))
  during c
    | .write file _ =>
      match c.outcomes 0 with
      | .openFails _ => []
      | .done _ | .accessFails _ => [{ c with files := Function.update c.files file "" }]
    | .read _ => []

/-- A script whose error ends it, as `?` does. -/
abbrev Control (α : Type) : Type := ExceptT String (Script ControlAccess.Answer) α

def writeControl (file : ControlFile) (value : String) : Control Unit :=
  ExceptT.mk (Script.perform (ControlAccess.write file value))

def readControl (file : String) : Control String := ExceptT.mk (Script.perform (ControlAccess.read file))

/-- An attempt whose error is dropped. -/
def attempt (p : Control Unit) : Control Bool := ExceptT.mk do
  match ← p.run with
  | .ok () => return .ok true
  | .error _ => return .ok false

/-! ### The operations -/

def bestEffortSetGraphFunction (hasFile : Bool) (graphFunction : Option String) : Control Unit := do
  if !hasFile then return
  let _ ← attempt (writeControl .setGraphFunction "")
  match graphFunction with
  | none => return
  | some f =>
    if ← attempt (writeControl .setGraphFunction f) then return
    let _ ← attempt (writeControl .setGraphFunction "")

def beginCapture (hasFile : Bool) (tid : Pid) (graphFunction : Option String) : Control Unit := do
  writeControl .tracingOn "0"
  writeControl .setFtracePid ""
  writeControl .setFtracePid (toString tid.toInt)
  bestEffortSetGraphFunction hasFile graphFunction
  writeControl .currentTracer "function_graph"
  writeControl .trace ""
  writeControl .tracingOn "1"

def endCaptureAndRead (hasFile : Bool) : Control String := do
  writeControl .tracingOn "0"
  let trace ← readControl "trace"
  writeControl .trace ""
  bestEffortSetGraphFunction hasFile none
  writeControl .setFtracePid ""
  return trace

def resetState (hasFile : Bool) : Control Unit := do
  writeControl .tracingOn "0"
  bestEffortSetGraphFunction hasFile none
  writeControl .setFtracePid ""
  writeControl .currentTracer "nop"
  writeControl .trace ""

/-! ### The start -/

def tracefsRoots : List String := ["/sys/kernel/tracing", "/sys/kernel/debug/tracing"]

def detectTracefsRoot (isDir : String → Bool) : Option String := tracefsRoots.find? isDir

def requiredFiles : List String :=
  ["available_tracers", "current_tracer", "set_ftrace_pid", "trace", "tracing_on",
   "buffer_size_kb"]

def validateAccess (root : String) (fileExists : String → Bool) : Control Unit := do
  match requiredFiles.find? fun name => !fileExists (root ++ "/" ++ name) with
  | some name => throw ("required tracefs file missing: " ++ root ++ "/" ++ name)
  | none =>
    let available ← readControl "available_tracers"
    if !(splitWhitespace available).contains "function_graph" then
      throw "kernel does not expose function_graph tracer"
    writeControl .tracingOn "0"
    writeControl .setFtracePid ""
    writeControl .currentTracer "nop"
    writeControl .trace ""

def applyRuntimeConfig (bufferKb : ℕ) : Control Unit :=
  ExceptT.mk do
    match ← (writeControl .bufferSizeKb (toString bufferKb)).run with
    | .ok () => return .ok ()
    | .error err =>
      return .error ("failed to set buffer_size_kb=" ++ toString bufferKb ++ ": " ++ err)

def initOrFail (isDir fileExists : String → Bool) (bufferKb : ℕ) : Control Unit :=
  match detectTracefsRoot isDir with
  | none =>
    throw "tracefs is not available under /sys/kernel/tracing or /sys/kernel/debug/tracing"
  | some root => do
    validateAccess root fileExists
    applyRuntimeConfig bufferKb

/-! ### Running an operation -/

namespace Control
variable {α β : Type}

def exec (p : Control α) (c : TraceFsController) : TraceFsController × Except String α :=
  Script.run tracefs p.run c

def points (p : Control α) (c : TraceFsController) : List TraceFsController :=
  Script.points tracefs p.run c

theorem exec_bind (p : Control α) (k : α → Control β) (c : TraceFsController) :
    (p >>= k).exec c =
      match (p.exec c).2 with
      | .ok a => (k a).exec (p.exec c).1
      | .error err => ((p.exec c).1, .error err) := by
  simp only [exec, ExceptT.run_bind, Script.run_bind]
  cases (Script.run tracefs p.run c).2 with
  | ok a => rfl
  | error err => rfl

theorem points_bind (p : Control α) (k : α → Control β) (c : TraceFsController) :
    (p >>= k).points c = p.points c ++
      match (p.exec c).2 with
      | .ok a => (k a).points (p.exec c).1
      | .error _ => [] := by
  simp only [points, exec, ExceptT.run_bind, Script.points_bind]
  cases (Script.run tracefs p.run c).2 with
  | ok a => rfl
  | error err => rfl

@[simp] theorem exec_write (file : ControlFile) (value : String) (c : TraceFsController) :
    (writeControl file value).exec c = c.writeControl file value := rfl

@[simp] theorem exec_read (file : String) (c : TraceFsController) :
    (readControl file).exec c = tracefs.serve c (.read file) := rfl

@[simp] theorem exec_attempt (p : Control Unit) (c : TraceFsController) :
    (attempt p).exec c = ((p.exec c).1, .ok (match (p.exec c).2 with
      | .ok () => true
      | .error _ => false)) := by
  simp only [exec, attempt, ExceptT.run_mk, Script.run_bind]
  cases (Script.run tracefs p.run c).2 with
  | ok a => rfl
  | error err => rfl

@[simp] theorem exec_pure (a : α) (c : TraceFsController) :
    (pure a : Control α).exec c = (c, .ok a) := rfl

end Control

theorem hasFile_writeControl (c : TraceFsController) (file : ControlFile) (value : String) :
    (c.writeControl file value).1.hasGraphFunctionFile = c.hasGraphFunctionFile := by
  unfold TraceFsController.writeControl
  cases c.outcomes 0 <;> rfl

theorem exec_bestEffort (c : TraceFsController) (graphFunction : Option String) :
    (bestEffortSetGraphFunction c.hasGraphFunctionFile graphFunction).exec c =
      (c.bestEffortSetGraphFunction graphFunction, .ok ()) := by
  unfold bestEffortSetGraphFunction TraceFsController.bestEffortSetGraphFunction
  cases c.hasGraphFunctionFile with
  | false => rfl
  | true =>
    cases graphFunction with
    | none => simp [Control.exec_bind, -bind_pure_comp]
    | some f =>
      rcases hw : (c.writeControl .setGraphFunction "").1.writeControl .setGraphFunction f with
        ⟨c', err | u⟩
      · simp [Control.exec_bind, hw, -bind_pure_comp]
      · simp [Control.exec_bind, hw, -bind_pure_comp]

theorem exec_beginCapture (c : TraceFsController) (tid : Pid) (graphFunction : Option String) :
    (beginCapture c.hasGraphFunctionFile tid graphFunction).exec c =
      c.beginCapture tid graphFunction := by
  have h1 := hasFile_writeControl c .tracingOn "0"
  simp only [beginCapture, TraceFsController.beginCapture, TraceFsController.writeAll,
    Control.exec_bind, Control.exec_write]
  rcases hw1 : c.writeControl .tracingOn "0" with ⟨c1, err | u⟩
  · rfl
  have h2 := hasFile_writeControl c1 .setFtracePid ""
  dsimp only
  rcases hw2 : c1.writeControl .setFtracePid "" with ⟨c2, err | u⟩
  · rfl
  have h3 := hasFile_writeControl c2 .setFtracePid (toString tid.toInt)
  dsimp only
  rcases hw3 : c2.writeControl .setFtracePid (toString tid.toInt) with ⟨c3, err | u⟩
  · rfl
  rw [hw1] at h1
  rw [hw2] at h2
  rw [hw3] at h3
  have hfile : c.hasGraphFunctionFile = c3.hasGraphFunctionFile := (h3.trans (h2.trans h1)).symm
  dsimp only
  rw [hfile, exec_bestEffort]
  dsimp only
  rcases hw4 : (c3.bestEffortSetGraphFunction graphFunction).writeControl .currentTracer
    "function_graph" with ⟨c4, err | u⟩
  · rfl
  dsimp only
  rcases hw5 : c4.writeControl .trace "" with ⟨c5, err | u⟩
  · rfl
  dsimp only
  rcases hw6 : c5.writeControl .tracingOn "1" with ⟨c6, err | u⟩
  · rfl
  · rfl

theorem exec_endCaptureAndRead (c : TraceFsController) :
    (endCaptureAndRead c.hasGraphFunctionFile).exec c = c.endCaptureAndRead := by
  have h1 := hasFile_writeControl c .tracingOn "0"
  simp only [endCaptureAndRead, TraceFsController.endCaptureAndRead, Control.exec_bind,
    Control.exec_write]
  rcases hw1 : c.writeControl .tracingOn "0" with ⟨c1, err | u⟩
  · rfl
  dsimp only
  have hread : (readControl "trace").exec c1 = c1.readTrace := by
    have htext : "failed to read " ++ "trace" ++ ": " = "failed to read trace: " := by decide
    rw [Control.exec_read]
    simp only [tracefs, TraceFsController.readTrace, htext]
    cases c1.outcomes 0 <;> rfl
  have hfile1 : c1.readTrace.1.hasGraphFunctionFile = c1.hasGraphFunctionFile := by
    unfold TraceFsController.readTrace
    cases c1.outcomes 0 <;> rfl
  rw [hread]
  rcases hw2 : c1.readTrace with ⟨c2, err | trace⟩
  · rfl
  have h3 := hasFile_writeControl c2 .trace ""
  dsimp only
  rcases hw3 : c2.writeControl .trace "" with ⟨c3, err | u⟩
  · rfl
  rw [hw1] at h1
  rw [hw2] at hfile1
  rw [hw3] at h3
  have hfile : c.hasGraphFunctionFile = c3.hasGraphFunctionFile :=
    (h3.trans (hfile1.trans h1)).symm
  dsimp only
  rw [hfile, exec_bestEffort]
  dsimp only
  rcases hw4 : (c3.bestEffortSetGraphFunction none).writeControl .setFtracePid "" with ⟨c4, err | u⟩
  · rfl
  · rfl

theorem exec_resetState (c : TraceFsController) :
    (resetState c.hasGraphFunctionFile).exec c = c.resetState := by
  have h1 := hasFile_writeControl c .tracingOn "0"
  simp only [resetState, TraceFsController.resetState, TraceFsController.writeAll,
    Control.exec_bind, Control.exec_write]
  rcases hw1 : c.writeControl .tracingOn "0" with ⟨c1, err | u⟩
  · rfl
  rw [hw1] at h1
  have hfile : c.hasGraphFunctionFile = c1.hasGraphFunctionFile := h1.symm
  dsimp only
  rw [hfile, exec_bestEffort]
  dsimp only
  rcases hw2 : (c1.bestEffortSetGraphFunction none).writeControl .setFtracePid "" with ⟨c2, err | u⟩
  · rfl
  dsimp only
  rcases hw3 : c2.writeControl .currentTracer "nop" with ⟨c3, err | u⟩
  · rfl
  dsimp only
  rcases hw4 : c3.writeControl .trace "" with ⟨c4, err | u⟩
  · rfl
  · rfl

/-! ### Files that a script leaves alone -/

theorem files_writeControl_of_ne (c : TraceFsController) {file other : ControlFile}
    (hne : other ≠ file) (value : String) :
    (c.writeControl file value).1.files other = c.files other := by
  unfold TraceFsController.writeControl
  cases c.outcomes 0 with
  | done text => exact Function.update_of_ne hne _ _
  | openFails err => rfl
  | accessFails err => exact Function.update_of_ne hne _ _

/-- Everything but a write of `file`. -/
def OtherAccess (file : ControlFile) : ControlAccess → Prop
  | .write written _ => file ≠ written
  | .read _ => True

theorem unchanged_serve {file : ControlFile} {value : String} (c : TraceFsController)
    (r : ControlAccess) (hr : OtherAccess file r) (h : c.files file = value) :
    (tracefs.serve c r).1.files file = value ∧ ∀ x ∈ tracefs.during c r, x.files file = value := by
  cases r with
  | read name =>
    simp only [tracefs]
    cases c.outcomes 0 <;> exact ⟨h, by simp⟩
  | write written text =>
    refine ⟨(files_writeControl_of_ne c hr text).trans h, ?_⟩
    have htruncated : Function.update c.files written "" file = value :=
      (Function.update_of_ne hr _ _).trans h
    simp only [tracefs]
    cases c.outcomes 0 with
    | openFails err => simp
    | done text => simpa using htruncated
    | accessFails err => simpa using htruncated

/-- A script that does not write `file`. -/
def Leaves {α : Type} (file : ControlFile) (p : Control α) : Prop :=
  Script.Requests (OtherAccess file) p.run

namespace Leaves
variable {α β : Type} {file : ControlFile}

theorem bind {p : Control α} {k : α → Control β} (hp : Leaves file p)
    (hk : ∀ a, Leaves file (k a)) : Leaves file (p >>= k) := by
  unfold Leaves
  rw [ExceptT.run_bind]
  refine Script.requests_bind hp fun r => ?_
  cases r with
  | ok a => exact hk a
  | error err => trivial

theorem pure (a : α) : Leaves file (Pure.pure a : Control α) := trivial

theorem write {written : ControlFile} (hne : file ≠ written) (value : String) :
    Leaves file (writeControl written value) :=
  Script.requests_perform hne

theorem read (name : String) : Leaves file (readControl name) :=
  Script.requests_perform trivial

theorem attempt {p : Control Unit} (hp : Leaves file p) : Leaves file (attempt p) := by
  refine Script.requests_bind hp fun r => ?_
  cases r with
  | ok a => trivial
  | error err => trivial

theorem bestEffort (hne : file ≠ .setGraphFunction) (hasFile : Bool)
    (graphFunction : Option String) :
    Leaves file (bestEffortSetGraphFunction hasFile graphFunction) := by
  have hwrite : ∀ value, Leaves file (Fgraph.attempt (writeControl .setGraphFunction value)) :=
    fun value => attempt (write hne value)
  unfold bestEffortSetGraphFunction
  cases hasFile with
  | false => exact pure ()
  | true =>
    refine bind (hwrite "") fun _ => ?_
    cases graphFunction with
    | none => exact pure ()
    | some f =>
      refine bind (hwrite f) fun done => ?_
      cases done with
      | true => exact pure ()
      | false => exact bind (hwrite "") fun _ => pure ()

theorem unchanged {p : Control α} (hp : Leaves file p) (c : TraceFsController) :
    (p.exec c).1.files file = c.files file ∧ ∀ x ∈ p.points c, x.files file = c.files file :=
  Script.holds_throughout unchanged_serve hp rfl

end Leaves

/-! ### The switch -/

/-- The kernel does not record. -/
def Quiet (c : TraceFsController) : Prop := c.files .tracingOn ≠ "1"

/-- The kernel does not start to record. -/
theorem Leaves.quiet {α : Type} {p : Control α} (hp : Leaves .tracingOn p) {c : TraceFsController}
    (h : Quiet c) : Quiet (p.exec c).1 ∧ ∀ x ∈ p.points c, Quiet x := by
  obtain ⟨hend, hpoints⟩ := hp.unchanged c
  unfold Quiet at *
  exact ⟨by rwa [hend], fun x hx => by rwa [hpoints x hx]⟩

/-! ### While the kernel records -/

/-- If the kernel records, it records the task `last` with the function-graph tracer. -/
def Guarded (last : Option Pid) (c : TraceFsController) : Prop :=
  c.files .tracingOn = "1" →
    c.files .currentTracer = "function_graph" ∧
      ∃ tid, last = some tid ∧ c.files .setFtracePid = toString tid.toInt

theorem Quiet.guarded {c : TraceFsController} (h : Quiet c) (last : Option Pid) :
    Guarded last c :=
  fun hon => absurd hon h

theorem Guarded.of_files {last : Option Pid} {c c' : TraceFsController} (h : Guarded last c)
    (hfiles : c'.files = c.files) : Guarded last c' := by
  unfold Guarded
  rw [hfiles]
  exact h

/-- While the switch is written it holds nothing. -/
theorem quiet_during (c : TraceFsController) (value : String) :
    ∀ x ∈ tracefs.during c (.write .tracingOn value), Quiet x := by
  have htruncated : Quiet { c with files := Function.update c.files .tracingOn "" } := by
    change Function.update c.files .tracingOn "" .tracingOn ≠ "1"
    rw [Function.update_self]
    decide
  simp only [tracefs]
  cases c.outcomes 0 with
  | openFails err => simp
  | done text => simpa using htruncated
  | accessFails err => simpa using htruncated

/-- A failed write of the switch leaves the files as they were, or the switch empty. -/
theorem switch_error {c c' : TraceFsController} {value err : String}
    (h : c.writeControl .tracingOn value = (c', .error err)) : c'.files = c.files ∨ Quiet c' := by
  cases ho : c.outcomes 0 with
  | done text =>
    simp only [TraceFsController.writeControl, ho] at h
    cases h
  | openFails e =>
    simp only [TraceFsController.writeControl, ho] at h
    cases h
    exact .inl rfl
  | accessFails e =>
    simp only [TraceFsController.writeControl, ho] at h
    cases h
    right
    change Function.update c.files .tracingOn "" .tracingOn ≠ "1"
    rw [Function.update_self]
    decide

theorem file_written {c c' : TraceFsController} {file : ControlFile} {value : String}
    (hvalue : value.isEmpty = false) (h : c.writeControl file value = (c', .ok ())) :
    c'.files file = value := by
  cases ho : c.outcomes 0 with
  | done text =>
    simp only [TraceFsController.writeControl, ho, hvalue] at h
    cases h
    exact Function.update_self _ _ _
  | openFails e =>
    simp only [TraceFsController.writeControl, ho] at h
    cases h
  | accessFails e =>
    simp only [TraceFsController.writeControl, ho] at h
    cases h

theorem switched_off {c c' : TraceFsController}
    (h : c.writeControl .tracingOn "0" = (c', .ok ())) : Quiet c' := by
  unfold Quiet
  rw [file_written (by decide) h]
  decide

section
variable {α : Type} {k : Control α} {last : Option Pid} {c : TraceFsController}

/-- What comes of switching the kernel off before anything else. -/
theorem points_switchOff (h : Guarded last c) (hk : ∀ c', Quiet c' → ∀ x ∈ k.points c', Quiet x) :
    ∀ x ∈ (do writeControl .tracingOn "0"; k : Control α).points c, Guarded last x := by
  have hswitch : (writeControl .tracingOn "0").points c =
      c :: tracefs.during c (.write .tracingOn "0") := Script.points_perform _ _
  intro x hx
  rw [Control.points_bind, hswitch, Control.exec_write, List.cons_append, List.mem_cons,
    List.mem_append] at hx
  rcases hx with rfl | hx | hx
  · exact h
  · exact (quiet_during c "0" x hx).guarded last
  · rcases hw : c.writeControl .tracingOn "0" with ⟨c', err | u⟩
    · simp [hw] at hx
    · rw [hw] at hx
      exact (hk c' (switched_off hw) x hx).guarded last

theorem exec_switchOff (h : Guarded last c) (hk : ∀ c', Quiet c' → Quiet (k.exec c').1) :
    Guarded last ((do writeControl .tracingOn "0"; k : Control α).exec c).1 := by
  rw [Control.exec_bind, Control.exec_write]
  rcases hw : c.writeControl .tracingOn "0" with ⟨c', err | u⟩
  · rcases switch_error hw with hfiles | hquiet
    · exact h.of_files hfiles
    · exact hquiet.guarded last
  · exact (hk c' (switched_off hw)).guarded last

/-- A script that only ever switches the kernel off. -/
theorem guarded_switchOff (h : Guarded last c) (hk : Leaves .tracingOn k) :
    Guarded last ((do writeControl .tracingOn "0"; k : Control α).exec c).1 ∧
      ∀ x ∈ (do writeControl .tracingOn "0"; k : Control α).points c, Guarded last x :=
  ⟨exec_switchOff h fun _ hq => (hk.quiet hq).1, points_switchOff h fun _ hq => (hk.quiet hq).2⟩

end

theorem guarded_endCaptureAndRead {last : Option Pid} {c : TraceFsController} (h : Guarded last c)
    (hasFile : Bool) :
    Guarded last ((endCaptureAndRead hasFile).exec c).1 ∧
      ∀ x ∈ (endCaptureAndRead hasFile).points c, Guarded last x :=
  guarded_switchOff h (.bind (.read _) fun _ => .bind (.write (by decide) _) fun _ =>
    .bind (.bestEffort (by decide) _ _) fun _ => .bind (.write (by decide) _) fun _ => .pure _)

theorem guarded_resetState {last : Option Pid} {c : TraceFsController} (h : Guarded last c)
    (hasFile : Bool) :
    Guarded last ((resetState hasFile).exec c).1 ∧
      ∀ x ∈ (resetState hasFile).points c, Guarded last x :=
  guarded_switchOff h (.bind (.bestEffort (by decide) _ _) fun _ =>
    .bind (.write (by decide) _) fun _ => .bind (.write (by decide) _) fun _ =>
    .write (by decide) _)

/-- All of `begin_capture` between the two writes of the switch. -/
def prepareCapture (hasFile : Bool) (tid : Pid) (graphFunction : Option String) : Control Unit := do
  writeControl .setFtracePid ""
  writeControl .setFtracePid (toString tid.toInt)
  bestEffortSetGraphFunction hasFile graphFunction
  writeControl .currentTracer "function_graph"
  writeControl .trace ""

theorem beginCapture_eq (hasFile : Bool) (tid : Pid) (graphFunction : Option String) :
    beginCapture hasFile tid graphFunction = (do
      writeControl .tracingOn "0"
      prepareCapture hasFile tid graphFunction
      writeControl .tracingOn "1") := by
  simp only [beginCapture, prepareCapture, bind_assoc]

theorem leaves_prepareCapture (hasFile : Bool) (tid : Pid) (graphFunction : Option String) :
    Leaves .tracingOn (prepareCapture hasFile tid graphFunction) :=
  .bind (.write (by decide) _) fun _ => .bind (.write (by decide) _) fun _ =>
    .bind (.bestEffort (by decide) _ _) fun _ => .bind (.write (by decide) _) fun _ =>
    .write (by decide) _

theorem Control.exec_bind_ok {α β : Type} {p : Control α} {k : α → Control β}
    {c c' : TraceFsController} {b : β} (h : (p >>= k).exec c = (c', .ok b)) :
    ∃ c1 a, p.exec c = (c1, .ok a) ∧ (k a).exec c1 = (c', .ok b) := by
  rw [exec_bind] at h
  rcases hp : p.exec c with ⟨c1, err | a⟩
  · rw [hp] at h
    cases h
  · rw [hp] at h
    exact ⟨c1, a, rfl, h⟩

/-- A successful preparation leaves the task and the tracer in their files. -/
theorem prepareCapture_ok {c c' : TraceFsController} {hasFile : Bool} {tid : Pid}
    {graphFunction : Option String}
    (h : (prepareCapture hasFile tid graphFunction).exec c = (c', .ok ())) :
    c'.files .currentTracer = "function_graph" ∧ c'.files .setFtracePid = toString tid.toInt := by
  obtain ⟨c1, _, _, h⟩ := Control.exec_bind_ok h
  obtain ⟨c2, _, hpid, h⟩ := Control.exec_bind_ok h
  have hkeeps : Leaves .setFtracePid (do
      bestEffortSetGraphFunction hasFile graphFunction
      writeControl .currentTracer "function_graph"
      writeControl .trace "") :=
    .bind (.bestEffort (by decide) _ _) fun _ => .bind (.write (by decide) _) fun _ =>
      .write (by decide) _
  have htid := (hkeeps.unchanged c2).1
  rw [h, file_written (isEmpty_toString_int _) hpid] at htid
  obtain ⟨c3, _, _, h⟩ := Control.exec_bind_ok h
  obtain ⟨c4, _, htracer, h⟩ := Control.exec_bind_ok h
  have hlast : Leaves .currentTracer (writeControl .trace "") := .write (by decide) _
  have hfile := (hlast.unchanged c4).1
  rw [h, file_written (by decide) htracer] at hfile
  exact ⟨hfile, htid⟩

theorem points_beginCapture {last : Option Pid} {c : TraceFsController} (h : Guarded last c)
    (hasFile : Bool) (tid : Pid) (graphFunction : Option String) :
    ∀ x ∈ (beginCapture hasFile tid graphFunction).points c, Guarded last x := by
  rw [beginCapture_eq]
  refine points_switchOff h fun c1 hc1 x hx => ?_
  obtain ⟨hend, hpoints⟩ := (leaves_prepareCapture hasFile tid graphFunction).quiet hc1
  rw [Control.points_bind, List.mem_append] at hx
  rcases hx with hx | hx
  · exact hpoints x hx
  · rcases hp : (prepareCapture hasFile tid graphFunction).exec c1 with ⟨c2, err | u⟩
    · simp [hp] at hx
    · rw [hp] at hx hend
      have hswitch : (writeControl .tracingOn "1").points c2 =
          c2 :: tracefs.during c2 (.write .tracingOn "1") := Script.points_perform _ _
      rw [hswitch, List.mem_cons] at hx
      rcases hx with rfl | hx
      · exact hend
      · exact quiet_during c2 "1" x hx

/-- A capture that has begun is the one that is recorded; one that has not is none. -/
theorem guarded_beginCapture {last : Option Pid} {c : TraceFsController} (h : Guarded last c)
    (hasFile : Bool) (tid : Pid) (graphFunction : Option String) :
    match (beginCapture hasFile tid graphFunction).exec c with
    | (c', .ok ()) => Guarded (some tid) c'
    | (c', .error _) => Guarded last c' := by
  rw [beginCapture_eq, Control.exec_bind, Control.exec_write]
  rcases hw : c.writeControl .tracingOn "0" with ⟨c1, err | u⟩
  · rcases switch_error hw with hfiles | hquiet
    · exact h.of_files hfiles
    · exact hquiet.guarded last
  · have hend := (leaves_prepareCapture hasFile tid graphFunction).quiet (switched_off hw)
    dsimp only
    rw [Control.exec_bind]
    rcases hp : (prepareCapture hasFile tid graphFunction).exec c1 with ⟨c2, err | u⟩
    · rw [hp] at hend
      exact hend.1.guarded last
    · rw [hp] at hend
      obtain ⟨htracer, htid⟩ := prepareCapture_ok hp
      dsimp only
      rw [Control.exec_write]
      rcases hon : c2.writeControl .tracingOn "1" with ⟨c3, err | u⟩
      · rcases switch_error hon with hfiles | hquiet
        · have hquiet : Quiet c3 := by
            unfold Quiet
            rw [hfiles]
            exact hend.1
          exact hquiet.guarded last
        · exact hquiet.guarded last
      · have hkept : ∀ file : ControlFile, file ≠ .tracingOn → c3.files file = c2.files file := by
          intro file hne
          have hsame := files_writeControl_of_ne c2 hne "1"
          rwa [hon] at hsame
        intro _
        exact ⟨(hkept _ (by decide)).trans htracer, tid, rfl, (hkept _ (by decide)).trans htid⟩

/-! ### Runs of operations -/

inductive Operation where
  | beginCapture (tid : Pid) (graphFunction : Option String)
  | endCaptureAndRead
  | resetState

/-- The controller, and the task of the last `begin_capture` that returned `Ok`. -/
structure Recording where
  controller : TraceFsController
  last : Option Pid

namespace Recording

def perform (r : Recording) : Operation → Recording
  | .beginCapture tid graphFunction =>
    match r.controller.beginCapture tid graphFunction with
    | (c, .ok ()) => { controller := c, last := some tid }
    | (c, .error _) => { r with controller := c }
  | .endCaptureAndRead => { r with controller := r.controller.endCaptureAndRead.1 }
  | .resetState => { r with controller := r.controller.resetState.1 }

/-- Where the control files are seen inside an operation. -/
def inside (r : Recording) : Operation → List TraceFsController
  | .beginCapture tid graphFunction =>
    (Fgraph.beginCapture r.controller.hasGraphFunctionFile tid graphFunction).points r.controller
  | .endCaptureAndRead =>
    (Fgraph.endCaptureAndRead r.controller.hasGraphFunctionFile).points r.controller
  | .resetState => (Fgraph.resetState r.controller.hasGraphFunctionFile).points r.controller

end Recording

/-- Any operations after an `init_or_fail` that returned `Ok`. -/
def recording (isDir fileExists : String → Bool) (bufferKb : ℕ) : System Recording Operation where
  start r := r.last = none ∧ ∃ c, detectTracefsRoot isDir = some c.root ∧
    (initOrFail isDir fileExists bufferKb).exec c = (r.controller, .ok ())
  step r op r' := r' = r.perform op

theorem quiet_validateAccess {root : String} {fileExists : String → Bool}
    {c c' : TraceFsController}
    (h : (validateAccess root fileExists).exec c = (c', .ok ())) : Quiet c' := by
  have hlast : Leaves .tracingOn (do
      writeControl .setFtracePid ""
      writeControl .currentTracer "nop"
      writeControl .trace "") :=
    .bind (.write (by decide) _) fun _ => .bind (.write (by decide) _) fun _ =>
      .write (by decide) _
  unfold validateAccess at h
  cases hmissing : requiredFiles.find? fun name => !fileExists (root ++ "/" ++ name) with
  | some name =>
    rw [hmissing] at h
    cases h
  | none =>
    rw [hmissing] at h
    obtain ⟨c1, available, _, h⟩ := Control.exec_bind_ok h
    cases hgraph : (splitWhitespace available).contains "function_graph" with
    | false =>
      simp only [hgraph] at h
      cases h
    | true =>
      simp only [hgraph] at h
      obtain ⟨c2, _, hoff, h⟩ := Control.exec_bind_ok h
      have hquiet := (hlast.quiet (switched_off hoff)).1
      rwa [h] at hquiet

theorem quiet_initOrFail {isDir fileExists : String → Bool} {bufferKb : ℕ}
    {c c' : TraceFsController}
    (h : (initOrFail isDir fileExists bufferKb).exec c = (c', .ok ())) : Quiet c' := by
  have hbuffer : Leaves .tracingOn (applyRuntimeConfig bufferKb) := by
    refine Script.requests_bind (Leaves.write (by decide) _) fun r => ?_
    cases r with
    | ok a => trivial
    | error err => trivial
  unfold initOrFail at h
  cases hroot : detectTracefsRoot isDir with
  | none =>
    rw [hroot] at h
    cases h
  | some root =>
    rw [hroot] at h
    obtain ⟨c1, _, hvalid, h⟩ := Control.exec_bind_ok h
    have hquiet := (hbuffer.quiet (quiet_validateAccess hvalid)).1
    rwa [h] at hquiet

theorem guarded_perform {r : Recording} (h : Guarded r.last r.controller) (op : Operation) :
    Guarded (r.perform op).last (r.perform op).controller ∧
      ∀ x ∈ r.inside op, Guarded r.last x := by
  cases op with
  | beginCapture tid graphFunction =>
    have hend := guarded_beginCapture h r.controller.hasGraphFunctionFile tid graphFunction
    rw [exec_beginCapture] at hend
    refine ⟨?_, points_beginCapture h _ tid graphFunction⟩
    simp only [Recording.perform]
    rcases hb : r.controller.beginCapture tid graphFunction with ⟨c, err | u⟩
    · rwa [hb] at hend
    · rwa [hb] at hend
  | endCaptureAndRead =>
    obtain ⟨hend, hpoints⟩ := guarded_endCaptureAndRead h r.controller.hasGraphFunctionFile
    rw [exec_endCaptureAndRead] at hend
    exact ⟨hend, hpoints⟩
  | resetState =>
    obtain ⟨hend, hpoints⟩ := guarded_resetState h r.controller.hasGraphFunctionFile
    rw [exec_resetState] at hend
    exact ⟨hend, hpoints⟩

/-- The kernel never records with another filter or another tracer than those of the last
capture that began, not even inside an operation that fails half way. -/
theorem recording_guarded {isDir fileExists : String → Bool} {bufferKb : ℕ} {r : Recording}
    (h : (recording isDir fileExists bufferKb).Reachable r) :
    Guarded r.last r.controller ∧ ∀ op, ∀ x ∈ r.inside op, Guarded r.last x := by
  have hguarded : Guarded r.last r.controller := by
    induction h with
    | start hstart =>
      obtain ⟨_, c, _, hinit⟩ := hstart
      exact (quiet_initOrFail hinit).guarded _
    | @step r op r' _ _ hstep ih =>
      obtain rfl : r' = r.perform op := hstep
      exact (guarded_perform ih op).1
  exact ⟨hguarded, fun op => (guarded_perform hguarded op).2⟩

/-- A controller whose every access succeeds, and reads the one tracer there is. -/
def willing : TraceFsController where
  root := "/sys/kernel/tracing"
  files := fun _ => ""
  hasGraphFunctionFile := true
  outcomes := fun _ => .done "function_graph"

theorem recording_guarded_capture :
    ∃ r, (recording (fun _ => true) (fun _ => true) 1024).Reachable r ∧ r.last = some 7 ∧
      r.controller.files .tracingOn = "1" ∧ Guarded r.last r.controller ∧
      ∀ op, ∀ x ∈ r.inside op, Guarded r.last x := by
  let ready := ((initOrFail (fun _ => true) (fun _ => true) 1024).exec willing).1
  let begun := Recording.perform ⟨ready, none⟩ (.beginCapture 7 none)
  have hreach : (recording (fun _ => true) (fun _ => true) 1024).Reachable begun :=
    .step (.start ⟨rfl, willing, by decide, rfl⟩) trivial rfl
  have hsafe := recording_guarded hreach
  exact ⟨begun, hreach, rfl, rfl, hsafe.1, hsafe.2⟩

end CudaTrace.Fgraph
