import CudaTrace.Config
import CudaTrace.Ptrace.Status

/-!
# Starting the tracer (ptrace.rs, `ensure_started`)

What a program image does once, before its first hooked call: the checks that end
the process, the three pipes, the fork of the tracer and the one-byte handshake.
-/

namespace CudaTrace.Boot
open CudaTrace.Ptrace

/-- The statics of an image whose `START` is done; a descriptor of -1 is no pipe. -/
structure Image where
  config : Config
  inTracerProcess : Bool
  depthPipeWrFd : I32
  fgraphWindowPipeWrFd : I32

structure PipeEnds where
  rd : I32
  wr : I32

/-- What tracefs, the kernel and the tracer answer during the start; `ready` holds the
bytes that the one-byte read returned. -/
structure StartAnswers where
  preflight : Except String Unit
  handshakePipe : Option PipeEnds
  depthPipe : Option PipeEnds
  fgraphWindowPipe : Option PipeEnds
  fork : Option Pid
  ready : List UInt8

/-- The byte of `signal_ready`. -/
def signalReady (ok : Bool) : List UInt8 := if ok then [49] else [48]

def withoutPipes (cfg : Config) : Image := ⟨cfg, false, -1, -1⟩

/-- `spawn_ptrace_tracer` in the parent; an error is the text of `fatal_exit`. -/
def spawnPtraceTracer (cfg : Config) (a : StartAnswers) : Except String Image :=
  match a.handshakePipe, a.depthPipe, a.fgraphWindowPipe, a.fork with
  | some _, some depthFds, some fgraphWindowFds, some _ =>
    if a.ready = signalReady true then .ok ⟨cfg, false, depthFds.wr, fgraphWindowFds.wr⟩
    else if cfg.fgraphEnabled then
      .error "function_graph tracing requested but ptrace tracer failed to initialize"
    else .ok (withoutPipes cfg)
  | _, _, _, _ => .ok (withoutPipes cfg)

/-- What ends an image before any tracer is spawned. -/
def startRefusal (cfg : Config) (a : StartAnswers) : Option String :=
  if !cfg.fgraphEnabled then none
  else if !cfg.trace.syscall then
    some ("LIB_CUDATRACE_FGRAPH_FUNCS requires syscall tracing; " ++
      "include `syscall` in LIB_CUDATRACE_TRACE")
  else match a.preflight with
    | .ok () => none
    | .error err =>
      some ("LIB_CUDATRACE_FGRAPH_FUNCS is set but tracefs function_graph is unavailable: " ++ err)

/-- `ensure_started`: the tracer process and an image that has started go on as they are. -/
def ensureStarted (cfg : Config) (a : StartAnswers) : Option Image → Except String Image
  | some image => .ok image
  | none =>
    match startRefusal cfg a with
    | some message => .error message
    | none => if !cfg.trace.syscall then .ok (withoutPipes cfg) else spawnPtraceTracer cfg a

/-- What the tracer is answered up to its handshake (`run_ptrace_loop`). -/
structure AttachAnswers where
  attach : Bool
  waitForStop : Bool
  setOptions : Bool
  syscall : Bool
  fgraphInit : Except String Unit

/-- The outcome that the tracer signals. -/
def attachTarget (cfg : Config) (a : AttachAnswers) : Bool :=
  if !a.attach then false
  else if !a.waitForStop then false
  else if !a.setOptions then false
  else if !a.syscall then false
  else if cfg.fgraphEnabled then
    match a.fgraphInit with
    | .ok () => true
    | .error _ => false
  else true

/-! ### What a start can lead to -/

theorem startRefusal_none {cfg : Config} {a : StartAnswers} (h : startRefusal cfg a = none) :
    cfg.fgraphEnabled = true → cfg.trace.syscall = true := by
  intro hf
  unfold startRefusal at h
  rw [hf] at h
  by_contra hs
  have hs' : cfg.trace.syscall = false := by simpa using hs
  rw [hs'] at h
  cases h

theorem spawnPtraceTracer_image {cfg : Config} {a : StartAnswers} {image : Image}
    (h : spawnPtraceTracer cfg a = .ok image) :
    image.config = cfg ∧ image.inTracerProcess = false := by
  unfold spawnPtraceTracer at h
  split at h
  · split_ifs at h <;> cases h <;> exact ⟨rfl, rfl⟩
  · cases h
    exact ⟨rfl, rfl⟩

/-- An image that starts traces syscalls whenever it captures function graphs. -/
theorem ensureStarted_image {cfg : Config} {a : StartAnswers} {image : Image}
    (h : ensureStarted cfg a none = .ok image) :
    image.config = cfg ∧ image.inTracerProcess = false ∧
      (cfg.fgraphEnabled = true → cfg.trace.syscall = true) := by
  unfold ensureStarted at h
  dsimp only at h
  split at h
  · cases h
  · rename_i hr
    have hsys := startRefusal_none hr
    split at h
    · cases h
      exact ⟨rfl, rfl, hsys⟩
    · obtain ⟨hc, ht⟩ := spawnPtraceTracer_image h
      exact ⟨hc, ht, hsys⟩

end CudaTrace.Boot
