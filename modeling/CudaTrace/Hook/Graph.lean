import CudaTrace.Hook.Publish

/-!
# The call graph of a thread (graph.rs, line_meta.rs)

Opening and closing a span: the frame stack, the published depth and the lines.
-/

namespace CudaTrace.Hook
open CudaTrace.Boot CudaTrace.Ptrace

/-- The clocks during one call: wall-clock time in the configured unit, `Instant` in
nanoseconds. -/
structure Clock where
  nowTimestamp : ℕ
  instantNow : ℕ

/-- Proof that a span was opened. -/
structure SpanToken where
  deriving DecidableEq

/-! ### Lines -/

/-- `duration_for_config`, for a duration in nanoseconds. -/
def durationForConfig (cfg : Config) (duration : ℕ) : ℕ × String :=
  match cfg.timeUnit with
  | .ns => (duration, "ns")
  | .us => (duration / 1000, "us")

def formatLeftMetaPrefix (cfg : Config) (tid : Pid) (timestamp : ℕ) : String :=
  let out := if cfg.leftMeta.includeTid then "tid=" ++ toString tid.toInt else ""
  let out := if cfg.leftMeta.includeTimestamp then
      (if out.isEmpty then out else out ++ " ") ++ "ts=" ++ toString timestamp ++
        (match cfg.timeUnit with | .ns => "ns" | .us => "us")
    else out
  if out.isEmpty then out else out ++ "  |  "

def prependLeftMeta (cfg : Config) (line : String) (tid : Pid) (timestamp : ℕ) : String :=
  formatLeftMetaPrefix cfg tid timestamp ++ line

def indent (depth : ℕ) : String := String.ofList (List.replicate depth '\t')

def formatOpenLine (depth : ℕ) (func args : String) : String :=
  indent depth ++ func ++ "(" ++ args ++ ") \x7b"

def formatCloseLine (depth : ℕ) (ret : String) (elapsed : ℕ × String) : String :=
  indent depth ++ "\x7d = " ++ ret ++ "  /* " ++ toString elapsed.1 ++ " " ++ elapsed.2 ++ " */"

def formatLeafLine (depth : ℕ) (func args ret : String) (elapsed : ℕ × String) : String :=
  indent depth ++ func ++ "(" ++ args ++ ") = " ++ ret ++ "  /* " ++ toString elapsed.1 ++ " " ++
    elapsed.2 ++ " */"

def openLine (cfg : Config) (tid : Pid) (frame : Frame) : Effect :=
  .line (prependLeftMeta cfg (formatOpenLine frame.depth frame.func frame.args) tid
    frame.startedTs)

def logOpenLine (cfg : Config) (tid : Pid) (toOpen : Option Frame) (t : Thread) : Thread :=
  match toOpen with
  | some frame => t.perform (openLine cfg tid frame)
  | none => t

def closeLine (cfg : Config) (tid : Pid) (frame : Frame) (ret : String) (elapsed : ℕ × String) :
    Effect :=
  .line (prependLeftMeta cfg (formatCloseLine frame.depth ret elapsed) tid frame.startedTs)

def leafLine (cfg : Config) (tid : Pid) (frame : Frame) (ret : String) (elapsed : ℕ × String) :
    Effect :=
  .line (prependLeftMeta cfg (formatLeafLine frame.depth frame.func frame.args ret elapsed) tid
    frame.startedTs)

/-! ### Spans -/

/-- The innermost frame gets its first child; it is opened now unless it already was. -/
def markParent : List Frame → List Frame × Option Frame
  | [] => ([], none)
  | parent :: rest =>
    if parent.hasChild then (parent :: rest, none)
    else ({ parent with hasChild := true, enterPrinted := true } :: rest,
      if parent.enterPrinted then none else some parent)

/-- `enter`. -/
def graphEnter (image : Image) (gettid : Pid) (clock : Clock) (func args : String) (t : Thread) :
    Thread :=
  let cfg := image.config
  let nowTs := if cfg.leftMeta.includeTimestamp then clock.nowTimestamp else 0
  let (stack, parentToOpen) := markParent t.stack
  let frame : Frame := ⟨func, args, stack.length, nowTs, clock.instantNow, false, cfg.trace.syscall⟩
  let t := publishGraphDepth image gettid (stack.length + 1) { t with stack := frame :: stack }
  let (tid, t) := t.currentTid gettid
  let selfToOpen := if cfg.trace.syscall then some frame else none
  logOpenLine cfg tid selfToOpen (logOpenLine cfg tid parentToOpen t)

/-- `exit`. -/
def graphExit (image : Image) (gettid : Pid) (clock : Clock) (ret : String) (t : Thread) : Thread :=
  let cfg := image.config
  match t.stack with
  | [] => t
  | frame :: stack =>
    let t := publishGraphDepth image gettid stack.length { t with stack := stack }
    let (tid, t) := t.currentTid gettid
    let elapsed := durationForConfig cfg (clock.instantNow - frame.startedAt)
    if cfg.trace.syscall || frame.hasChild then
      let t := if frame.enterPrinted then t else t.perform (openLine cfg tid frame)
      t.perform (closeLine cfg tid frame ret elapsed)
    else t.perform (leafLine cfg tid frame ret elapsed)

end CudaTrace.Hook
