import Mathlib.Data.List.Basic

/-!
# Configuration (config.rs)
-/

namespace CudaTrace

inductive TraceDomain where
  | cudart
  | driver
  | syscall
  deriving DecidableEq

structure TraceMask where
  cudart : Bool
  driver : Bool
  syscall : Bool
  deriving DecidableEq

def TraceMask.all : TraceMask := ⟨true, true, true⟩

def TraceMask.enabledFor (m : TraceMask) : TraceDomain → Bool
  | .cudart => m.cudart
  | .driver => m.driver
  | .syscall => m.syscall

inductive OutputMode where
  | file
  | stdout
  deriving DecidableEq

inductive IoctlDecodeMode where
  | full
  | header
  | off
  deriving DecidableEq

inductive TimeUnit where
  | us
  | ns
  deriving DecidableEq

inductive LeftMetaMode where
  | off
  | tid
  | timestamp
  | tidTimestamp
  deriving DecidableEq

def LeftMetaMode.includeTid : LeftMetaMode → Bool
  | .tid | .tidTimestamp => true
  | .off | .timestamp => false

def LeftMetaMode.includeTimestamp : LeftMetaMode → Bool
  | .timestamp | .tidTimestamp => true
  | .off | .tid => false

/-- `Config`, read once per process from the environment. -/
structure Config where
  output : OutputMode
  path : String
  trace : TraceMask
  ioctlDecode : IoctlDecodeMode
  maxBlob : ℕ
  timeUnit : TimeUnit
  leftMeta : LeftMetaMode
  fgraphFuncs : List String
  fgraphBufferKb : ℕ

def Config.traceEnabled (c : Config) (d : TraceDomain) : Bool := c.trace.enabledFor d

def Config.fgraphEnabled (c : Config) : Bool := !c.fgraphFuncs.isEmpty

def Config.fgraphMatch (c : Config) (func : String) : Bool := c.fgraphFuncs.contains func

end CudaTrace
