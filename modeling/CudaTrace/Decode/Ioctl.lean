import CudaTrace.Config
import CudaTrace.Base.Text

/-!
# Which decoder an ioctl gets (fd_map.rs, decode/ioctl.rs)

The choice is made from the path that the tracer has on record for the descriptor.
-/

namespace CudaTrace.Decode
open CudaTrace.Base

def isGpuPath (path : String) : Bool := startsWith path "/dev/nvidia" || startsWith path "/dev/dri/"

def isNvidiaRmPath (path : Option String) : Bool :=
  path.any fun p => startsWith p "/dev/nvidia" && !startsWith p "/dev/nvidia-uvm"

def isUvmPath (path : Option String) : Bool := path.any fun p => startsWith p "/dev/nvidia-uvm"

/-- `decode_uvm_ioctl` or `decode_nvidia_ioctl`. -/
inductive IoctlDecoder where
  | uvm
  | rm
  deriving DecidableEq

/-- The decoder `summarize_ioctl` calls. -/
def ioctlDecoder (mode : IoctlDecodeMode) (fdPath : Option String) : Option IoctlDecoder :=
  if mode = .off then none
  else if isUvmPath fdPath then some .uvm
  else if isNvidiaRmPath fdPath then some .rm
  else none

/-- A device that the decoder is for. -/
def IoctlDecoder.accepts : IoctlDecoder → Option String → Bool
  | .uvm, path => isUvmPath path
  | .rm, path => isNvidiaRmPath path

theorem accepts_of_ioctlDecoder {mode : IoctlDecodeMode} {fdPath : Option String} {d : IoctlDecoder}
    (h : ioctlDecoder mode fdPath = some d) : d.accepts fdPath = true := by
  unfold ioctlDecoder at h
  split at h
  · cases h
  · split at h
    · rename_i huvm
      cases h
      exact huvm
    · obtain ⟨hrm, hd⟩ := Option.ite_none_right_eq_some.mp h
      cases hd
      exact hrm

end CudaTrace.Decode
