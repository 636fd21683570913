import CudaTrace.Boot.Bootstrap
import CudaTrace.Ptrace.Window

/-!
# What a hooked thread sends out (ptrace.rs, line_meta.rs, reentry.rs)

The thread-local cells behind the hooks and the records written to the two pipes.
A thread's effects are listed in the order in which it performs them.
-/

namespace CudaTrace.Hook
open CudaTrace.Base CudaTrace.Boot CudaTrace.Ptrace

/-! ### Saturating counters -/

def saturatingAddOne {w : ℕ} (a : BitVec w) : BitVec w := if a = BitVec.allOnes w then a else a + 1#w

def saturatingSubOne {w : ℕ} (a : BitVec w) : BitVec w := if a = 0#w then a else a - 1#w

theorem saturatingAddOne_toNat {w : ℕ} {a : BitVec w} (h : a.toNat + 1 < 2 ^ w) :
    (saturatingAddOne a).toNat = a.toNat + 1 := by
  have hne : a ≠ BitVec.allOnes w := by
    rintro rfl
    rw [BitVec.toNat_allOnes] at h
    omega
  rw [saturatingAddOne, if_neg hne, BitVec.toNat_add, BitVec.toNat_ofNat]
  rcases Nat.eq_zero_or_pos w with rfl | hw
  · omega
  · rw [Nat.mod_eq_of_lt (Nat.one_lt_two_pow (by omega)), Nat.mod_eq_of_lt h]

theorem saturatingSubOne_toNat {w : ℕ} (a : BitVec w) :
    (saturatingSubOne a).toNat = a.toNat - 1 := by
  unfold saturatingSubOne
  split
  · rename_i h
    rw [h, BitVec.toNat_ofNat, Nat.zero_mod]
  · rename_i h
    have hpos : a.toNat ≠ 0 := fun h0 => h (BitVec.eq_of_toNat_eq (by simpa using h0))
    have hlt := a.isLt
    have hw : 1 < 2 ^ w := by omega
    rw [BitVec.toNat_sub, BitVec.toNat_ofNat, Nat.mod_eq_of_lt hw]
    have hsum : 2 ^ w - 1 + a.toNat = a.toNat - 1 + 2 ^ w := by omega
    rw [hsum, Nat.add_mod_right, Nat.mod_eq_of_lt (by omega)]

/-! ### Threads -/

/-- One open span of the call graph (graph.rs). -/
structure Frame where
  func : String
  args : String
  depth : ℕ
  startedTs : ℕ
  startedAt : ℕ
  hasChild : Bool
  enterPrinted : Bool

/-- A record for one of the pipes, or a line for the log. -/
inductive Effect where
  | depth (msg : DepthUpdate)
  | window (msg : FgraphWindowUpdate)
  | line (text : String)

/-- Thread-local cells: `CACHED_TID`, `BYPASS_DEPTH`, `FGRAPH_WINDOW_DEPTH`, `STACK`
(innermost frame first), and the effects of the thread that nobody has seen yet. -/
structure Thread where
  cachedTid : I32
  bypassDepth : U32
  fgraphWindowDepth : U64
  stack : List Frame
  effects : List Effect

def Thread.new : Thread := ⟨0, 0, 0, [], []⟩

def Thread.perform (t : Thread) (e : Effect) : Thread := { t with effects := t.effects ++ [e] }

/-- `current_tid`, where the kernel knows the thread as `gettid`. -/
def Thread.currentTid (gettid : Pid) (t : Thread) : Pid × Thread :=
  if 0 < t.cachedTid.toInt then (t.cachedTid, t)
  else (gettid, if 0 < gettid.toInt then { t with cachedTid := gettid } else t)

/-- `HookBypassGuard::enter`. -/
def Thread.bypass (t : Thread) : Thread := { t with bypassDepth := saturatingAddOne t.bypassDepth }

/-- The drop of a `HookBypassGuard`. -/
def Thread.unbypass (t : Thread) : Thread := { t with bypassDepth := saturatingSubOne t.bypassDepth }

def Thread.hooksBlocked (t : Thread) : Bool := 0 < t.bypassDepth.toNat

/-! ### Records -/

/-- `depth.min(u32::MAX as usize) as u32`. -/
def clampU32 (depth : ℕ) : U32 := BitVec.ofNat 32 (min depth (2 ^ 32 - 1))

theorem clampU32_toNat (depth : ℕ) : (clampU32 depth).toNat = min depth (2 ^ 32 - 1) := by
  have hlt : min depth (2 ^ 32 - 1) < 2 ^ 32 := by omega
  rw [clampU32, BitVec.toNat_ofNat, Nat.mod_eq_of_lt hlt]

def publishGraphDepth (image : Image) (gettid : Pid) (depth : ℕ) (t : Thread) : Thread :=
  if image.inTracerProcess || !image.config.trace.syscall then t
  else if image.depthPipeWrFd.toInt < 0 then t
  else
    let (tid, t) := t.currentTid gettid
    t.perform (.depth ⟨tid, clampU32 depth⟩)

def publishFgraphWindowUpdate (image : Image) (msg : FgraphWindowUpdate) (t : Thread) : Thread :=
  if image.inTracerProcess || !image.config.trace.syscall || !image.config.fgraphEnabled then t
  else if image.fgraphWindowPipeWrFd.toInt < 0 then t
  else t.perform (.window msg)

def publishFgraphWindowEnter (image : Image) (gettid : Pid) (depth : U64) (func : String)
    (seq : U32) (t : Thread) : Thread :=
  let (tid, t) := t.currentTid gettid
  publishFgraphWindowUpdate image
    ⟨tid, clampU32 depth.toNat, seq, fgraphWindowEventEnter, setFunc func⟩ t

def publishFgraphWindowExit (image : Image) (gettid : Pid) (depth : U64) (t : Thread) : Thread :=
  let (tid, t) := t.currentTid gettid
  publishFgraphWindowUpdate image
    ⟨tid, clampU32 depth.toNat, 0, fgraphWindowEventExit, .replicate _ 0⟩ t

end CudaTrace.Hook
