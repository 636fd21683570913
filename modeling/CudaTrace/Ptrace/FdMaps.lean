import CudaTrace.Config
import CudaTrace.Ptrace.Remote
import Mathlib.Logic.Function.Basic

/-!
# Descriptor maps (ptrace.rs)

The per-task syscall record and the two tracer-wide tables it updates at a
syscall exit: `fd_paths` (descriptor to path) and `hidden_fds` (descriptors of
cudatrace's own files). A hash map is the function of its lookups, a hash set
that of its membership tests.
-/

namespace CudaTrace.Ptrace
open CudaTrace.Base

abbrev FdPaths := I32 → Option String
abbrev HiddenFds := I32 → Bool

/-- `SyscallState`: what the tracer remembers between the two stops of a syscall. -/
structure SyscallState where
  active : Bool
  internal : Bool
  nr : I64
  args : Vector U64 6
  pathHint : Option String
  startedTs : ℕ
  startedAt : ℕ
  startedTsUs : ℕ
  fgraphWaiting : Bool
  fgraphCapturing : Bool

def SyscallState.default (now : ℕ) : SyscallState where
  active := false
  internal := false
  nr := -1
  args := .replicate 6 0
  pathHint := none
  startedTs := 0
  startedAt := now
  startedTsUs := 0
  fgraphWaiting := false
  fgraphCapturing := false

def isKernelError (retRaw : I64) : Bool := -4095 ≤ retRaw.toInt && retRaw.toInt ≤ -1

def normalizeRet (retRaw : I64) : I64 := if isKernelError retRaw then -1 else retRaw

def isCudatraceOutputPath (cfg : Config) (path : String) : Bool :=
  let trimmed := trimEndMatches path " (deleted)"
  if contains trimmed (cfg.path ++ ".tid-") then true
  else match fileName cfg.path with
    | none => false
    | some baseName => contains trimmed (baseName ++ ".tid-")

def isCudatraceOutputOpen (cfg : Config) (state : SyscallState) : Bool :=
  match state.pathHint with
  | none => false
  | some path => isCudatraceOutputPath cfg path

/-! ### Updates at a syscall exit -/

def duplicateFd (fdPaths : FdPaths) (src dst : I32) : FdPaths :=
  Function.update fdPaths dst (fdPaths src)

def updateFdPaths (fdPaths : FdPaths) (state : SyscallState) (retNorm : I64) : FdPaths :=
  if state.nr = sysOpen ∨ state.nr = sysOpenat then
    if 0 ≤ retNorm.toInt then
      match state.pathHint with
      | some path => Function.update fdPaths (retNorm.setWidth 32) (some path)
      | none => fdPaths
    else fdPaths
  else if state.nr = sysClose then
    if retNorm = 0 then Function.update fdPaths ((state.args.get 0).setWidth 32) none else fdPaths
  else if state.nr = sysDup then
    if 0 ≤ retNorm.toInt then
      duplicateFd fdPaths ((state.args.get 0).setWidth 32) (retNorm.setWidth 32)
    else fdPaths
  else if state.nr = sysDup2 ∨ state.nr = sysDup3 then
    if 0 ≤ retNorm.toInt then
      duplicateFd fdPaths ((state.args.get 0).setWidth 32) (retNorm.setWidth 32)
    else fdPaths
  else fdPaths

def updateHiddenFds (cfg : Config) (state : SyscallState) (retNorm : I64) (hidden : HiddenFds) :
    HiddenFds :=
  if state.nr = sysOpen ∨ state.nr = sysOpenat then
    if 0 ≤ retNorm.toInt ∧ isCudatraceOutputOpen cfg state then
      Function.update hidden (retNorm.setWidth 32) true
    else hidden
  else if state.nr = sysClose then
    if retNorm = 0 then Function.update hidden ((state.args.get 0).setWidth 32) false else hidden
  else if state.nr = sysDup then
    if 0 ≤ retNorm.toInt ∧ hidden ((state.args.get 0).setWidth 32) then
      Function.update hidden (retNorm.setWidth 32) true
    else hidden
  else if state.nr = sysDup2 ∨ state.nr = sysDup3 then
    if 0 ≤ retNorm.toInt then
      if hidden ((state.args.get 0).setWidth 32) then
        Function.update hidden (retNorm.setWidth 32) true
      else Function.update hidden (retNorm.setWidth 32) false
    else hidden
  else hidden

def isHiddenFdSyscall (state : SyscallState) (hidden : HiddenFds) : Bool :=
  if state.nr ∈ [sysRead, sysWrite, sysClose, sysIoctl, sysFstat, sysLseek, sysPread64,
      sysPwrite64, sysDup, sysDup2, sysDup3] then hidden ((state.args.get 0).setWidth 32)
  else if state.nr = sysMmap then hidden ((state.args.get 4).setWidth 32)
  else false

/-- The two tests with which `format_syscall_line` returns an empty line. -/
def suppressed (cfg : Config) (state : SyscallState) (retRaw : I64) (hidden : HiddenFds) : Bool :=
  isHiddenFdSyscall state hidden ||
    ((state.nr == sysOpen || state.nr == sysOpenat) && 0 ≤ (normalizeRet retRaw).toInt &&
      isCudatraceOutputOpen cfg state)

/-! ### Seeding from /proc -/

/-- `seed_fd_state_from_proc`, from the listing of `/proc/<pid>/fd` with its links. -/
def seedFdStateFromProc (cfg : Config) (entries : List (I32 × String)) (fdPaths : FdPaths)
    (hidden : HiddenFds) : FdPaths × HiddenFds :=
  entries.foldl (fun acc e =>
    (Function.update acc.1 e.1 (some e.2),
      if isCudatraceOutputPath cfg e.2 then Function.update acc.2 e.1 true else acc.2))
    (fdPaths, hidden)

example : isCudatraceOutputPath ⟨.file, "./cudatrace.output", .all, .full, 256, .us, .off, [], 16384⟩
    "/tmp/cudatrace.output.tid-7 (deleted)" = true := by decide

end CudaTrace.Ptrace
