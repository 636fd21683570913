import CudaTrace.Base.Text
import CudaTrace.Base.Utf8
import CudaTrace.Ptrace.Status

/-!
# Reading the traced task (ptrace.rs)

What one turn of the tracer can learn from the kernel about a stopped task
(`Env`), the remote reads built on it, and the test for cudatrace's own
syscalls.
-/

namespace CudaTrace.Ptrace
open CudaTrace.Base

/-- The general registers the tracer looks at (`UserRegsStruct`). -/
structure UserRegs where
  rax : U64
  rdi : U64
  rsi : U64
  rdx : U64
  r10 : U64
  r8 : U64
  r9 : U64
  origRax : U64
  rip : U64
  rsp : U64

instance neZero_six : NeZero 6 := ⟨by decide⟩

/-- The arguments of a syscall. -/
def UserRegs.args (regs : UserRegs) : Vector U64 6 :=
  #v[regs.rdi, regs.rsi, regs.rdx, regs.r10, regs.r8, regs.r9]

/-- `DepthUpdate`, one record of the depth pipe. -/
structure DepthUpdate where
  tid : I32
  depth : U32

/-- `FgraphWindowUpdate`, one record of the window pipe. -/
structure FgraphWindowUpdate where
  tid : I32
  depth : U32
  seq : U32
  event : UInt8
  func : Vector UInt8 96

/-- Answers of the kernel during one turn of the loop. `processVmReadv` gives the
bytes that were copied, `none` for a failed call; the record lists are what the
two pipes hold when they are drained. -/
structure Env where
  getregs : Pid → Option UserRegs
  geteventmsg : Pid → Option U64
  processVmReadv : Pid → U64 → ℕ → Option (List UInt8)
  readLink : Pid → I32 → Option String
  procMaps : Pid → Option String
  depthRecords : List DepthUpdate
  windowRecords : List FgraphWindowUpdate
  nowTimestamp : ℕ
  nowTimestampUs : ℕ
  instantNow : ℕ

/-- Every request fails and the pipes are empty. -/
def Env.silent : Env where
  getregs := fun _ => none
  geteventmsg := fun _ => none
  processVmReadv := fun _ _ _ => none
  readLink := fun _ _ => none
  procMaps := fun _ => none
  depthRecords := []
  windowRecords := []
  nowTimestamp := 0
  nowTimestampUs := 0
  instantNow := 0

def Env.regsAt (regs : UserRegs) : Env := { Env.silent with getregs := fun _ => some regs }

/-- Registers at the entry stop of syscall `nr` with all arguments zero. -/
def UserRegs.entering (nr : I64) : UserRegs :=
  { rax := -38, rdi := 0, rsi := 0, rdx := 0, r10 := 0, r8 := 0, r9 := 0, origRax := nr,
    rip := 0, rsp := 0 }

/-! ### Remote memory -/

/-- `read_remote_bytes`. -/
def readRemoteBytes (env : Env) (pid : Pid) (addr : U64) (len : ℕ) : Option (List UInt8) :=
  if len = 0 then some []
  else match env.processVmReadv pid addr len with
    | none => none
    | some bytes => if bytes.isEmpty then none else some (bytes.take len)

def cstringChunk : ℕ := 256
def cstringMaxLen : ℕ := 4096

/-- `u64::saturating_add`. -/
def saturatingAdd (a : U64) (n : ℕ) : U64 :=
  if a.toNat + n < 2 ^ 64 then a + BitVec.ofNat 64 n else BitVec.allOnes 64

/-- The chunk loop of `read_remote_cstring`; the flag says that a NUL ended it. Each
turn that goes on reads a whole chunk, so `cstringMaxLen` turns are enough. -/
def readCstringLoop (env : Env) (pid : Pid) : ℕ → U64 → List UInt8 → List UInt8 × Bool
  | 0, _, out => (out, false)
  | fuel + 1, cursor, out =>
    if out.length < cstringMaxLen then
      let want := min (cstringMaxLen - out.length) cstringChunk
      match readRemoteBytes env pid cursor want with
      | none => (out, false)
      | some bytes =>
        if bytes.isEmpty then (out, false)
        else if bytes.contains 0 then (out ++ bytes.takeWhile (· ≠ 0), true)
        else if bytes.length < want then (out ++ bytes, false)
        else readCstringLoop env pid fuel (saturatingAdd cursor bytes.length) (out ++ bytes)
    else (out, false)

/-- `read_remote_cstring`. -/
def readRemoteCstring (env : Env) (pid : Pid) (addr : U64) : String :=
  if addr = 0 then "<null>"
  else
    let (out, ended) := readCstringLoop env pid cstringMaxLen addr []
    if !ended && out.isEmpty then "<unreadable@0x" ++ toHex addr.toNat ++ ">"
    else fromUtf8Lossy out

/-- `read_live_fd_path`. -/
def readLiveFdPath (env : Env) (pid : Pid) (fd : I32) : Option String :=
  if fd.toInt < 0 then none else env.readLink pid fd

/-! ### Syscall numbers -/

def sysRead : I64 := 0
def sysWrite : I64 := 1
def sysOpen : I64 := 2
def sysClose : I64 := 3
def sysStat : I64 := 4
def sysFstat : I64 := 5
def sysLstat : I64 := 6
def sysLseek : I64 := 8
def sysMmap : I64 := 9
def sysIoctl : I64 := 16
def sysPread64 : I64 := 17
def sysPwrite64 : I64 := 18
def sysAccess : I64 := 21
def sysDup : I64 := 32
def sysDup2 : I64 := 33
def sysOpenat : I64 := 257
def sysNewfstatat : I64 := 262
def sysFaccessat : I64 := 269
def sysDup3 : I64 := 292

/-- `capture_path_hint`. -/
def capturePathHint (env : Env) (pid : Pid) (nr : I64) (args : Vector U64 6) : Option String :=
  if nr = sysOpen ∨ nr = sysStat ∨ nr = sysLstat ∨ nr = sysAccess then
    some (readRemoteCstring env pid (args.get 0))
  else if nr = sysOpenat ∨ nr = sysNewfstatat ∨ nr = sysFaccessat then
    some (readRemoteCstring env pid (args.get 1))
  else if nr = sysClose then readLiveFdPath env pid ((args.get 0).setWidth 32)
  else none

/-! ### cudatrace's own syscalls -/

/-- `load_cudatrace_ranges`. -/
def loadCudatraceRanges (env : Env) (pid : Pid) : List (U64 × U64) :=
  match env.procMaps pid with
  | none => []
  | some text =>
    (lines text).filterMap fun line => do
      guard (contains line "cudatrace")
      let rangeRaw ← (splitWhitespace line).head?
      let (startRaw, endRaw) ← splitOnce rangeRaw '-'
      let start ← parseHexU64 startRaw
      let stop ← parseHexU64 endRaw
      if start < stop then some (start, stop) else none

/-- `in_ranges`. -/
def inRanges (addr : U64) (ranges : List (U64 × U64)) : Bool :=
  ranges.any fun r => r.1 ≤ addr && addr < r.2

def stackWordsToScan : ℕ := 16

/-- The full 8-byte little-endian words of a byte string. -/
def wordsOf : List UInt8 → List U64
  | b0 :: b1 :: b2 :: b3 :: b4 :: b5 :: b6 :: b7 :: rest =>
    BitVec.ofNat 64 (b0.toNat + 256 * (b1.toNat + 256 * (b2.toNat + 256 * (b3.toNat +
      256 * (b4.toNat + 256 * (b5.toNat + 256 * (b6.toNat + 256 * b7.toNat))))))) :: wordsOf rest
  | _ => []

/-- `is_internal_syscall`. -/
def isInternalSyscall (env : Env) (pid : Pid) (regs : UserRegs) (ranges : List (U64 × U64)) : Bool :=
  if ranges.isEmpty then false
  else if inRanges regs.rip ranges then true
  else match readRemoteBytes env pid regs.rsp (stackWordsToScan * 8) with
    | none => false
    | some bytes => (wordsOf bytes).any fun w => inRanges w ranges

end CudaTrace.Ptrace
