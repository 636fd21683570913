import Mathlib.Data.List.Basic
import Mathlib.Tactic.IntervalCases

/-!
# Wait statuses (ptrace.rs)

Machine integers of the tracer and the decoding of the status word that
`waitpid` fills in.
-/

namespace CudaTrace.Ptrace

abbrev I32 := BitVec 32
abbrev U32 := BitVec 32
abbrev I64 := BitVec 64
abbrev U64 := BitVec 64

instance : LawfulBEq I64 := inferInstance

/-- `pid_t`, used for process and thread ids alike. -/
abbrev Pid := BitVec 32

def sigtrap : I32 := 5#32
def syscallStopSig : I32 := sigtrap ||| 0x80#32

def ptraceEventFork : I32 := 1#32
def ptraceEventVfork : I32 := 2#32
def ptraceEventClone : I32 := 3#32
def ptraceEventExec : I32 := 4#32

def wifstopped (status : I32) : Bool := (status &&& 0xff#32) == 0x7f#32
def wstopsig (status : I32) : I32 := (status.sshiftRight 8) &&& 0xff#32
def wifexited (status : I32) : Bool := (status &&& 0x7f#32) == 0#32
def wifsignaled (status : I32) : Bool :=
  let sig := status &&& 0x7f#32
  sig != 0#32 && sig != 0x7f#32
def ptraceEvent (status : I32) : I32 := (status.sshiftRight 16) &&& 0xffff#32

/-! ### Status words the kernel builds -/

/-- Signal numbers. -/
def Signal := { n : BitVec 8 // 1#8 ≤ n ∧ n ≤ 64#8 }

instance : DecidableEq Signal := inferInstanceAs (DecidableEq (Subtype _))

def Signal.word (s : Signal) : I32 := s.val.setWidth 32

/-- SIGSTOP. -/
def Signal.sigstop : Signal := ⟨19#8, by decide⟩

/-- Status of a ptrace-stop: signal number, with the event above it. -/
def stopStatus (sig event : BitVec 8) : I32 :=
  (event.setWidth 32 <<< 16) ||| (sig.setWidth 32 <<< 8) ||| 0x7f#32

def exitedStatus (code : BitVec 8) : I32 := code.setWidth 32 <<< 8

def signaledStatus (sig : Signal) (core : Bool) : I32 :=
  sig.word ||| if core then 0x80#32 else 0#32

/-! ### Decoding -/

section Decoding

variable (sig event : BitVec 8)

theorem stopStatus_low : stopStatus sig event &&& 0xff#32 = 0x7f#32 := by
  unfold stopStatus
  apply BitVec.eq_of_getLsbD_eq
  intro i hi
  interval_cases i <;> simp

theorem stopStatus_low7 : stopStatus sig event &&& 0x7f#32 = 0x7f#32 := by
  unfold stopStatus
  apply BitVec.eq_of_getLsbD_eq
  intro i hi
  interval_cases i <;> simp

@[simp] theorem wifstopped_stopStatus : wifstopped (stopStatus sig event) = true := by
  simp only [wifstopped, stopStatus_low, beq_self_eq_true]

@[simp] theorem wifexited_stopStatus : wifexited (stopStatus sig event) = false := by
  simp only [wifexited, stopStatus_low7]
  decide

@[simp] theorem wifsignaled_stopStatus : wifsignaled (stopStatus sig event) = false := by
  simp only [wifsignaled, stopStatus_low7]
  decide

@[simp] theorem wstopsig_stopStatus :
    wstopsig (stopStatus sig event) = sig.setWidth 32 := by
  unfold wstopsig stopStatus
  apply BitVec.eq_of_getLsbD_eq
  intro i hi
  simp only [BitVec.getLsbD_and, BitVec.getLsbD_sshiftRight]
  interval_cases i <;> simp

@[simp] theorem ptraceEvent_stopStatus :
    ptraceEvent (stopStatus sig event) = event.setWidth 32 := by
  unfold ptraceEvent stopStatus
  apply BitVec.eq_of_getLsbD_eq
  intro i hi
  simp only [BitVec.getLsbD_and, BitVec.getLsbD_sshiftRight]
  interval_cases i <;> simp

@[simp] theorem wifexited_exitedStatus (code : BitVec 8) : wifexited (exitedStatus code) = true := by
  simp only [wifexited, exitedStatus, beq_iff_eq]
  apply BitVec.eq_of_getLsbD_eq
  intro i hi
  interval_cases i <;> simp

theorem wifsignaled_word (n : BitVec 8) (hlo : 1#8 ≤ n) (hhi : n ≤ 64#8) (core : Bool) :
    wifsignaled (n.setWidth 32 ||| if core then 0x80#32 else 0#32) = true := by
  revert n core
  decide

@[simp] theorem wifsignaled_signaledStatus (s : Signal) (core : Bool) :
    wifsignaled (signaledStatus s core) = true :=
  wifsignaled_word s.val s.property.1 s.property.2 core

/-- No signal number is taken for the syscall-stop mark. -/
theorem Signal.word_ne_syscallStopSig (s : Signal) : s.word ≠ syscallStopSig := by
  have key : ∀ n : BitVec 8, n ≤ 64#8 → n.setWidth 32 ≠ syscallStopSig := by decide
  exact key s.val s.property.2

theorem Signal.word_ne_zero (s : Signal) : s.word ≠ 0#32 := by
  have key : ∀ n : BitVec 8, 1#8 ≤ n → n.setWidth 32 ≠ 0#32 := by decide
  exact key s.val s.property.1

end Decoding

end CudaTrace.Ptrace
