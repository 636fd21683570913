import CudaTrace.Ptrace.FdTable
import CudaTrace.Ptrace.Tables

/-!
# The descriptor maps over a run

A single-threaded process and its tracer: at every moment the two maps of the loop agree
with the kernel's descriptor table.
-/

namespace CudaTrace.Ptrace
open CudaTrace.Base CudaTrace.Fgraph

/-! ### The process -/

/-- The kernel's side: the table, and the call the process is in. -/
structure FdKernel where
  table : FdTable
  call : Option FdCall

inductive FdLabel where
  | enter (env : Env) (regs : UserRegs)
  | leave (env : Env) (regs : UserRegs)
  | other (env : Env) (status : I32)

def argsOf (regs : UserRegs) : Vector U64 6 := regs.args

/-- The call at whose entry the process has these registers. -/
def FdCall.at (env : Env) (pid : Pid) (regs : UserRegs) : FdCall where
  nr := regs.origRax
  args := argsOf regs
  captured := capturePathHint env pid regs.origRax (argsOf regs)

/-- The loop and the process `pid`. Every stop of the process is handled before it goes
on; other stops than those of calls may come at any time. -/
def fdSystem (g : Globals) (pid : Pid) : System (LoopState × FdKernel) FdLabel where
  start x := ∃ controller fdPaths hiddenFds ranges table,
    x = (initialLoop controller fdPaths hiddenFds ranges, ⟨table, none⟩) ∧
      MapsAgree fdPaths hiddenFds table
  step x l y :=
    match l with
    | .enter env regs => x.2.call = none ∧ env.getregs pid = some regs ∧
        y.1 = loopIter g env pid (stopStatus 0x85 0) x.1 ∧
        y.2 = { x.2 with call := some (.at env pid regs) }
    | .leave env regs => ∃ call table, x.2.call = some call ∧ env.getregs pid = some regs ∧
        call.Returns g.config x.2.table regs.rax table ∧
        y.1 = loopIter g env pid (stopStatus 0x85 0) x.1 ∧ y.2 = ⟨table, none⟩
    | .other env status => waitKind status ≠ .syscallStop ∧ waitKind status ≠ .gone ∧
        y.1 = loopIter g env pid status x.1 ∧ y.2 = x.2

/-- An open always has a captured path, if only that its address cannot be read. -/
theorem open_captured (env : Env) (pid : Pid) (regs : UserRegs)
    (h : regs.origRax = sysOpen ∨ regs.origRax = sysOpenat) :
    (FdCall.at env pid regs).captured.isSome := by
  rcases h with h | h
  · rw [FdCall.at, h]
    rfl
  · rw [FdCall.at, h]
    rfl

/-- The record of the process matches the call it is in. -/
def CallRecorded (pid : Pid) (s : LoopState) : Option FdCall → Prop
  | none => ∀ st, s.states pid = some st → st.active = false
  | some call => ∃ st, s.states pid = some st ∧ st.active = true ∧ st.nr = call.nr ∧
      st.args = call.args ∧ st.pathHint = call.captured ∧
      (call.nr = sysOpen ∨ call.nr = sysOpenat → call.captured.isSome)

structure FdInv (pid : Pid) (x : LoopState × FdKernel) : Prop where
  consistent : Consistent x.1
  agree : MapsAgree x.1.fdPaths x.1.hiddenFds x.2.table
  recorded : CallRecorded pid x.1 x.2.call

theorem syscallStop_kind : waitKind (stopStatus 0x85 0) = .syscallStop := by decide

theorem CallRecorded.congr {pid : Pid} {s s' : LoopState} {call : Option FdCall}
    (h : CallRecorded pid s call) (hst : s'.states = s.states) : CallRecorded pid s' call := by
  cases call with
  | none => simpa only [CallRecorded, hst] using h
  | some call => simpa only [CallRecorded, hst] using h

theorem FdInv.enter {g : Globals} {pid : Pid} {x y : LoopState × FdKernel} {env : Env} {regs : UserRegs}
    (h : FdInv pid x) (hs : (fdSystem g pid).step x (.enter env regs) y) : FdInv pid y := by
  obtain ⟨hcall, hregs, hloop, hkernel⟩ := hs
  have hidle : ∀ st, x.1.states pid = some st → st.active = false := by
    have hrec := h.recorded
    rw [hcall] at hrec
    exact hrec
  obtain ⟨state, w, c, ht, hst⟩ :=
    loopIter_entry g env pid h.consistent syscallStop_kind hregs hidle
  obtain ⟨hpaths, hhidden⟩ := loopIter_maps g env pid (stopStatus 0x85 0) x.1 fun _ _ _ => hidle
  constructor
  · rw [hloop]
    exact ht.consistent
  · rw [hloop, hkernel, hpaths, hhidden]
    exact h.agree
  · rw [hloop, hkernel]
    exact ⟨_, hst, rfl, rfl, rfl, rfl, open_captured env pid regs⟩

theorem FdInv.leave {g : Globals} {pid : Pid} {x y : LoopState × FdKernel} {env : Env} {regs : UserRegs}
    (h : FdInv pid x) (hs : (fdSystem g pid).step x (.leave env regs) y) : FdInv pid y := by
  obtain ⟨call, table, hcall, hregs, hret, hloop, hkernel⟩ := hs
  obtain ⟨st, hst, hact, hnr, hargs, hpath, hopen⟩ : CallRecorded pid x.1 (some call) := by
    rw [← hcall]
    exact h.recorded
  obtain ⟨hrun, woken, ht, hst'⟩ :=
    loopIter_exit g env pid h.consistent syscallStop_kind hregs hst hact
  have htables := onExit_tables g env pid regs st (drained env x.1)
  constructor
  · rw [hloop]
    exact ht.consistent
  · rw [hloop, hkernel, hrun, htables.paths, htables.hidden]
    exact h.agree.returns hret hnr hargs hpath hopen
  · rw [hloop, hkernel]
    intro st₁ h₁
    rw [hst'] at h₁
    cases h₁
    rfl

theorem FdInv.other {g : Globals} {pid : Pid} {x y : LoopState × FdKernel} {env : Env} {status : I32}
    (h : FdInv pid x) (hs : (fdSystem g pid).step x (.other env status) y) : FdInv pid y := by
  obtain ⟨hcall, hgone, hloop, hkernel⟩ := hs
  obtain ⟨hpaths, hhidden⟩ := loopIter_maps g env pid status x.1 fun hk => absurd hk hcall
  obtain ⟨hc, hst⟩ := loopIter_records g env pid h.consistent hcall hgone
  constructor
  · rw [hloop]
    exact hc
  · rw [hloop, hkernel, hpaths, hhidden]
    exact h.agree
  · rw [hloop, hkernel]
    exact h.recorded.congr hst

/-- At every moment of a run the maps agree with the table. -/
theorem descriptor_maps_agree (g : Globals) (pid : Pid) (x : LoopState × FdKernel)
    (h : (fdSystem g pid).Reachable x) : MapsAgree x.1.fdPaths x.1.hiddenFds x.2.table := by
  have hinv : FdInv pid x := by
    apply h.invariant
    · intro y hy
      obtain ⟨controller, fdPaths, hiddenFds, ranges, table, rfl, hagree⟩ := hy
      exact ⟨initialLoop_consistent _ _ _ _, hagree, fun st hst => by cases hst⟩
    · intro y l z hinv _ hstep
      cases l with
      | enter env regs => exact hinv.enter hstep
      | leave env regs => exact hinv.leave hstep
      | other env status => exact hinv.other hstep
  exact hinv.agree

/-! A process that opens a file of cudatrace's and duplicates its descriptor. -/

/-- The path of an open is readable wherever it lies. -/
def pathEnv (regs : UserRegs) : Env :=
  { Env.regsAt regs with
    processVmReadv := fun _ _ _ => some (utf8Bytes "cudatrace.output.tid-7" ++ [0]) }

def openatRegs : UserRegs := { UserRegs.entering sysOpenat with rsi := 4096 }

def dup2Regs : UserRegs := { UserRegs.entering sysDup2 with rdi := 3, rsi := 5 }

/-- The loop at the entry and the exit of a call. -/
def callTurns (regs : UserRegs) (ret : U64) (s : LoopState) : LoopState :=
  loopIter plainGlobals (pathEnv { regs with rax := ret }) 100 (stopStatus 0x85 0)
    (loopIter plainGlobals (pathEnv regs) 100 (stopStatus 0x85 0) s)

def openThenDup2 : LoopState := callTurns dup2Regs 5 (callTurns openatRegs 3 idleLoop)

/-- A whole call, from its entry to its exit. -/
theorem callTurns_reachable {s : LoopState} {table table' : FdTable} {regs : UserRegs} {ret : U64}
    (h : (fdSystem plainGlobals 100).Reachable (s, ⟨table, none⟩))
    (hret : (FdCall.at (pathEnv regs) 100 regs).Returns plainGlobals.config table ret table') :
    (fdSystem plainGlobals 100).Reachable (callTurns regs ret s, ⟨table', none⟩) := by
  have henter : (fdSystem plainGlobals 100).step (s, ⟨table, none⟩) (.enter (pathEnv regs) regs)
      (loopIter plainGlobals (pathEnv regs) 100 (stopStatus 0x85 0) s,
        ⟨table, some (.at (pathEnv regs) 100 regs)⟩) := ⟨rfl, rfl, rfl, rfl⟩
  have hleave : (fdSystem plainGlobals 100).step
      (loopIter plainGlobals (pathEnv regs) 100 (stopStatus 0x85 0) s,
        ⟨table, some (.at (pathEnv regs) 100 regs)⟩)
      (.leave (pathEnv { regs with rax := ret }) { regs with rax := ret })
      (callTurns regs ret s, ⟨table', none⟩) := ⟨_, _, rfl, rfl, hret, rfl, rfl⟩
  exact .step (.step h trivial henter) trivial hleave

theorem descriptor_maps_agree_dup2 : ∃ table,
    (fdSystem plainGlobals 100).Reachable (openThenDup2, ⟨table, none⟩) ∧
      openThenDup2.fdPaths 5 = some "cudatrace.output.tid-7" ∧ openThenDup2.hiddenFds 5 = true ∧
      MapsAgree openThenDup2.fdPaths openThenDup2.hiddenFds table := by
  have h0 : (fdSystem plainGlobals 100).Reachable (idleLoop, ⟨fun _ => none, none⟩) :=
    .start ⟨_, _, _, _, _, rfl, fun _ => rfl, fun _ => rfl, nofun⟩
  have h1 := callTurns_reachable h0 (@FdCall.Returns.opened plainGlobals.config
    (FdCall.at (pathEnv openatRegs) 100 openatRegs) _ 3 (Or.inr rfl) rfl)
  have h2 := callTurns_reachable h1 (@FdCall.Returns.replaced plainGlobals.config
    (FdCall.at (pathEnv dup2Regs) 100 dup2Regs) _ _ (Or.inl rfl) rfl)
  exact ⟨_, h2, by decide, by decide, descriptor_maps_agree plainGlobals 100 _ h2⟩

end CudaTrace.Ptrace
