import CudaTrace.Decode.Ioctl
import CudaTrace.Ptrace.FdSimulation

/-!
# Stale paths

The two maps follow six calls. Any other call may change the kernel's table too; a map
entry is stale from the moment such a call has closed its descriptor or made it refer to
something else.
-/

namespace CudaTrace.Ptrace
open CudaTrace.Base CudaTrace.Fgraph CudaTrace.Decode

/-! ### What the maps are used for -/

/-- The descriptor that `is_hidden_fd_syscall` looks up. -/
def FdCall.hiddenArg (call : FdCall) : Option I32 :=
  if call.nr ∈ [sysRead, sysWrite, sysClose, sysIoctl, sysFstat, sysLseek, sysPread64,
      sysPwrite64, sysDup, sysDup2, sysDup3] then some call.fd₀
  else if call.nr = sysMmap then some ((call.args.get 4).setWidth 32)
  else none

/-- The decoder of `format_ioctl_line`. -/
def ioctlLineDecoder (cfg : Config) (state : SyscallState) (fdPaths : FdPaths) : Option IoctlDecoder :=
  let path := fdPaths ((state.args.get 0).setWidth 32)
  if path.any isGpuPath then ioctlDecoder cfg.ioctlDecode path else none

theorem isHiddenFdSyscall_eq {state : SyscallState} {call : FdCall} (hnr : state.nr = call.nr)
    (hargs : state.args = call.args) (hidden : HiddenFds) :
    isHiddenFdSyscall state hidden = call.hiddenArg.any hidden := by
  simp only [isHiddenFdSyscall, FdCall.hiddenArg, FdCall.fd₀, hnr, hargs]
  split_ifs
  · simp
  · simp
  · simp

/-! ### Stale entries -/

/-- The entries of the two maps that are stale. -/
structure Stale where
  paths : I32 → Prop
  hidden : I32 → Prop

def Stale.empty : Stale := ⟨fun _ => False, fun _ => False⟩

/-- A followed call sets the entry of one descriptor, and a duplicate is as stale as its
source. The hidden mark of a descriptor is not taken away by `open` and `dup`. -/
def Stale.follow (cfg : Config) (call : FdCall) (ret : I64) (hidden : HiddenFds) (stale : Stale) : Stale :=
  let fd : I32 := ret.setWidth 32
  if isKernelError ret then stale
  else if call.nr = sysOpen ∨ call.nr = sysOpenat then
    { paths := Function.update stale.paths fd False
      hidden := if call.captured.any (isCudatraceOutputPath cfg) then Function.update stale.hidden fd False
        else stale.hidden }
  else if call.nr = sysClose then
    { paths := Function.update stale.paths call.fd₀ False
      hidden := Function.update stale.hidden call.fd₀ False }
  else if call.nr = sysDup then
    { paths := Function.update stale.paths fd (stale.paths call.fd₀)
      hidden := if hidden call.fd₀ then Function.update stale.hidden fd (stale.hidden call.fd₀)
        else stale.hidden }
  else
    { paths := Function.update stale.paths fd (stale.paths call.fd₀)
      hidden := Function.update stale.hidden fd (stale.hidden call.fd₀) }

/-- Any other call makes the entries of the descriptors it changes stale. -/
def Stale.unfollowed (fdPaths : FdPaths) (hidden : HiddenFds) (table table' : FdTable) (stale : Stale) :
    Stale where
  paths fd := stale.paths fd ∨ (fdPaths fd ≠ none ∧ table' fd ≠ table fd)
  hidden fd := stale.hidden fd ∨ (hidden fd = true ∧ table' fd ≠ table fd)

/-- Entries that are not stale tell the truth about the table. -/
def PathsSound (stale : I32 → Prop) (fdPaths : FdPaths) (table : FdTable) : Prop :=
  ∀ fd path, ¬ stale fd → fdPaths fd = some path → ∃ ofd, table fd = some ofd ∧ ofd.path = some path

def HiddenSound (stale : I32 → Prop) (hidden : HiddenFds) (table : FdTable) : Prop :=
  ∀ fd, ¬ stale fd → hidden fd = true → ∃ ofd, table fd = some ofd ∧ ofd.hidden = true

section Sound

variable {cfg : Config} {stale : I32 → Prop} {fdPaths : FdPaths} {hidden : HiddenFds}
  {table : FdTable} {fd : I32}

theorem MapsAgree.pathsSound (h : MapsAgree fdPaths hidden table) : PathsSound stale fdPaths table := by
  intro fd path _ hpath
  rw [h.paths fd] at hpath
  obtain ⟨ofd, hofd, hp⟩ := Option.bind_eq_some_iff.mp hpath
  exact ⟨ofd, hofd, hp⟩

theorem MapsAgree.hiddenSound (h : MapsAgree fdPaths hidden table) : HiddenSound stale hidden table := by
  intro fd _ hhid
  rw [h.hidden fd] at hhid
  exact (Option.any_eq_true _ _).mp hhid

/-- One descriptor changes in the map and in the table. -/
theorem PathsSound.set (h : PathsSound stale fdPaths table) {s : Prop} {v : Option String}
    {r : Option Ofd} (hv : ¬ s → ∀ path, v = some path → ∃ ofd, r = some ofd ∧ ofd.path = some path) :
    PathsSound (Function.update stale fd s) (Function.update fdPaths fd v)
      (Function.update table fd r) := by
  intro fd' path
  by_cases he : fd' = fd
  · subst he
    simp only [Function.update_self]
    exact fun hs => hv hs path
  · simp only [Function.update_of_ne he]
    exact h fd' path

theorem HiddenSound.set (h : HiddenSound stale hidden table) {s : Prop} {b : Bool} {r : Option Ofd}
    (hb : ¬ s → b = true → ∃ ofd, r = some ofd ∧ ofd.hidden = true) :
    HiddenSound (Function.update stale fd s) (Function.update hidden fd b)
      (Function.update table fd r) := by
  intro fd'
  by_cases he : fd' = fd
  · subst he
    simp only [Function.update_self]
    exact hb
  · simp only [Function.update_of_ne he]
    exact h fd'

/-- A mark that is left alone is stale if the descriptor was closed. -/
theorem HiddenSound.keep (h : HiddenSound stale hidden table) (hnew : table fd = none)
    (r : Option Ofd) : HiddenSound stale hidden (Function.update table fd r) := by
  intro fd' hs hhid
  obtain ⟨ofd, hofd, ho⟩ := h fd' hs hhid
  have hne : fd' ≠ fd := by
    intro he
    rw [he, hnew] at hofd
    cases hofd
  exact ⟨ofd, (Function.update_of_ne hne r table).trans hofd, ho⟩

theorem Stale.follow_failed {call : FdCall} {ret : I64} (hret : isKernelError ret) (stale : Stale) :
    stale.follow cfg call ret hidden = stale := by
  simp only [Stale.follow, hret, if_true]

/-- The two updates at the exit of a followed call. -/
theorem sound_returns {call : FdCall} {ret : I64} {table' : FdTable} {state : SyscallState}
    {stale : Stale} (hp : PathsSound stale.paths fdPaths table)
    (hh : HiddenSound stale.hidden hidden table) (hr : call.Returns cfg table ret table')
    (hin : call.nr ∈ changesFds) (hnr : state.nr = call.nr) (hargs : state.args = call.args)
    (hpath : state.pathHint = call.captured)
    (hopen : call.nr = sysOpen ∨ call.nr = sysOpenat → call.captured.isSome) :
    PathsSound (stale.follow cfg call ret hidden).paths
        (updateFdPaths fdPaths state (normalizeRet ret)) table' ∧
      HiddenSound (stale.follow cfg call ret hidden).hidden
        (updateHiddenFds cfg state (normalizeRet ret) hidden) table' := by
  have hfd₀ : (state.args.get 0).setWidth 32 = call.fd₀ := by rw [hargs]; rfl
  cases hr with
  | failed he =>
    obtain ⟨h1, h2⟩ := @updates_failed cfg fdPaths hidden state
    rw [normalizeRet_error he, h1, h2, Stale.follow_failed he]
    exact ⟨hp, hh⟩
  | other hn => exact absurd hin hn
  | @opened fd hop hnew =>
    obtain ⟨path, hcap⟩ := Option.isSome_iff_exists.mp (hopen hop)
    have hofd : openedOfd cfg call.captured = ⟨some path, isCudatraceOutputPath cfg path⟩ := by
      rw [openedOfd, hcap, Option.any_some]
    have hout : isCudatraceOutputOpen cfg state = isCudatraceOutputPath cfg path := by
      rw [isCudatraceOutputOpen, hpath, hcap]
    have hfollow : stale.follow cfg call (fd.setWidth 64) hidden =
        { paths := Function.update stale.paths fd False
          hidden := if isCudatraceOutputPath cfg path then Function.update stale.hidden fd False
            else stale.hidden } := by
      simp [Stale.follow, not_kernelError fd, (returned_fd fd).2.2, hop, hcap]
    rw [hfollow, (returned_fd fd).1, updateFdPaths_open (hnr ▸ hop) (hpath.trans hcap),
      updateHiddenFds_open (hnr ▸ hop), hout, hofd]
    constructor
    · apply hp.set
      intro _ p hp'
      exact ⟨_, rfl, hp'⟩
    · cases hmark : isCudatraceOutputPath cfg path with
      | true =>
        apply hh.set
        intro _ _
        exact ⟨_, rfl, rfl⟩
      | false => exact hh.keep hnew _
  | closed hcl =>
    have hfollow : stale.follow cfg call 0 hidden =
        { paths := Function.update stale.paths call.fd₀ False
          hidden := Function.update stale.hidden call.fd₀ False } := by
      have hzero : isKernelError 0#64 = false := by decide
      simp [Stale.follow, hzero, hcl, sysOpen, sysOpenat, sysClose]
    have hzero : normalizeRet 0 = 0 := by decide
    rw [hfollow, hzero, updateFdPaths_close (hnr.trans hcl), updateHiddenFds_close (hnr.trans hcl), hfd₀]
    constructor
    · apply hp.set
      intro _ p hp'
      cases hp'
    · apply hh.set
      intro _ hh'
      cases hh'
  | @duplicated fd ofd hd hold hnew =>
    have hfollow : stale.follow cfg call (fd.setWidth 64) hidden =
        { paths := Function.update stale.paths fd (stale.paths call.fd₀)
          hidden := if hidden call.fd₀ then Function.update stale.hidden fd (stale.hidden call.fd₀)
            else stale.hidden } := by
      simp [Stale.follow, not_kernelError fd, (returned_fd fd).2.2, hd, sysOpen, sysOpenat, sysClose, sysDup]
    rw [hfollow, (returned_fd fd).1, updateFdPaths_dup (Or.inl (hnr.trans hd)),
      updateHiddenFds_dup (hnr.trans hd), hfd₀, ← hold]
    constructor
    · apply hp.set
      exact fun hs path => hp call.fd₀ path hs
    · cases hmark : hidden call.fd₀ with
      | true =>
        apply hh.set
        exact fun hs _ => hh call.fd₀ hs hmark
      | false => exact hh.keep hnew _
  | @replaced ofd hd hold =>
    have hd' : call.nr = sysDup2 ∨ call.nr = sysDup3 := hd.imp_right And.left
    have hfollow : stale.follow cfg call (call.fd₁.setWidth 64) hidden =
        { paths := Function.update stale.paths call.fd₁ (stale.paths call.fd₀)
          hidden := Function.update stale.hidden call.fd₁ (stale.hidden call.fd₀) } := by
      have hother : ¬ (call.nr = sysOpen ∨ call.nr = sysOpenat) ∧ call.nr ≠ sysClose ∧
          call.nr ≠ sysDup := by
        rcases hd' with h | h
        · rw [h]
          decide
        · rw [h]
          decide
      simp only [Stale.follow, not_kernelError, (returned_fd call.fd₁).2.2, hother, if_false,
        Bool.false_eq_true]
    rw [hfollow, (returned_fd call.fd₁).1, updateFdPaths_dup (Or.inr (hnr ▸ hd')),
      updateHiddenFds_dup2 (hnr ▸ hd'), hfd₀, ← hold]
    constructor
    · apply hp.set
      exact fun hs path => hp call.fd₀ path hs
    · apply hh.set
      exact hh call.fd₀

/-- A call that the maps do not follow. -/
theorem sound_unfollowed {call : FdCall} {ret : I64} {table' : FdTable} {state : SyscallState}
    {stale : Stale} (hp : PathsSound stale.paths fdPaths table)
    (hh : HiddenSound stale.hidden hidden table) (hout : call.nr ∉ changesFds)
    (hnr : state.nr = call.nr) :
    PathsSound (stale.unfollowed fdPaths hidden table table').paths
        (updateFdPaths fdPaths state ret) table' ∧
      HiddenSound (stale.unfollowed fdPaths hidden table table').hidden
        (updateHiddenFds cfg state ret hidden) table' := by
  obtain ⟨h1, h2⟩ := @updates_other cfg fdPaths hidden state ret (hnr ▸ hout)
  rw [h1, h2]
  constructor
  · intro fd path hs hpath
    obtain ⟨hold, hnew⟩ := not_or.mp hs
    have hsame : table' fd = table fd := by
      by_contra hne
      exact hnew ⟨by rw [hpath]; exact Option.some_ne_none path, hne⟩
    rw [hsame]
    exact hp fd path hold hpath
  · intro fd hs hhid
    obtain ⟨hold, hnew⟩ := not_or.mp hs
    have hsame : table' fd = table fd := by
      by_contra hne
      exact hnew ⟨hhid, hne⟩
    rw [hsame]
    exact hh fd hold hhid

end Sound

/-! ### The process -/

/-- What the kernel does in a call: what the six followed calls do, or anything at all. -/
inductive FdCall.Executes (cfg : Config) (call : FdCall) (table : FdTable) : I64 → FdTable → Prop
  | followed {ret table'} (h : call.Returns cfg table ret table') : Executes cfg call table ret table'
  | unfollowed {ret table'} (hnr : call.nr ∉ changesFds) : Executes cfg call table ret table'

structure Process where
  table : FdTable
  call : Option FdCall
  stale : Stale

def Process.staleAfter (cfg : Config) (s : LoopState) (k : Process) (call : FdCall) (ret : I64)
    (table' : FdTable) : Stale :=
  if call.nr ∈ changesFds then k.stale.follow cfg call ret s.hiddenFds
  else k.stale.unfollowed s.fdPaths s.hiddenFds k.table table'

/-- The loop and the process `pid`, which may make any calls. -/
def callSystem (g : Globals) (pid : Pid) : System (LoopState × Process) FdLabel where
  start x := ∃ controller fdPaths hiddenFds ranges table,
    x = (initialLoop controller fdPaths hiddenFds ranges, ⟨table, none, .empty⟩) ∧
      MapsAgree fdPaths hiddenFds table
  step x l y :=
    match l with
    | .enter env regs => x.2.call = none ∧ env.getregs pid = some regs ∧
        y.1 = loopIter g env pid (stopStatus 0x85 0) x.1 ∧
        y.2 = { x.2 with call := some (.at env pid regs) }
    | .leave env regs => ∃ call table, x.2.call = some call ∧ env.getregs pid = some regs ∧
        call.Executes g.config x.2.table regs.rax table ∧
        y.1 = loopIter g env pid (stopStatus 0x85 0) x.1 ∧
        y.2 = ⟨table, none, x.2.staleAfter g.config x.1 call regs.rax table⟩
    | .other env status => waitKind status ≠ .syscallStop ∧ waitKind status ≠ .gone ∧
        y.1 = loopIter g env pid status x.1 ∧ y.2 = x.2

structure ProcessInv (pid : Pid) (x : LoopState × Process) : Prop where
  consistent : Consistent x.1
  paths : PathsSound x.2.stale.paths x.1.fdPaths x.2.table
  hidden : HiddenSound x.2.stale.hidden x.1.hiddenFds x.2.table
  recorded : CallRecorded pid x.1 x.2.call

namespace ProcessInv

variable {g : Globals} {pid : Pid} {x y : LoopState × Process} {env : Env} {regs : UserRegs}

theorem enter (h : ProcessInv pid x) (hs : (callSystem g pid).step x (.enter env regs) y) :
    ProcessInv pid y := by
  obtain ⟨hcall, hregs, hloop, hkernel⟩ := hs
  have hidle : ∀ st, x.1.states pid = some st → st.active = false := by
    have hrec := h.recorded
    rw [hcall] at hrec
    exact hrec
  obtain ⟨state, w, c, ht, hst⟩ :=
    loopIter_entry g env pid h.consistent syscallStop_kind hregs hidle
  obtain ⟨hpaths, hhidden⟩ := loopIter_maps g env pid (stopStatus 0x85 0) x.1 fun _ _ _ => hidle
  constructor
  · rw [hloop]
    exact ht.consistent
  · rw [hloop, hkernel, hpaths]
    exact h.paths
  · rw [hloop, hkernel, hhidden]
    exact h.hidden
  · rw [hloop, hkernel]
    exact ⟨_, hst, rfl, rfl, rfl, rfl, open_captured env pid regs⟩

theorem leave (h : ProcessInv pid x) (hs : (callSystem g pid).step x (.leave env regs) y) :
    ProcessInv pid y := by
  obtain ⟨call, table, hcall, hregs, hexec, hloop, hkernel⟩ := hs
  obtain ⟨st, hst, hact, hnr, hargs, hpath, hopen⟩ : CallRecorded pid x.1 (some call) := by
    rw [← hcall]
    exact h.recorded
  obtain ⟨hrun, woken, ht, hst'⟩ :=
    loopIter_exit g env pid h.consistent syscallStop_kind hregs hst hact
  have htables := onExit_tables g env pid regs st (drained env x.1)
  have hboth : PathsSound (x.2.staleAfter g.config x.1 call regs.rax table).paths
        (updateFdPaths x.1.fdPaths st (normalizeRet regs.rax)) table ∧
      HiddenSound (x.2.staleAfter g.config x.1 call regs.rax table).hidden
        (updateHiddenFds g.config st (normalizeRet regs.rax) x.1.hiddenFds) table := by
    unfold Process.staleAfter
    by_cases hin : call.nr ∈ changesFds
    · rw [if_pos hin]
      cases hexec with
      | followed hret => exact sound_returns h.paths h.hidden hret hin hnr hargs hpath hopen
      | unfollowed hout => exact absurd hin hout
    · rw [if_neg hin]
      exact sound_unfollowed h.paths h.hidden hin hnr
  constructor
  · rw [hloop]
    exact ht.consistent
  · rw [hloop, hkernel, hrun, htables.paths]
    exact hboth.1
  · rw [hloop, hkernel, hrun, htables.hidden]
    exact hboth.2
  · rw [hloop, hkernel]
    intro st₁ h₁
    rw [hst'] at h₁
    cases h₁
    rfl

theorem other {status : I32} (h : ProcessInv pid x)
    (hs : (callSystem g pid).step x (.other env status) y) : ProcessInv pid y := by
  obtain ⟨hcall, hgone, hloop, hkernel⟩ := hs
  obtain ⟨hpaths, hhidden⟩ := loopIter_maps g env pid status x.1 fun hk => absurd hk hcall
  obtain ⟨hc, hst⟩ := loopIter_records g env pid h.consistent hcall hgone
  constructor
  · rw [hloop]
    exact hc
  · rw [hloop, hkernel, hpaths]
    exact h.paths
  · rw [hloop, hkernel, hhidden]
    exact h.hidden
  · rw [hloop, hkernel]
    exact h.recorded.congr hst

end ProcessInv

theorem processInv_of_reachable {g : Globals} {pid : Pid} {x : LoopState × Process}
    (h : (callSystem g pid).Reachable x) : ProcessInv pid x := by
  apply h.invariant
  · intro y hy
    obtain ⟨controller, fdPaths, hiddenFds, ranges, table, rfl, hagree⟩ := hy
    exact ⟨initialLoop_consistent _ _ _ _, hagree.pathsSound, hagree.hiddenSound, nofun⟩
  · intro y l z hinv _ hstep
    cases l with
    | enter env regs => exact hinv.enter hstep
    | leave env regs => exact hinv.leave hstep
    | other env status => exact hinv.other hstep

/-- The descriptor an open returned, when its line is left out for the path. -/
theorem opened_hidden {cfg : Config} {call : FdCall} {ret : I64} {table table' : FdTable}
    {state : SyscallState} (hexec : call.Executes cfg table ret table') (hnr : state.nr = call.nr)
    (hpath : state.pathHint = call.captured) (hopen : state.nr = sysOpen ∨ state.nr = sysOpenat)
    (hret : 0 ≤ (normalizeRet ret).toInt) (hout : isCudatraceOutputOpen cfg state = true) :
    ∃ fd ofd, ret = fd.setWidth 64 ∧ table' fd = some ofd ∧ ofd.hidden = true := by
  have hcaptured : call.captured.any (isCudatraceOutputPath cfg) = true := by
    rw [isCudatraceOutputOpen, hpath] at hout
    cases hcap : call.captured with
    | none =>
      rw [hcap] at hout
      cases hout
    | some path =>
      rw [hcap] at hout
      exact hout
  rw [hnr] at hopen
  have hin : call.nr ∈ changesFds ∧ call.nr ≠ sysClose ∧ call.nr ≠ sysDup ∧ call.nr ≠ sysDup2 ∧
      call.nr ≠ sysDup3 := by
    rcases hopen with h | h
    · rw [h]
      decide
    · rw [h]
      decide
  obtain ⟨hin, hclose, hdup, hdup2, hdup3⟩ := hin
  cases hexec with
  | unfollowed hn => exact absurd hin hn
  | followed hr =>
    cases hr with
    | failed he =>
      rw [normalizeRet_error he] at hret
      exact absurd hret (by decide)
    | other hn => exact absurd hin hn
    | closed hcl => exact absurd hcl hclose
    | duplicated hd => exact absurd hd hdup
    | replaced hd =>
      rcases hd with h | ⟨h, -⟩
      · exact absurd h hdup2
      · exact absurd h hdup3
    | @opened fd hop hnew => exact ⟨fd, _, rfl, Function.update_self _ _ _, hcaptured⟩

/-! ### A device descriptor that `close_range` closes

Descriptor 3 is `/dev/nvidiactl` when the tracer attaches. The process closes it with
`close_range`, `socket` returns the same number, and an ioctl on the socket follows. -/

def sysSocket : I64 := 41
def sysCloseRange : I64 := 436

def deviceTable : FdTable := Function.update (fun _ => none) 3 (some ⟨some "/dev/nvidiactl", false⟩)

def deviceLoop : LoopState :=
  initialLoop none (Function.update (fun _ => none) 3 (some "/dev/nvidiactl"))
    (Function.update (fun _ => false) 3 false) []

def ioctlRegs : UserRegs := { UserRegs.entering sysIoctl with rdi := 3 }

theorem deviceLoop_start :
    (callSystem plainGlobals 100).Reachable (deviceLoop, ⟨deviceTable, none, .empty⟩) := by
  apply System.Reach.start
  refine ⟨none, _, _, [], deviceTable, rfl, ?_⟩
  exact MapsAgree.empty.set 3 (some ⟨some "/dev/nvidiactl", false⟩) fun ofd ho => by
    cases ho
    rfl

/-- The entry stop of a call. -/
def entryTurn (regs : UserRegs) (s : LoopState) : LoopState :=
  loopIter plainGlobals (pathEnv regs) 100 (stopStatus 0x85 0) s

theorem entryTurn_reachable {s : LoopState} {k : Process} (regs : UserRegs)
    (h : (callSystem plainGlobals 100).Reachable (s, k)) (hk : k.call = none) :
    (callSystem plainGlobals 100).Reachable
      (entryTurn regs s, { k with call := some (.at (pathEnv regs) 100 regs) }) := by
  have hs : (callSystem plainGlobals 100).step (s, k) (.enter (pathEnv regs) regs)
      (entryTurn regs s, { k with call := some (.at (pathEnv regs) 100 regs) }) := ⟨hk, rfl, rfl, rfl⟩
  exact h.step trivial hs

/-- A whole call that the maps do not follow. -/
theorem unfollowed_reachable {s : LoopState} {k : Process} (regs : UserRegs) (ret : U64)
    (table : FdTable) (h : (callSystem plainGlobals 100).Reachable (s, k)) (hk : k.call = none)
    (hnr : (FdCall.at (pathEnv regs) 100 regs).nr ∉ changesFds) :
    ∃ stale, (callSystem plainGlobals 100).Reachable (callTurns regs ret s, ⟨table, none, stale⟩) := by
  have hs : (callSystem plainGlobals 100).step
      (entryTurn regs s, { k with call := some (.at (pathEnv regs) 100 regs) })
      (.leave (pathEnv { regs with rax := ret }) { regs with rax := ret })
      (callTurns regs ret s, ⟨table, none, Process.staleAfter plainGlobals.config (entryTurn regs s)
        { k with call := some (.at (pathEnv regs) 100 regs) } (.at (pathEnv regs) 100 regs) ret table⟩) :=
    ⟨_, _, rfl, rfl, .unfollowed hnr, rfl, rfl⟩
  exact ⟨_, (entryTurn_reachable regs h hk).step trivial hs⟩

def socketLoop : LoopState :=
  callTurns (UserRegs.entering sysSocket) 3 (callTurns (UserRegs.entering sysCloseRange) 0 deviceLoop)

/-- In every run, for entries that are not stale: a path on record is that of the description
the descriptor refers to, an ioctl gets the decoder of its device, and a line that is left out
for its descriptor is about a file of cudatrace's. -/
theorem no_stale_path (g : Globals) (pid : Pid) (x : LoopState × Process)
    (h : (callSystem g pid).Reachable x) :
    (∀ fd path, ¬ x.2.stale.paths fd → x.1.fdPaths fd = some path →
      ∃ ofd, x.2.table fd = some ofd ∧ ofd.path = some path) ∧
    ∀ call st, x.2.call = some call → x.1.states pid = some st →
      (∀ d, ioctlLineDecoder g.config st x.1.fdPaths = some d → ¬ x.2.stale.paths call.fd₀ →
        ∃ ofd, x.2.table call.fd₀ = some ofd ∧ d.accepts ofd.path = true) ∧
      ∀ env regs y, (callSystem g pid).step x (.leave env regs) y →
        suppressed g.config st regs.rax x.1.hiddenFds = true →
        (∃ fd, call.hiddenArg = some fd ∧ (x.2.stale.hidden fd ∨
          ∃ ofd, x.2.table fd = some ofd ∧ ofd.hidden = true)) ∨
        ((call.nr = sysOpen ∨ call.nr = sysOpenat) ∧
          ∃ fd ofd, regs.rax = fd.setWidth 64 ∧ y.2.table fd = some ofd ∧ ofd.hidden = true) := by
  have hinv := processInv_of_reachable h
  constructor
  · exact hinv.paths
  · intro call st hcall hst
    obtain ⟨st₀, hst₀, -, hnr, hargs, hpath, -⟩ : CallRecorded pid x.1 (some call) := by
      rw [← hcall]
      exact hinv.recorded
    obtain rfl := Option.some.inj (hst.symm.trans hst₀)
    have hfd₀ : (st.args.get 0).setWidth 32 = call.fd₀ := by
      rw [hargs]
      rfl
    constructor
    · intro d hd hfresh
      unfold ioctlLineDecoder at hd
      rw [hfd₀] at hd
      obtain ⟨hgpu, hd⟩ := Option.ite_none_right_eq_some.mp hd
      obtain ⟨path, hfd, -⟩ := (Option.any_eq_true _ _).mp hgpu
      obtain ⟨ofd, hofd, ho⟩ := hinv.paths call.fd₀ path hfresh hfd
      rw [hfd] at hd
      exact ⟨ofd, hofd, ho ▸ accepts_of_ioctlDecoder hd⟩
    · intro env regs y hstep hsup
      obtain ⟨call', table, hcall', -, hexec, -, hk⟩ := hstep
      obtain rfl := Option.some.inj (hcall.symm.trans hcall')
      rw [suppressed, isHiddenFdSyscall_eq hnr hargs, Bool.or_eq_true] at hsup
      rcases hsup with harg | hop
      · left
        obtain ⟨fd, hfd, hmark⟩ := (Option.any_eq_true _ _).mp harg
        by_cases hs : x.2.stale.hidden fd
        · exact ⟨fd, hfd, Or.inl hs⟩
        · exact ⟨fd, hfd, Or.inr (hinv.hidden fd hs hmark)⟩
      · right
        simp only [Bool.and_eq_true, Bool.or_eq_true, beq_iff_eq, decide_eq_true_eq] at hop
        obtain ⟨⟨hopen, hret⟩, hout⟩ := hop
        rw [hk]
        exact ⟨hnr ▸ hopen, opened_hidden hexec hnr hpath hopen hret hout⟩

theorem no_stale_path_ioctl : ∃ x call st ofd, (callSystem plainGlobals 100).Reachable x ∧
    x.2.call = some call ∧ x.1.states 100 = some st ∧
    ioctlLineDecoder plainGlobals.config st x.1.fdPaths = some .rm ∧ x.2.table 3 = some ofd ∧
    isNvidiaRmPath ofd.path = true := by
  obtain ⟨st, hst, hd⟩ : ∃ st, (entryTurn ioctlRegs deviceLoop).states 100 = some st ∧
      ioctlLineDecoder plainGlobals.config st (entryTurn ioctlRegs deviceLoop).fdPaths = some .rm :=
    ⟨_, rfl, by decide⟩
  have hreach := entryTurn_reachable ioctlRegs deviceLoop_start rfl
  obtain ⟨-, hcall⟩ := no_stale_path plainGlobals 100 _ hreach
  obtain ⟨hdec, -⟩ := hcall _ st rfl hst
  obtain ⟨ofd, hofd, hacc⟩ := hdec .rm hd (fun hs => hs)
  exact ⟨_, _, st, ofd, hreach, rfl, hst, hd, hofd, hacc⟩

theorem stale_path_decoded : ∃ x call st, (callSystem plainGlobals 100).Reachable x ∧
    x.2.call = some call ∧ x.1.states 100 = some st ∧
    x.1.fdPaths 3 = some "/dev/nvidiactl" ∧
    ioctlLineDecoder plainGlobals.config st x.1.fdPaths = some .rm ∧
    x.2.table 3 = some ⟨none, false⟩ := by
  obtain ⟨st, hst, hpath, hd⟩ : ∃ st, (entryTurn ioctlRegs socketLoop).states 100 = some st ∧
      (entryTurn ioctlRegs socketLoop).fdPaths 3 = some "/dev/nvidiactl" ∧
      ioctlLineDecoder plainGlobals.config st (entryTurn ioctlRegs socketLoop).fdPaths = some .rm :=
    ⟨_, rfl, by decide, by decide⟩
  obtain ⟨_, h1⟩ := unfollowed_reachable (.entering sysCloseRange) 0 (fun _ => none) deviceLoop_start rfl (by decide)
  obtain ⟨_, h2⟩ := unfollowed_reachable (.entering sysSocket) 3 (Function.update (fun _ => none) 3 (some ⟨none, false⟩)) h1 rfl
    (by decide)
  have h3 := entryTurn_reachable ioctlRegs h2 rfl
  exact ⟨_, _, st, h3, rfl, hst, hpath, hd, rfl⟩

end CudaTrace.Ptrace
