import CudaTrace.Ptrace.FdMaps

/-!
# The kernel's descriptor table

The descriptors of a process, each with its open file description, and what the calls
that change them do. The two maps of the tracer follow every such call.
-/

namespace CudaTrace.Ptrace
open CudaTrace.Base

/-- An open file description: the path that was captured when it was opened (or seeded),
and whether it is one of cudatrace's own files. -/
structure Ofd where
  path : Option String
  hidden : Bool
  deriving DecidableEq

abbrev FdTable := I32 → Option Ofd

/-- A call in progress with the path captured at its entry. -/
structure FdCall where
  nr : I64
  args : Vector U64 6
  captured : Option String

/-- The first and the second descriptor argument. -/
def FdCall.fd₀ (call : FdCall) : I32 := (call.args.get 0).setWidth 32
def FdCall.fd₁ (call : FdCall) : I32 := (call.args.get 1).setWidth 32

/-- The description an `open` with this captured path creates. -/
def openedOfd (cfg : Config) (captured : Option String) : Ofd :=
  ⟨captured, captured.any (isCudatraceOutputPath cfg)⟩

def changesFds : List I64 := [sysOpen, sysOpenat, sysClose, sysDup, sysDup2, sysDup3]

/-- What the kernel may do at the return of a call, with its return value. A new
descriptor is one that was not open. -/
inductive FdCall.Returns (cfg : Config) (call : FdCall) (table : FdTable) : I64 → FdTable → Prop
  | failed {ret} (h : isKernelError ret) : Returns cfg call table ret table
  | opened {fd : I32} (hnr : call.nr = sysOpen ∨ call.nr = sysOpenat) (hnew : table fd = none) :
      Returns cfg call table (fd.setWidth 64)
        (Function.update table fd (some (openedOfd cfg call.captured)))
  | closed (hnr : call.nr = sysClose) :
      Returns cfg call table 0 (Function.update table call.fd₀ none)
  | duplicated {fd : I32} {ofd} (hnr : call.nr = sysDup)
      (hold : table call.fd₀ = some ofd) (hnew : table fd = none) :
      Returns cfg call table (fd.setWidth 64) (Function.update table fd (some ofd))
  | replaced {ofd} (hnr : call.nr = sysDup2 ∨ (call.nr = sysDup3 ∧ call.fd₀ ≠ call.fd₁))
      (hold : table call.fd₀ = some ofd) :
      Returns cfg call table (call.fd₁.setWidth 64) (Function.update table call.fd₁ (some ofd))
  | other {ret} (hnr : call.nr ∉ changesFds) : Returns cfg call table ret table

/-- The maps say of every descriptor what the table does. -/
structure MapsAgree (fdPaths : FdPaths) (hidden : HiddenFds) (table : FdTable) : Prop where
  paths : ∀ fd, fdPaths fd = (table fd).bind Ofd.path
  hidden : ∀ fd, hidden fd = (table fd).any Ofd.hidden
  known : ∀ fd ofd, table fd = some ofd → ofd.path.isSome

/-! ### Return values -/

theorem returned_fd (fd : I32) :
    normalizeRet (fd.setWidth 64) = fd.setWidth 64 ∧ 0 ≤ (fd.setWidth 64 : I64).toInt ∧
      (fd.setWidth 64 : I64).setWidth 32 = fd := by
  have hlt : fd.toNat < 2 ^ 32 := fd.isLt
  have hnat : (fd.setWidth 64 : I64).toNat = fd.toNat := by
    rw [BitVec.toNat_setWidth]
    omega
  have hint : (fd.setWidth 64 : I64).toInt = fd.toNat := by
    rw [BitVec.toInt_eq_toNat_of_lt (by omega), hnat]
  have hret : isKernelError (fd.setWidth 64) = false := by
    rw [isKernelError, hint]
    simp only [Bool.and_eq_false_iff, decide_eq_false_iff_not]
    omega
  refine ⟨?_, ?_, BitVec.setWidth_setWidth_of_le fd (by decide)⟩
  · rw [normalizeRet, hret]
    rfl
  · omega

theorem not_kernelError (fd : I32) : isKernelError (fd.setWidth 64) = false := by
  obtain ⟨hnorm, hpos, -⟩ := returned_fd fd
  cases h : isKernelError (fd.setWidth 64) with
  | false => rfl
  | true =>
    rw [normalizeRet, h, if_pos rfl] at hnorm
    rw [← hnorm] at hpos
    exact absurd hpos (by decide)

theorem normalizeRet_error {ret : I64} (h : isKernelError ret) : normalizeRet ret = -1 := if_pos h

/-! ### The two updates follow the table -/

section Updates

variable {cfg : Config} {table : FdTable} {fdPaths : FdPaths} {hidden : HiddenFds} {state : SyscallState}

theorem MapsAgree.empty : MapsAgree (fun _ => none) (fun _ => false) fun _ => none :=
  ⟨fun _ => rfl, fun _ => rfl, nofun⟩

/-- One descriptor changes on all three sides. -/
theorem MapsAgree.set (h : MapsAgree fdPaths hidden table) (fd : I32) (r : Option Ofd)
    (hr : ∀ ofd, r = some ofd → ofd.path.isSome) :
    MapsAgree (Function.update fdPaths fd (r.bind Ofd.path))
      (Function.update hidden fd (r.any Ofd.hidden)) (Function.update table fd r) := by
  constructor
  · intro fd'
    by_cases he : fd' = fd
    · subst he
      simp only [Function.update_self]
    · simp only [Function.update_of_ne he]
      exact h.paths fd'
  · intro fd'
    by_cases he : fd' = fd
    · subst he
      simp only [Function.update_self]
    · simp only [Function.update_of_ne he]
      exact h.hidden fd'
  · intro fd' ofd
    by_cases he : fd' = fd
    · subst he
      simp only [Function.update_self]
      exact hr ofd
    · simp only [Function.update_of_ne he]
      exact h.known fd' ofd

theorem updates_failed : updateFdPaths fdPaths state (-1) = fdPaths ∧
    updateHiddenFds cfg state (-1) hidden = hidden := by
  have hneg : ¬ 0 ≤ (-1 : I64).toInt := by decide
  have hzero : (-1 : I64) ≠ 0 := by decide
  constructor
  · simp only [updateFdPaths, hneg, hzero, if_false, ite_self]
  · simp only [updateHiddenFds, hneg, hzero, false_and, if_false, ite_self]

/-- Neither map has a branch for a call that changes no descriptor. -/
theorem updates_other (ret : I64) (hnr : state.nr ∉ changesFds) :
    updateFdPaths fdPaths state ret = fdPaths ∧ updateHiddenFds cfg state ret hidden = hidden := by
  simp only [changesFds, List.mem_cons, List.not_mem_nil, or_false, not_or] at hnr
  obtain ⟨h1, h2, h3, h4, h5, h6⟩ := hnr
  constructor
  · simp only [updateFdPaths, h1, h2, h3, h4, h5, h6, or_self, if_false]
  · simp only [updateHiddenFds, h1, h2, h3, h4, h5, h6, or_self, if_false]

/-! One equation for each map and each kind of call. -/

theorem updateFdPaths_open (hnr : state.nr = sysOpen ∨ state.nr = sysOpenat) {fd : I32} {path : String}
    (hpath : state.pathHint = some path) :
    updateFdPaths fdPaths state (fd.setWidth 64) = Function.update fdPaths fd (some path) := by
  obtain ⟨-, hpos, hback⟩ := returned_fd fd
  simp only [updateFdPaths, hnr, if_true, hpos, hpath, hback]

theorem updateFdPaths_dup (hnr : state.nr = sysDup ∨ state.nr = sysDup2 ∨ state.nr = sysDup3) {fd : I32} :
    updateFdPaths fdPaths state (fd.setWidth 64) =
      Function.update fdPaths fd (fdPaths ((state.args.get 0).setWidth 32)) := by
  obtain ⟨-, hpos, hback⟩ := returned_fd fd
  have hdup : updateFdPaths fdPaths state (fd.setWidth 64) =
      if 0 ≤ (fd.setWidth 64 : I64).toInt then
        duplicateFd fdPaths ((state.args.get 0).setWidth 32) ((fd.setWidth 64 : I64).setWidth 32)
      else fdPaths := by
    unfold updateFdPaths
    rcases hnr with hnr | hnr | hnr
    · rw [hnr]
      rfl
    · rw [hnr]
      rfl
    · rw [hnr]
      rfl
  rw [hdup, if_pos hpos, hback, duplicateFd]

theorem updateFdPaths_close (hnr : state.nr = sysClose) :
    updateFdPaths fdPaths state 0 = Function.update fdPaths ((state.args.get 0).setWidth 32) none := by
  unfold updateFdPaths
  rw [hnr]
  rfl

theorem updateHiddenFds_open (hnr : state.nr = sysOpen ∨ state.nr = sysOpenat) {fd : I32} :
    updateHiddenFds cfg state (fd.setWidth 64) hidden =
      if isCudatraceOutputOpen cfg state then Function.update hidden fd true else hidden := by
  obtain ⟨-, hpos, hback⟩ := returned_fd fd
  simp only [updateHiddenFds, hnr, if_true, hpos, true_and, hback]

theorem updateHiddenFds_dup (hnr : state.nr = sysDup) {fd : I32} :
    updateHiddenFds cfg state (fd.setWidth 64) hidden =
      if hidden ((state.args.get 0).setWidth 32) then Function.update hidden fd true else hidden := by
  obtain ⟨-, hpos, hback⟩ := returned_fd fd
  have hdup : updateHiddenFds cfg state (fd.setWidth 64) hidden =
      if 0 ≤ (fd.setWidth 64 : I64).toInt ∧ hidden ((state.args.get 0).setWidth 32) then
        Function.update hidden ((fd.setWidth 64 : I64).setWidth 32) true
      else hidden := by
    unfold updateHiddenFds
    rw [hnr]
    rfl
  simp only [hdup, hback, hpos, true_and]

/-- A new descriptor has no mark that would have to be taken away. -/
theorem mark_eq_update {fd : I32} (hnew : hidden fd = false) (b : Bool) :
    (if b then Function.update hidden fd true else hidden) = Function.update hidden fd b := by
  cases b with
  | true => rfl
  | false => exact (Function.update_eq_self_iff.mpr hnew.symm).symm

theorem updateHiddenFds_dup2 (hnr : state.nr = sysDup2 ∨ state.nr = sysDup3) {fd : I32} :
    updateHiddenFds cfg state (fd.setWidth 64) hidden =
      Function.update hidden fd (hidden ((state.args.get 0).setWidth 32)) := by
  obtain ⟨-, hpos, hback⟩ := returned_fd fd
  have hdup : updateHiddenFds cfg state (fd.setWidth 64) hidden =
      if 0 ≤ (fd.setWidth 64 : I64).toInt then
        if hidden ((state.args.get 0).setWidth 32) then
          Function.update hidden ((fd.setWidth 64 : I64).setWidth 32) true
        else Function.update hidden ((fd.setWidth 64 : I64).setWidth 32) false
      else hidden := by
    unfold updateHiddenFds
    rcases hnr with hnr | hnr
    · rw [hnr]
      rfl
    · rw [hnr]
      rfl
  rw [hdup, if_pos hpos, hback]
  cases hidden ((state.args.get 0).setWidth 32) with
  | true => rfl
  | false => rfl

theorem updateHiddenFds_close (hnr : state.nr = sysClose) :
    updateHiddenFds cfg state 0 hidden =
      Function.update hidden ((state.args.get 0).setWidth 32) false := by
  unfold updateHiddenFds
  rw [hnr]
  rfl

/-- The two updates at the exit of a call take agreeing maps to agreeing maps. -/
theorem MapsAgree.returns (h : MapsAgree fdPaths hidden table) {call : FdCall} {ret : I64}
    {table' : FdTable} (hr : call.Returns cfg table ret table') (hnr : state.nr = call.nr)
    (hargs : state.args = call.args) (hpath : state.pathHint = call.captured)
    (hopen : call.nr = sysOpen ∨ call.nr = sysOpenat → call.captured.isSome) :
    MapsAgree (updateFdPaths fdPaths state (normalizeRet ret))
      (updateHiddenFds cfg state (normalizeRet ret) hidden) table' := by
  have hfd₀ : (state.args.get 0).setWidth 32 = call.fd₀ := by rw [hargs]; rfl
  cases hr with
  | failed he =>
    obtain ⟨hp, hh⟩ := @updates_failed cfg fdPaths hidden state
    rw [normalizeRet_error he, hp, hh]
    exact h
  | other hn =>
    obtain ⟨hp, hh⟩ := @updates_other cfg fdPaths hidden state (normalizeRet ret) (hnr ▸ hn)
    rw [hp, hh]
    exact h
  | @opened fd hop hnew =>
    obtain ⟨path, hcap⟩ := Option.isSome_iff_exists.mp (hopen hop)
    have hnew' : hidden fd = false := by rw [h.hidden, hnew]; rfl
    have hout : isCudatraceOutputOpen cfg state = isCudatraceOutputPath cfg path := by
      rw [isCudatraceOutputOpen, hpath, hcap]
    rw [(returned_fd fd).1, updateFdPaths_open (hnr ▸ hop) (hpath.trans hcap),
      updateHiddenFds_open (hnr ▸ hop), hout, mark_eq_update hnew', openedOfd, hcap]
    apply h.set fd (some ⟨some path, isCudatraceOutputPath cfg path⟩)
    intro ofd ho
    cases ho
    rfl
  | closed hcl =>
    have hzero : normalizeRet 0 = 0 := by decide
    rw [hzero, updateFdPaths_close (hnr.trans hcl), updateHiddenFds_close (hnr.trans hcl), hfd₀]
    exact h.set call.fd₀ none nofun
  | @duplicated fd ofd hd hold hnew =>
    have hnew' : hidden fd = false := by rw [h.hidden, hnew]; rfl
    rw [(returned_fd fd).1, updateFdPaths_dup (Or.inl (hnr.trans hd)),
      updateHiddenFds_dup (hnr.trans hd), hfd₀, mark_eq_update hnew', h.paths, h.hidden, hold]
    exact h.set fd (some ofd) fun ofd' ho => h.known _ ofd' (hold.trans ho)
  | @replaced ofd hd hold =>
    have hd' : state.nr = sysDup2 ∨ state.nr = sysDup3 := by
      rw [hnr]
      exact hd.imp_right And.left
    rw [(returned_fd call.fd₁).1, updateFdPaths_dup (Or.inr hd'), updateHiddenFds_dup2 hd', hfd₀,
      h.paths, h.hidden, hold]
    exact h.set call.fd₁ (some ofd) fun ofd' ho => h.known _ ofd' (hold.trans ho)

end Updates

/-! ### Seeding -/

/-- The table a listing of `/proc/<pid>/fd` shows. -/
def listedTable (cfg : Config) (entries : List (I32 × String)) : FdTable := fun fd =>
  (entries.lookup fd).map fun link => ⟨some link, isCudatraceOutputPath cfg link⟩

theorem lookup_none {entries : List (I32 × String)} {fd : I32} (h : fd ∉ entries.map Prod.fst) :
    entries.lookup fd = none := by
  induction entries with
  | nil => rfl
  | cons e entries ih =>
    obtain ⟨hne, hrest⟩ := not_or.mp (mt List.mem_cons.mpr h)
    rw [List.lookup_cons, beq_eq_false_iff_ne.mpr hne]
    exact ih hrest

/-- Seeding adds the listed descriptors to agreeing maps. -/
theorem MapsAgree.seed {cfg : Config} {entries : List (I32 × String)} {fdPaths : FdPaths}
    {hidden : HiddenFds} {table : FdTable} (h : MapsAgree fdPaths hidden table)
    (hn : (entries.map Prod.fst).Nodup) (hnew : ∀ e ∈ entries, table e.1 = none) :
    MapsAgree (seedFdStateFromProc cfg entries fdPaths hidden).1
      (seedFdStateFromProc cfg entries fdPaths hidden).2
      (fun fd => (listedTable cfg entries fd).or (table fd)) := by
  induction entries generalizing fdPaths hidden table with
  | nil => exact h
  | cons e entries ih =>
    obtain ⟨hnotin, hrest⟩ := List.nodup_cons.mp hn
    obtain ⟨hfresh, hnew'⟩ := List.forall_mem_cons.mp hnew
    have hfalse : hidden e.1 = false := by
      rw [h.hidden, hfresh]
      rfl
    have hhidden := mark_eq_update hfalse (isCudatraceOutputPath cfg e.2)
    have hset := h.set e.1 (some ⟨some e.2, isCudatraceOutputPath cfg e.2⟩) fun ofd ho => by
      cases ho
      rfl
    have hlater := ih hset hrest fun e' he' => by
      have hne : e'.1 ≠ e.1 := by
        intro heq
        exact hnotin (heq ▸ List.mem_map_of_mem he')
      rw [Function.update_of_ne hne]
      exact hnew' e' he'
    have htable : (fun fd => (listedTable cfg (e :: entries) fd).or (table fd)) = fun fd =>
        (listedTable cfg entries fd).or
          (Function.update table e.1 (some ⟨some e.2, isCudatraceOutputPath cfg e.2⟩) fd) := by
      funext fd
      by_cases hfd : fd = e.1
      · subst hfd
        rw [listedTable, listedTable, List.lookup_cons, lookup_none hnotin, beq_self_eq_true,
          Function.update_self]
        rfl
      · rw [listedTable, listedTable, List.lookup_cons, beq_eq_false_iff_ne.mpr hfd,
          Function.update_of_ne hfd]
    rw [htable]
    unfold seedFdStateFromProc at hlater ⊢
    rw [List.foldl_cons, hhidden]
    exact hlater

end CudaTrace.Ptrace
