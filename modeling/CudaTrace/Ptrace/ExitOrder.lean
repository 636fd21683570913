import CudaTrace.Ptrace.FdSimulation

/-!
# The order of the exit stops

The threads of a process share one descriptor table. The kernel finishes their calls in
some order, and their exit stops may be reported in another.
-/

namespace CudaTrace.Ptrace
open CudaTrace.Base CudaTrace.Fgraph

/-! ### What a finished call depends on -/

/-- A call the kernel has finished, with its return value. -/
structure Completed where
  tid : Pid
  call : FdCall
  ret : I64

/-- The descriptor the call changed. -/
def Completed.changed (c : Completed) : Option I32 :=
  if isKernelError c.ret then none
  else if c.call.nr = sysClose then some c.call.fd₀
  else if c.call.nr ∈ changesFds then some (c.ret.setWidth 32)
  else none

/-- The descriptor the call duplicated. -/
def Completed.duplicated (c : Completed) : Option I32 :=
  if isKernelError c.ret then none
  else if c.call.nr ∈ [sysDup, sysDup2, sysDup3] then some c.call.fd₀
  else none

/-- Neither call changed a descriptor that the other one changed or duplicated. -/
def Completed.Apart (c d : Completed) : Prop :=
  (∀ fd, c.changed = some fd → d.changed ≠ some fd ∧ d.duplicated ≠ some fd) ∧
    ∀ fd, d.changed = some fd → c.duplicated ≠ some fd

/-- What the kernel did when it finished the call. -/
def Completed.Ran (cfg : Config) (c : Completed) (table table' : FdTable) : Prop :=
  c.call.Returns cfg table c.ret table'

section Footprint

variable {cfg : Config} {c d : Completed} {table table' : FdTable}

theorem Completed.changed_close (hnr : c.call.nr = sysClose) (hret : c.ret = 0) :
    c.changed = some c.call.fd₀ := by
  rw [Completed.changed, hret, if_neg (by decide), if_pos hnr]

theorem Completed.changed_fd {fd : I32} (hnr : c.call.nr ∈ changesFds) (hclose : c.call.nr ≠ sysClose)
    (hret : c.ret = fd.setWidth 64) : c.changed = some fd := by
  obtain ⟨-, -, hback⟩ := returned_fd fd
  rw [Completed.changed, hret, not_kernelError fd, if_neg Bool.false_ne_true, if_neg hclose, if_pos hnr,
    hback]

theorem Completed.duplicated_fd {fd : I32} (hnr : c.call.nr ∈ [sysDup, sysDup2, sysDup3])
    (hret : c.ret = fd.setWidth 64) : c.duplicated = some c.call.fd₀ := by
  rw [Completed.duplicated, hret, not_kernelError fd, if_neg Bool.false_ne_true, if_pos hnr]

/-- What holds of a call that sets one entry of the table, with the same value wherever the
descriptors it depends on are the same. -/
theorem Completed.local_of_update {fd : I32} {r : Option Ofd} (hc : c.changed = some fd)
    (hran : ∀ other : FdTable, (∀ x, c.changed = some x ∨ c.duplicated = some x → other x = table x) →
      c.Ran cfg other (Function.update other fd r)) :
    (∀ x, c.changed ≠ some x → Function.update table fd r x = table x) ∧
    ∀ other : FdTable, (∀ x, c.changed = some x ∨ c.duplicated = some x → other x = table x) →
      ∃ other', c.Ran cfg other other' ∧
        ∀ x, c.changed = some x → other' x = Function.update table fd r x := by
  constructor
  · intro x hx
    have hne : x ≠ fd := by
      intro he
      exact hx (he ▸ hc)
    exact Function.update_of_ne hne r table
  · intro other hsame
    refine ⟨_, hran other hsame, fun x hx => ?_⟩
    obtain rfl := Option.some.inj (hc.symm.trans hx)
    rw [Function.update_self, Function.update_self]

/-- The kernel changes at most that descriptor, and the outcome depends on it and on the one
that is duplicated. -/
theorem Completed.Ran.local (h : c.Ran cfg table table') :
    (∀ fd, c.changed ≠ some fd → table' fd = table fd) ∧
    ∀ other : FdTable, (∀ fd, c.changed = some fd ∨ c.duplicated = some fd → other fd = table fd) →
      ∃ other', c.Ran cfg other other' ∧ ∀ fd, c.changed = some fd → other' fd = table' fd := by
  unfold Completed.Ran at h
  generalize hret : c.ret = ret at h
  cases h with
  | failed he =>
    refine ⟨fun _ _ => rfl, fun other _ => ⟨other, .failed (hret ▸ he), fun fd hfd => ?_⟩⟩
    rw [Completed.changed, if_pos (hret ▸ he)] at hfd
    cases hfd
  | other hn =>
    refine ⟨fun _ _ => rfl, fun other hsame => ⟨other, .other hn, fun fd hfd => ?_⟩⟩
    exact hsame fd (Or.inl hfd)
  | @opened fd hop hnew =>
    have hnr : c.call.nr ∈ changesFds ∧ c.call.nr ≠ sysClose := by
      rcases hop with h | h
      · rw [h]
        decide
      · rw [h]
        decide
    have hc := Completed.changed_fd hnr.1 hnr.2 hret
    refine Completed.local_of_update hc fun other hsame => ?_
    rw [Completed.Ran, hret]
    exact .opened hop ((hsame fd (Or.inl hc)).trans hnew)
  | closed hcl =>
    refine Completed.local_of_update (Completed.changed_close hcl hret) fun other _ => ?_
    rw [Completed.Ran, hret]
    exact .closed hcl
  | @duplicated fd ofd hd hold hnew =>
    have hnr : c.call.nr ∈ changesFds ∧ c.call.nr ≠ sysClose ∧
        c.call.nr ∈ [sysDup, sysDup2, sysDup3] := by
      rw [hd]
      decide
    have hc := Completed.changed_fd hnr.1 hnr.2.1 hret
    have hs := Completed.duplicated_fd hnr.2.2 hret
    refine Completed.local_of_update hc fun other hsame => ?_
    rw [Completed.Ran, hret]
    exact .duplicated hd ((hsame _ (Or.inr hs)).trans hold) ((hsame fd (Or.inl hc)).trans hnew)
  | @replaced ofd hd hold =>
    have hnr : c.call.nr ∈ changesFds ∧ c.call.nr ≠ sysClose ∧
        c.call.nr ∈ [sysDup, sysDup2, sysDup3] := by
      rcases hd with h | ⟨h, -⟩
      · rw [h]
        decide
      · rw [h]
        decide
    have hc := Completed.changed_fd hnr.1 hnr.2.1 hret
    have hs := Completed.duplicated_fd hnr.2.2 hret
    refine Completed.local_of_update hc fun other hsame => ?_
    rw [Completed.Ran, hret]
    exact .replaced hd ((hsame _ (Or.inr hs)).trans hold)

/-- Two finished calls that are apart could have been finished in the other order. -/
theorem Completed.Ran.swap {mid : FdTable} (hap : c.Apart d) (hc : c.Ran cfg table mid)
    (hd : d.Ran cfg mid table') : ∃ mid', d.Ran cfg table mid' ∧ c.Ran cfg mid' table' := by
  obtain ⟨hcd, hdc⟩ := hap
  obtain ⟨hc₁, hc₂⟩ := hc.local
  obtain ⟨hd₁, hd₂⟩ := hd.local
  obtain ⟨mid', hd', hset⟩ := hd₂ table fun fd hfd => (hc₁ fd fun he => by
    rcases hfd with h | h
    · exact (hcd fd he).1 h
    · exact (hcd fd he).2 h).symm
  obtain ⟨hd₃, -⟩ := hd'.local
  obtain ⟨table'', hc', hset'⟩ := hc₂ mid' fun fd hfd => hd₃ fd fun he => by
    rcases hfd with h | h
    · exact (hcd fd h).1 he
    · exact hdc fd he h
  obtain ⟨hc₃, -⟩ := hc'.local
  have hsame : table'' = table' := by
    funext fd
    by_cases h₁ : c.changed = some fd
    · rw [hset' fd h₁, hd₁ fd (hcd fd h₁).1]
    · rw [hc₃ fd h₁]
      by_cases h₂ : d.changed = some fd
      · exact hset fd h₂
      · rw [hd₃ fd h₂, hd₁ fd h₂, hc₁ fd h₁]
  exact ⟨mid', hd', hsame ▸ hc'⟩

end Footprint

/-- The calls were finished in this order. -/
def RanAll (cfg : Config) : List Completed → FdTable → FdTable → Prop
  | [], table, table' => table' = table
  | c :: cs, table, table' => ∃ mid, c.Ran cfg table mid ∧ RanAll cfg cs mid table'

theorem RanAll.append {cfg : Config} {cs : List Completed} {c : Completed} {table mid table' : FdTable}
    (h : RanAll cfg cs table mid) (hc : c.Ran cfg mid table') : RanAll cfg (cs ++ [c]) table table' := by
  induction cs generalizing table with
  | nil =>
    obtain rfl : mid = table := h
    exact ⟨table', hc, rfl⟩
  | cons d cs ih =>
    obtain ⟨mid₁, hd, hrest⟩ := h
    exact ⟨mid₁, hd, ih hrest⟩

/-- A call that is apart from all earlier ones could have been finished first. -/
theorem RanAll.front {cfg : Config} {before after : List Completed} {c : Completed}
    {table table' : FdTable} (h : RanAll cfg (before ++ c :: after) table table')
    (hap : ∀ b ∈ before, b.Apart c) :
    ∃ mid, c.Ran cfg table mid ∧ RanAll cfg (before ++ after) mid table' := by
  induction before generalizing table with
  | nil => exact h
  | cons b before ih =>
    obtain ⟨hb, hbefore⟩ := List.forall_mem_cons.mp hap
    obtain ⟨mid₁, hran, hrest⟩ := h
    obtain ⟨mid₂, hc, hafter⟩ := ih hrest hbefore
    obtain ⟨mid', hc', hb'⟩ := hran.swap hb hc
    exact ⟨mid', hc', mid₂, hb', hafter⟩

/-! ### The threads of a process -/

/-- The loop and the process: its table, the call each thread is in, and the calls the kernel
has finished, in that order, whose exit stops are still to be handled. -/
structure Threads where
  loop : LoopState
  table : FdTable
  calls : Pid → Option FdCall
  completed : List Completed

inductive ThreadLabel where
  | enter (t : Pid) (env : Env) (regs : UserRegs)
  | complete (t : Pid) (ret : I64) (table : FdTable)
  | leave (t : Pid) (env : Env) (regs : UserRegs)
  | other (t : Pid) (env : Env) (status : I32)

/-- The exit stop of one finished call is handled. -/
def Threads.Leaves (g : Globals) (x : Threads) (t : Pid) (env : Env) (regs : UserRegs) (y : Threads) :
    Prop :=
  ∃ before c after, x.completed = before ++ c :: after ∧ c.tid = t ∧ env.getregs t = some regs ∧
    regs.rax = c.ret ∧ y = { x with
      loop := loopIter g env t (stopStatus 0x85 0) x.loop
      calls := Function.update x.calls t none
      completed := before ++ after }

/-- Every thread shares the table. The kernel finishes a call at any moment after its entry
stop; the exit stops of the finished calls may be reported in any order. -/
def threadSystem (g : Globals) : System Threads ThreadLabel where
  start x := ∃ controller fdPaths hiddenFds ranges table,
    x = ⟨initialLoop controller fdPaths hiddenFds ranges, table, fun _ => none, []⟩ ∧
      MapsAgree fdPaths hiddenFds table
  step x l y :=
    match l with
    | .enter t env regs => x.calls t = none ∧ env.getregs t = some regs ∧ y = { x with
        loop := loopIter g env t (stopStatus 0x85 0) x.loop
        calls := Function.update x.calls t (some (.at env t regs)) }
    | .complete t ret table => ∃ call, x.calls t = some call ∧ (∀ c ∈ x.completed, c.tid ≠ t) ∧
        call.Returns g.config x.table ret table ∧
        y = { x with table := table, completed := x.completed ++ [⟨t, call, ret⟩] }
    | .leave t env regs => x.Leaves g t env regs y
    | .other t env status => waitKind status ≠ .syscallStop ∧
        (waitKind status = .gone → x.calls t = none) ∧
        y = { x with loop := loopIter g env t status x.loop }

/-- A call whose exit stop overtakes those of calls finished before it is apart from them. -/
def Threads.Ordered (x : Threads) : ThreadLabel → Prop
  | .leave t _ _ => ∀ before c after, x.completed = before ++ c :: after → c.tid = t →
      ∀ b ∈ before, b.Apart c
  | _ => True

structure ThreadsInv (cfg : Config) (x : Threads) : Prop where
  consistent : Consistent x.loop
  agree : ∃ table, MapsAgree x.loop.fdPaths x.loop.hiddenFds table ∧
    RanAll cfg x.completed table x.table
  recorded : ∀ t, CallRecorded t x.loop (x.calls t)
  inCall : ∀ c ∈ x.completed, x.calls c.tid = some c.call
  nodup : (x.completed.map Completed.tid).Nodup

/-- A turn for another task leaves the record of a call as it was, but for its capture. -/
theorem CallRecorded.turned {pid t : Pid} {s s' : LoopState} {woken : List Pid}
    {own : List (Pid × I32)} (ht : Turned pid s s' woken own) (hne : t ≠ pid) {call : Option FdCall}
    (h : CallRecorded t s call) : CallRecorded t s' call := by
  by_cases hw : t ∈ woken
  · obtain ⟨st, hst, hst'⟩ := ht.woke t hw
    cases call with
    | none =>
      intro st' h'
      rw [hst'] at h'
      cases h'
      exact h st hst
    | some call =>
      obtain ⟨st₀, h₀, hact, hnr, hargs, hpath, hopen⟩ := h
      obtain rfl := Option.some.inj (hst.symm.trans h₀)
      exact ⟨_, hst', hact, hnr, hargs, hpath, hopen⟩
  · have hsame := ht.others t hne hw
    cases call with
    | none =>
      intro st hst
      exact h st (hsame ▸ hst)
    | some call =>
      obtain ⟨st, hst, hrest⟩ := h
      exact ⟨st, hsame.trans hst, hrest⟩

namespace ThreadsInv

variable {g : Globals} {x y : Threads} {t : Pid} {env : Env} {regs : UserRegs}

/-- The turn of `t` keeps the records of the other threads. -/
theorem recorded_turned (h : ThreadsInv g.config x) {status : I32} {call : Option FdCall}
    (hself : CallRecorded t (loopIter g env t status x.loop) call) (u : Pid) :
    CallRecorded u (loopIter g env t status x.loop) (Function.update x.calls t call u) := by
  by_cases hu : u = t
  · subst hu
    rw [Function.update_self]
    exact hself
  · rw [Function.update_of_ne hu]
    obtain ⟨woken, own, hturned, -, -⟩ := loopIter_turned g env t status h.consistent
    exact CallRecorded.turned hturned hu (h.recorded u)

theorem enter (h : ThreadsInv g.config x) (hs : (threadSystem g).step x (.enter t env regs) y) :
    ThreadsInv g.config y := by
  obtain ⟨hcall, hregs, rfl⟩ := hs
  have hidle : ∀ st, x.loop.states t = some st → st.active = false := by
    have hrec := h.recorded t
    rw [hcall] at hrec
    exact hrec
  obtain ⟨state, w, c, ht, hst⟩ := loopIter_entry g env t h.consistent syscallStop_kind hregs hidle
  obtain ⟨hpaths, hhidden⟩ := loopIter_maps g env t (stopStatus 0x85 0) x.loop fun _ _ _ => hidle
  constructor
  · exact ht.consistent
  · dsimp only
    rw [hpaths, hhidden]
    exact h.agree
  · exact h.recorded_turned ⟨_, hst, rfl, rfl, rfl, rfl, open_captured env t regs⟩
  · intro c hc
    have hne : c.tid ≠ t := by
      intro he
      have hin := h.inCall c hc
      rw [he, hcall] at hin
      cases hin
    exact (Function.update_of_ne hne _ _).trans (h.inCall c hc)
  · exact h.nodup

theorem complete {ret : I64} {table : FdTable} (h : ThreadsInv g.config x)
    (hs : (threadSystem g).step x (.complete t ret table) y) : ThreadsInv g.config y := by
  obtain ⟨call, hcall, hnew, hret, rfl⟩ := hs
  constructor
  · exact h.consistent
  · obtain ⟨table₀, hagree, hran⟩ := h.agree
    exact ⟨table₀, hagree, hran.append hret⟩
  · exact h.recorded
  · intro c hc
    rcases List.mem_append.mp hc with hc | hc
    · exact h.inCall c hc
    · obtain rfl := List.mem_singleton.mp hc
      exact hcall
  · dsimp only
    rw [List.map_append]
    refine List.nodup_append.mpr ⟨h.nodup, List.nodup_singleton _, fun a ha b hb he => ?_⟩
    obtain ⟨c, hc, rfl⟩ := List.mem_map.mp ha
    exact hnew c hc (he.trans (List.mem_singleton.mp hb))

theorem leave (h : ThreadsInv g.config x) (hok : x.Ordered (.leave t env regs))
    (hs : x.Leaves g t env regs y) : ThreadsInv g.config y := by
  obtain ⟨before, c, after, hcomp, rfl, hregs, hret, rfl⟩ := hs
  have hmem : c ∈ x.completed := by
    rw [hcomp]
    exact List.mem_append_right _ List.mem_cons_self
  obtain ⟨st, hst, hact, hnr, hargs, hpath, hopen⟩ : CallRecorded c.tid x.loop (some c.call) := by
    rw [← h.inCall c hmem]
    exact h.recorded c.tid
  obtain ⟨hrun, woken, ht, hst'⟩ :=
    loopIter_exit g env c.tid h.consistent syscallStop_kind hregs hst hact
  have htables := onExit_tables g env c.tid regs st (drained env x.loop)
  have hpaths : (loopIter g env c.tid (stopStatus 0x85 0) x.loop).fdPaths =
      updateFdPaths x.loop.fdPaths st (normalizeRet c.ret) := by
    rw [hrun, htables.paths, hret]
    rfl
  have hhidden : (loopIter g env c.tid (stopStatus 0x85 0) x.loop).hiddenFds =
      updateHiddenFds g.config st (normalizeRet c.ret) x.loop.hiddenFds := by
    rw [hrun, htables.hidden, hret]
    rfl
  have hnodup : (c.tid :: (before ++ after).map Completed.tid).Nodup := by
    have hn := h.nodup
    rw [hcomp, List.map_append, List.map_cons] at hn
    rw [List.map_append]
    exact List.nodup_middle.mp hn
  obtain ⟨hfresh, hrest⟩ := List.nodup_cons.mp hnodup
  constructor
  · exact ht.consistent
  · obtain ⟨table₀, hagree, hran⟩ := h.agree
    rw [hcomp] at hran
    obtain ⟨mid, hc, hlater⟩ := hran.front (hok before c after hcomp rfl)
    refine ⟨mid, ?_, hlater⟩
    dsimp only
    rw [hpaths, hhidden]
    exact hagree.returns hc hnr hargs hpath hopen
  · refine h.recorded_turned fun st₁ h₁ => ?_
    rw [hst'] at h₁
    cases h₁
    rfl
  · intro d hd
    have hne : d.tid ≠ c.tid := by
      intro he
      exact hfresh (he ▸ List.mem_map_of_mem hd)
    refine (Function.update_of_ne hne _ _).trans (h.inCall d ?_)
    rw [hcomp]
    rcases List.mem_append.mp hd with hd | hd
    · exact List.mem_append_left _ hd
    · exact List.mem_append_right _ (List.mem_cons_of_mem _ hd)
  · exact hrest

theorem other {status : I32} (h : ThreadsInv g.config x)
    (hs : (threadSystem g).step x (.other t env status) y) : ThreadsInv g.config y := by
  obtain ⟨hcall, hgone, rfl⟩ := hs
  obtain ⟨woken, own, ht, -, -⟩ := loopIter_turned g env t status h.consistent
  obtain ⟨hpaths, hhidden⟩ := loopIter_maps g env t status x.loop fun hk => absurd hk hcall
  have hself : CallRecorded t (loopIter g env t status x.loop) (x.calls t) := by
    by_cases hk : waitKind status = .gone
    · obtain ⟨-, -, hst⟩ := loopIter_gone g env t h.consistent hk
      rw [hgone hk]
      intro st h'
      rw [hst] at h'
      cases h'
    · obtain ⟨-, hst⟩ := loopIter_records g env t h.consistent hcall hk
      exact (h.recorded t).congr hst
  constructor
  · exact ht.consistent
  · dsimp only
    rw [hpaths, hhidden]
    exact h.agree
  · intro u
    have hrec := h.recorded_turned hself u
    rwa [Function.update_eq_self] at hrec
  · exact h.inCall
  · exact h.nodup

end ThreadsInv

theorem threadsInv_of_reach {g : Globals} {x : Threads} (h : (threadSystem g).Reach Threads.Ordered x) :
    ThreadsInv g.config x := by
  apply h.invariant
  · intro y hy
    obtain ⟨controller, fdPaths, hiddenFds, ranges, table, rfl, hagree⟩ := hy
    exact ⟨initialLoop_consistent _ _ _ _, ⟨table, hagree, rfl⟩, fun t => nofun, nofun, List.nodup_nil⟩
  · intro y l z hinv hok hstep
    cases l with
    | enter t env regs => exact hinv.enter hstep
    | complete t ret table => exact hinv.complete hstep
    | leave t env regs => exact hinv.leave hok hstep
    | other t env status => exact hinv.other hstep

/-- Agreeing maps are determined by the table. -/
theorem MapsAgree.unique {fdPaths fdPaths' : FdPaths} {hidden hidden' : HiddenFds} {table : FdTable}
    (h : MapsAgree fdPaths hidden table) (h' : MapsAgree fdPaths' hidden' table) :
    fdPaths' = fdPaths ∧ hidden' = hidden :=
  ⟨funext fun fd => (h'.paths fd).trans (h.paths fd).symm,
    funext fun fd => (h'.hidden fd).trans (h.hidden fd).symm⟩

theorem eq_of_split_one {a c : Completed} {before after : List Completed}
    (h : [a] = before ++ c :: after) : before = [] ∧ c = a ∧ after = [] := by
  rcases List.cons_eq_append_iff.mp h with ⟨rfl, h⟩ | ⟨rest, -, h⟩
  · obtain ⟨rfl, rfl⟩ := List.cons.inj h
    exact ⟨rfl, rfl, rfl⟩
  · simp at h

theorem eq_of_split_two {a b c : Completed} {before after : List Completed}
    (h : [a, b] = before ++ c :: after) :
    (before = [] ∧ c = a ∧ after = [b]) ∨ (before = [a] ∧ c = b ∧ after = []) := by
  rcases List.cons_eq_append_iff.mp h with ⟨rfl, hnil⟩ | ⟨rest, rfl, hrest⟩
  · obtain ⟨rfl, rfl⟩ := List.cons.inj hnil
    exact Or.inl ⟨rfl, rfl, rfl⟩
  · obtain ⟨rfl, rfl, rfl⟩ := eq_of_split_one hrest
    exact Or.inr ⟨rfl, rfl, rfl⟩

/-- The exit stops of these threads are handled, in this order. -/
def Threads.Handled (g : Globals) : List Pid → Threads → Threads → Prop
  | [], x, y => y = x
  | t :: ts, x, y => ∃ env regs x', x.Leaves g t env regs x' ∧ Handled g ts x' y

theorem Threads.Handled.two {g : Globals} {x y : Threads} {a b : Completed}
    (h : (threadSystem g).Reach Threads.Ordered x)
    (hx : x.completed = [a, b] ∨ (x.completed = [b, a] ∧ b.Apart a)) (hne : a.tid ≠ b.tid)
    (hy : Threads.Handled g [a.tid, b.tid] x y) :
    (threadSystem g).Reach Threads.Ordered y ∧ y.completed = [] ∧ y.table = x.table := by
  obtain ⟨env₁, regs₁, y₁, h₁, env₂, regs₂, y₂, h₂, hy₂⟩ := hy
  obtain rfl : y = y₂ := hy₂
  have hfirst : x.Ordered (.leave a.tid env₁ regs₁) := by
    intro before c after hc htid d hd
    rcases hx with hx | ⟨hx, hap⟩
    · rcases eq_of_split_two (hx.symm.trans hc) with ⟨rfl, -, -⟩ | ⟨-, rfl, -⟩
      · cases hd
      · exact absurd htid.symm hne
    · rcases eq_of_split_two (hx.symm.trans hc) with ⟨rfl, -, -⟩ | ⟨rfl, rfl, -⟩
      · cases hd
      · obtain rfl := List.mem_singleton.mp hd
        exact hap
  have hone : y₁.completed = [b] ∧ y₁.table = x.table := by
    obtain ⟨before, c, after, hc, htid, -, -, rfl⟩ := h₁
    rcases hx with hx | ⟨hx, -⟩
    · rcases eq_of_split_two (hx.symm.trans hc) with ⟨rfl, -, rfl⟩ | ⟨-, rfl, -⟩
      · exact ⟨rfl, rfl⟩
      · exact absurd htid.symm hne
    · rcases eq_of_split_two (hx.symm.trans hc) with ⟨-, rfl, -⟩ | ⟨rfl, -, rfl⟩
      · exact absurd htid.symm hne
      · exact ⟨rfl, rfl⟩
  have hsecond : y₁.Ordered (.leave b.tid env₂ regs₂) := by
    intro before c after hc _ d hd
    obtain ⟨rfl, -, -⟩ := eq_of_split_one (hone.1.symm.trans hc)
    cases hd
  have hnone : y.completed = [] ∧ y.table = y₁.table := by
    obtain ⟨before, c, after, hc, -, -, -, rfl⟩ := h₂
    obtain ⟨rfl, -, rfl⟩ := eq_of_split_one (hone.1.symm.trans hc)
    exact ⟨rfl, rfl⟩
  have hs₁ : (threadSystem g).step x (.leave a.tid env₁ regs₁) y₁ := h₁
  have hs₂ : (threadSystem g).step y₁ (.leave b.tid env₂ regs₂) y := h₂
  exact ⟨(h.step hfirst hs₁).step hsecond hs₂, hnone.1, hnone.2.trans hone.2⟩

/-- In a run in which a call that overtakes another is apart from it, the maps agree with the
table whenever no exit stop is outstanding. -/
theorem maps_agree_of_ordered {g : Globals} {x : Threads}
    (h : (threadSystem g).Reach Threads.Ordered x) (hx : x.completed = []) :
    MapsAgree x.loop.fdPaths x.loop.hiddenFds x.table := by
  obtain ⟨table, hagree, hran⟩ := (threadsInv_of_reach h).agree
  rw [hx] at hran
  obtain rfl : x.table = table := hran
  exact hagree

/-! ### A close and an open

Thread 100 closes descriptor 3, and after that thread 101 opens a file. -/

def closeRegs : UserRegs := { UserRegs.entering sysClose with rdi := 3 }

def closeCall : FdCall := .at (pathEnv closeRegs) 100 closeRegs
def openCall : FdCall := .at (pathEnv openatRegs) 101 openatRegs

def stopTurn (t : Pid) (regs : UserRegs) (s : LoopState) : LoopState :=
  loopIter plainGlobals (pathEnv regs) t (stopStatus 0x85 0) s

def nullTable : FdTable := Function.update (fun _ => none) 3 (some ⟨some "/dev/null", false⟩)

def nullLoop : LoopState :=
  initialLoop none (Function.update (fun _ => none) 3 (some "/dev/null"))
    (Function.update (fun _ => false) 3 false) []

/-- Both calls are finished, the open with descriptor `fd`. -/
def closeThenOpen (fd : I32) : Threads where
  loop := stopTurn 101 openatRegs (stopTurn 100 closeRegs nullLoop)
  table := Function.update (Function.update nullTable 3 none) fd
    (some (openedOfd plainGlobals.config openCall.captured))
  calls := Function.update (Function.update (fun _ => none) 100 (some closeCall)) 101 (some openCall)
  completed := [⟨100, closeCall, 0⟩, ⟨101, openCall, fd.setWidth 64⟩]

theorem closeThenOpen_reach {fd : I32} (hnew : Function.update nullTable 3 none fd = none) :
    (threadSystem plainGlobals).Reach Threads.Ordered (closeThenOpen fd) := by
  have h0 : (threadSystem plainGlobals).Reach Threads.Ordered
      ⟨nullLoop, nullTable, fun _ => none, []⟩ := by
    apply System.Reach.start
    refine ⟨none, _, _, [], nullTable, rfl, ?_⟩
    exact MapsAgree.empty.set 3 (some ⟨some "/dev/null", false⟩) fun ofd ho => by
      cases ho
      rfl
  have h1 := h0.step (l := ThreadLabel.enter 100 (pathEnv closeRegs) closeRegs) trivial ⟨rfl, rfl, rfl⟩
  have h2 := h1.step (l := ThreadLabel.enter 101 (pathEnv openatRegs) openatRegs) trivial
    ⟨rfl, rfl, rfl⟩
  have h3 := h2.step (l := ThreadLabel.complete 100 0 (Function.update nullTable 3 none)) trivial
    ⟨closeCall, rfl, nofun, .closed rfl, rfl⟩
  exact h3.step (l := ThreadLabel.complete 101 (fd.setWidth 64) _) trivial
    ⟨openCall, rfl, by decide, .opened (Or.inr rfl) hnew, rfl⟩

def closeExitRegs : UserRegs := { closeRegs with rax := 0 }
def openExitRegs (fd : I32) : UserRegs := { openatRegs with rax := fd.setWidth 64 }

def closed (s : LoopState) : LoopState := stopTurn 100 closeExitRegs s
def opened (fd : I32) (s : LoopState) : LoopState := stopTurn 101 (openExitRegs fd) s

/-- The state after both exit stops, handled so that the loop is `s`. -/
def closeThenOpenDone (fd : I32) (s : LoopState) : Threads where
  loop := s
  table := (closeThenOpen fd).table
  calls := fun _ => none
  completed := []

theorem no_calls : Function.update (Function.update (closeThenOpen 3).calls 100 none) 101 none =
    fun _ => none := by
  funext t
  unfold closeThenOpen
  by_cases h1 : t = 101
  · rw [h1, Function.update_self]
  · by_cases h2 : t = 100
    · rw [Function.update_of_ne h1, h2, Function.update_self]
    · simp only [Function.update_of_ne h1, Function.update_of_ne h2]

theorem closeThenOpen_inOrder (fd : I32) : Threads.Handled plainGlobals [100, 101] (closeThenOpen fd)
    (closeThenOpenDone fd (opened fd (closed (closeThenOpen fd).loop))) := by
  refine ⟨pathEnv closeExitRegs, closeExitRegs, _, ⟨[], _, _, rfl, rfl, rfl, rfl, rfl⟩,
    pathEnv (openExitRegs fd), openExitRegs fd, _, ⟨[], _, _, rfl, rfl, rfl, rfl, rfl⟩, ?_⟩
  exact congrArg (fun c => { closeThenOpenDone fd (opened fd (closed (closeThenOpen fd).loop)) with
    calls := c }) no_calls.symm

theorem closeThenOpen_reversed (fd : I32) : Threads.Handled plainGlobals [101, 100] (closeThenOpen fd)
    (closeThenOpenDone fd (closed (opened fd (closeThenOpen fd).loop))) := by
  refine ⟨pathEnv (openExitRegs fd), openExitRegs fd, _,
    ⟨[⟨100, closeCall, 0⟩], _, _, rfl, rfl, rfl, rfl, rfl⟩, pathEnv closeExitRegs, closeExitRegs, _,
    ⟨[], _, _, rfl, rfl, rfl, rfl, rfl⟩, ?_⟩
  have hcomm : Function.update (Function.update (closeThenOpen 3).calls 101 none) 100 none =
      fun _ => none := by
    rw [Function.update_comm (by decide)]
    exact no_calls
  exact congrArg (fun c => { closeThenOpenDone fd (closed (opened fd (closeThenOpen fd).loop)) with
    calls := c }) hcomm.symm

/-- Two finished calls of two threads: handled in the order of the kernel, their exit stops leave
the maps in agreement with the table; if the calls are apart, so they do in the other order, with
the same maps. -/
theorem exit_order (g : Globals) (x : Threads) (a b : Completed)
    (h : (threadSystem g).Reach Threads.Ordered x) (hx : x.completed = [a, b]) :
    (∀ y, Threads.Handled g [a.tid, b.tid] x y →
      y.table = x.table ∧ MapsAgree y.loop.fdPaths y.loop.hiddenFds y.table) ∧
    (a.Apart b → ∀ y z, Threads.Handled g [a.tid, b.tid] x y → Threads.Handled g [b.tid, a.tid] x z →
      z.loop.fdPaths = y.loop.fdPaths ∧ z.loop.hiddenFds = y.loop.hiddenFds ∧ z.table = x.table ∧
        MapsAgree z.loop.fdPaths z.loop.hiddenFds z.table) := by
  have hne : a.tid ≠ b.tid := by
    have hn := (threadsInv_of_reach h).nodup
    rw [hx] at hn
    intro he
    exact (List.nodup_cons.mp hn).1 (List.mem_singleton.mpr he)
  constructor
  · intro y hy
    obtain ⟨hreach, hnone, htable⟩ := hy.two h (Or.inl hx) hne
    exact ⟨htable, maps_agree_of_ordered hreach hnone⟩
  · intro hap y z hy hz
    obtain ⟨hreach, hnone, htable⟩ := hy.two h (Or.inl hx) hne
    obtain ⟨hreach', hnone', htable'⟩ := hz.two h (Or.inr ⟨hx, hap⟩) hne.symm
    have hagree := maps_agree_of_ordered hreach hnone
    have hagree' := maps_agree_of_ordered hreach' hnone'
    rw [htable] at hagree
    rw [htable'] at hagree' ⊢
    obtain ⟨hpaths, hhidden⟩ := hagree.unique hagree'
    exact ⟨hpaths, hhidden, rfl, hagree'⟩

theorem exit_order_close_open : (closeThenOpen 4).completed = [⟨100, closeCall, 0⟩, ⟨101, openCall, 4⟩] ∧
    (Completed.mk 100 closeCall 0).Apart ⟨101, openCall, 4⟩ ∧ ∃ y z,
      Threads.Handled plainGlobals [100, 101] (closeThenOpen 4) y ∧
      Threads.Handled plainGlobals [101, 100] (closeThenOpen 4) z ∧
      z.loop.fdPaths = y.loop.fdPaths ∧ MapsAgree z.loop.fdPaths z.loop.hiddenFds z.table := by
  have hap : (Completed.mk 100 closeCall 0).Apart ⟨101, openCall, 4⟩ := by
    have hclose : (Completed.mk 100 closeCall 0).changed = some 3 := by decide
    have hopen : (Completed.mk 101 openCall 4).changed = some 4 := by decide
    have hno : ∀ fd, (Completed.mk 101 openCall 4).duplicated ≠ some fd := nofun
    have hno' : ∀ fd, (Completed.mk 100 closeCall 0).duplicated ≠ some fd := nofun
    refine ⟨fun fd hfd => ⟨?_, hno fd⟩, fun fd _ => hno' fd⟩
    rw [hclose] at hfd
    cases hfd
    rw [hopen]
    decide
  obtain ⟨-, hboth⟩ := exit_order plainGlobals (closeThenOpen 4) ⟨100, closeCall, 0⟩ ⟨101, openCall, 4⟩
    (closeThenOpen_reach (by decide)) rfl
  obtain ⟨hpaths, -, -, hagree⟩ := hboth hap _ _ (closeThenOpen_inOrder 4) (closeThenOpen_reversed 4)
  exact ⟨rfl, hap, _, _, closeThenOpen_inOrder 4, closeThenOpen_reversed 4, hpaths, hagree⟩

/-- The open reuses the number of the closed descriptor. Reported in the other order, the close
takes away the path of the new file. -/
theorem reversed_exits_disagree : ∃ x a b y z,
    (threadSystem plainGlobals).Reachable x ∧ x.completed = [a, b] ∧
      isKernelError a.ret = false ∧ isKernelError b.ret = false ∧
      Threads.Handled plainGlobals [a.tid, b.tid] x y ∧
      Threads.Handled plainGlobals [b.tid, a.tid] x z ∧
      y.loop.fdPaths 3 = some "cudatrace.output.tid-7" ∧ z.loop.fdPaths 3 = none ∧
      ¬ MapsAgree z.loop.fdPaths z.loop.hiddenFds z.table := by
  refine ⟨closeThenOpen 3, ⟨100, closeCall, 0⟩, ⟨101, openCall, 3⟩, _, _,
    (closeThenOpen_reach (by decide)).reachable, rfl, by decide, by decide, closeThenOpen_inOrder 3,
    closeThenOpen_reversed 3, by decide, by decide, fun hagree => ?_⟩
  have hpath := hagree.paths 3
  rw [show (closeThenOpenDone 3 _).loop.fdPaths 3 = none by decide] at hpath
  cases hpath

end CudaTrace.Ptrace
