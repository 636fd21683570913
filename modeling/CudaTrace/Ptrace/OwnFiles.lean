import CudaTrace.Base.Lines
import CudaTrace.Ptrace.StalePath

/-!
# Which files are hidden (ptrace.rs)

A line is left out when its descriptor, or the path of an open, is that of an output file. The
test on paths looks for the name anywhere in the text; the runs below open no other file that
passes it.
-/

namespace CudaTrace.Ptrace
open CudaTrace.Base CudaTrace.Fgraph CudaTrace.Decode

/-! ### Output files -/

/-- The path of an output file: the base path, or any path to the same last component, with the
thread id behind it, and perhaps the kernel's mark of a removed file. -/
def OutputFile (base path : String) : Prop :=
  ∃ (tid : ℕ) (tail : String), (tail = "" ∨ tail = " (deleted)") ∧
    (path = base ++ ".tid-" ++ tid.repr ++ tail ∨
      ∃ name dir, fileName base = some name ∧ (dir = "" ∨ ∃ above, dir = above ++ "/") ∧
        path = dir ++ name ++ ".tid-" ++ tid.repr ++ tail)

theorem getLast?_repr (tid : ℕ) : ∃ d, tid.repr.toList.getLast? = some d ∧ d.isDigit = true := by
  have hchars : tid.repr.toList = Nat.toDigits 10 tid := Nat.toList_repr
  cases hlast : (Nat.toDigits 10 tid).getLast? with
  | none =>
    rw [List.getLast?_eq_none_iff] at hlast
    exact absurd hlast Nat.toDigits_ne_nil
  | some d =>
    refine ⟨d, by rw [hchars, hlast], ?_⟩
    exact Nat.isDigit_of_mem_toDigits (by decide) (by decide) (List.mem_of_getLast? hlast)

/-- Nothing but the mark of a removed file is cut from a path that ends with a number. -/
theorem trimEndMatches_deleted {body tail : String} (hbody : ∃ d, body.toList.getLast? = some d ∧
    d.isDigit = true) (htail : tail = "" ∨ tail = " (deleted)") :
    trimEndMatches (body ++ tail) " (deleted)" = body := by
  obtain ⟨d, hlast, hdigit⟩ := hbody
  obtain ⟨init, hinit⟩ := List.getLast?_eq_some_iff.mp hlast
  have hmark : (" (deleted)" : String).toList.reverse =
      [')', 'd', 'e', 't', 'e', 'l', 'e', 'd', '(', ' '] := by decide
  have hstop : ∀ fuel, dropRepeated (" (deleted)" : String).toList.reverse fuel
      (d :: init.reverse) = d :: init.reverse := by
    intro fuel
    have hne : ')' ≠ d := by
      rintro rfl
      exact absurd hdigit (by decide)
    cases fuel with
    | zero => rfl
    | succ fuel =>
      rw [dropRepeated, hmark]
      simp [hne]
  have hback : body = String.ofList (init ++ [d]) := by
    rw [← hinit, String.ofList_toList]
  rcases htail with rfl | rfl
  · rw [String.append_empty, trimEndMatches, hinit, List.reverse_append, List.reverse_singleton,
      List.singleton_append, hstop, hback]
    simp
  · obtain ⟨fuel, hfuel⟩ : ∃ fuel, (body ++ " (deleted)").length = fuel + 1 := by
      refine ⟨(body ++ " (deleted)").length - 1, ?_⟩
      have hlen : (" (deleted)" : String).length = 10 := by decide
      rw [String.length_append]
      omega
    have hdrop : (" (deleted)" : String).toList.reverse.length = 10 := by decide
    rw [trimEndMatches, String.toList_append, hinit, List.reverse_append, hfuel, dropRepeated,
      if_pos (by simp), List.drop_left, List.reverse_append, List.reverse_singleton,
      List.singleton_append, hstop, hback]
    simp

/-- Every output file passes the test. -/
theorem isCudatraceOutputPath_of_outputFile {cfg : Config} {path : String}
    (h : OutputFile cfg.path path) : isCudatraceOutputPath cfg path = true := by
  obtain ⟨tid, tail, htail, hpath⟩ := h
  have hends : ∀ front : String, ∃ d, (front ++ tid.repr).toList.getLast? = some d ∧
      d.isDigit = true := by
    intro front
    obtain ⟨d, hlast, hdigit⟩ := getLast?_repr tid
    refine ⟨d, ?_, hdigit⟩
    rw [String.toList_append, List.getLast?_append, hlast]
    rfl
  unfold isCudatraceOutputPath
  rcases hpath with rfl | ⟨name, dir, hname, _, rfl⟩
  · rw [trimEndMatches_deleted (hends _) htail]
    have hfound : contains (cfg.path ++ ".tid-" ++ tid.repr) (cfg.path ++ ".tid-") = true := by
      rw [contains, decide_eq_true_eq, @String.toList_append (cfg.path ++ ".tid-")]
      exact List.infix_append_left
    simp [hfound]
  · rw [trimEndMatches_deleted (hends _) htail, hname]
    have hfound : contains (dir ++ name ++ ".tid-" ++ tid.repr) (name ++ ".tid-") = true := by
      rw [contains, decide_eq_true_eq]
      simp only [String.toList_append, List.append_assoc]
      exact ⟨dir.toList, tid.repr.toList, by simp⟩
    simp [hfound]

/-! ### Runs without other files of that name -/

/-- One of cudatrace's own files: an output file by its path, or a pipe the tracer began with. -/
def Own (cfg : Config) (pipes : Ofd → Prop) (ofd : Ofd) : Prop :=
  (∃ path, ofd.path = some path ∧ OutputFile cfg.path path) ∨ pipes ofd

/-- The pipes are marked from the start, and not for their names. -/
structure PipesMarked (cfg : Config) (pipes : Ofd → Prop) : Prop where
  marked : ∀ ofd, pipes ofd → ofd.hidden = true
  named : ∀ ofd path, pipes ofd → ofd.path = some path → isCudatraceOutputPath cfg path = false

/-- An open that succeeds passes the test on paths only with an output file, and a call that the
tracer does not follow leaves the descriptors of own files alone. -/
structure Telling (cfg : Config) (pipes : Ofd → Prop) (call : FdCall) (ret : I64)
    (table table' : FdTable) : Prop where
  opened : call.nr = sysOpen ∨ call.nr = sysOpenat → 0 ≤ (normalizeRet ret).toInt →
    ∀ path, call.captured = some path → isCudatraceOutputPath cfg path = true →
      OutputFile cfg.path path
  unfollowed : call.nr ∉ changesFds → ∀ fd ofd, table fd = some ofd ∨ table' fd = some ofd →
    Own cfg pipes ofd → table' fd = table fd

/-- The runs of a process whose every call is telling, from tables whose marks are right. -/
def tellingSystem (g : Globals) (pid : Pid) (pipes : Ofd → Prop) :
    System (LoopState × Process) FdLabel where
  start x := (callSystem g pid).start x ∧
    ∀ fd ofd, x.2.table fd = some ofd → (ofd.hidden = true ↔ Own g.config pipes ofd)
  step x l y := (callSystem g pid).step x l y ∧ ∀ env regs call, l = .leave env regs →
    x.2.call = some call → Telling g.config pipes call regs.rax x.2.table y.2.table

/-- The marks are those of the own files. -/
def OwnMarked (cfg : Config) (pipes : Ofd → Prop) (hidden : HiddenFds) (table : FdTable) : Prop :=
  ∀ fd, hidden fd = true ↔ ∃ ofd, table fd = some ofd ∧ Own cfg pipes ofd

section Marks
variable {cfg : Config} {pipes : Ofd → Prop} {hidden : HiddenFds} {table table' : FdTable}
  {state : SyscallState} {call : FdCall} {ret : I64}

theorem OwnMarked.set (h : OwnMarked cfg pipes hidden table) (fd : I32) {b : Bool}
    {r : Option Ofd} (hb : b = true ↔ ∃ ofd, r = some ofd ∧ Own cfg pipes ofd) :
    OwnMarked cfg pipes (Function.update hidden fd b) (Function.update table fd r) := by
  intro fd'
  by_cases he : fd' = fd
  · subst he
    simpa only [Function.update_self] using hb
  · simpa only [Function.update_of_ne he] using h fd'

theorem OwnMarked.new (h : OwnMarked cfg pipes hidden table) {fd : I32} (hnew : table fd = none) :
    hidden fd = false := by
  rw [Bool.eq_false_iff]
  intro hmark
  obtain ⟨ofd, hofd, _⟩ := (h fd).mp hmark
  rw [hnew] at hofd
  cases hofd

theorem own_opened (hpipes : PipesMarked cfg pipes) {path : String}
    (htell : isCudatraceOutputPath cfg path = true → OutputFile cfg.path path) :
    isCudatraceOutputPath cfg path = true ↔
      Own cfg pipes ⟨some path, isCudatraceOutputPath cfg path⟩ := by
  constructor
  · intro hout
    exact .inl ⟨path, rfl, htell hout⟩
  · rintro (⟨path', hpath, hown⟩ | hpipe)
    · cases hpath
      exact isCudatraceOutputPath_of_outputFile hown
    · exact hpipes.marked _ hpipe

/-- The update at the exit of a call keeps the marks right. -/
theorem OwnMarked.executes (hpipes : PipesMarked cfg pipes) (h : OwnMarked cfg pipes hidden table)
    (hr : call.Executes cfg table ret table') (htell : Telling cfg pipes call ret table table')
    (hnr : state.nr = call.nr) (hargs : state.args = call.args)
    (hpath : state.pathHint = call.captured)
    (hopen : call.nr = sysOpen ∨ call.nr = sysOpenat → call.captured.isSome) :
    OwnMarked cfg pipes (updateHiddenFds cfg state (normalizeRet ret) hidden) table' := by
  have hfd₀ : (state.args.get 0).setWidth 32 = call.fd₀ := by rw [hargs]; rfl
  cases hr with
  | unfollowed hout =>
    have hsame := (@updates_other cfg (fun _ => none) hidden state (normalizeRet ret) (hnr ▸ hout)).2
    rw [hsame]
    intro fd
    rw [h fd]
    constructor
    · rintro ⟨ofd, hofd, hown⟩
      exact ⟨ofd, (htell.unfollowed hout fd ofd (.inl hofd) hown).trans hofd, hown⟩
    · rintro ⟨ofd, hofd, hown⟩
      exact ⟨ofd, (htell.unfollowed hout fd ofd (.inr hofd) hown).symm.trans hofd, hown⟩
  | followed hret =>
    cases hret with
    | failed he =>
      rw [normalizeRet_error he, (@updates_failed cfg (fun _ => none) hidden state).2]
      exact h
    | other hn =>
      rw [(@updates_other cfg (fun _ => none) hidden state (normalizeRet ret) (hnr ▸ hn)).2]
      exact h
    | @opened fd hop hnew =>
      obtain ⟨path, hcap⟩ := Option.isSome_iff_exists.mp (hopen hop)
      obtain ⟨hnorm, hpos, _⟩ := returned_fd fd
      have hout : isCudatraceOutputOpen cfg state = isCudatraceOutputPath cfg path := by
        rw [isCudatraceOutputOpen, hpath, hcap]
      have hfile := htell.opened hop (by rw [hnorm]; exact hpos) path hcap
      rw [hnorm, updateHiddenFds_open (hnr ▸ hop), hout, mark_eq_update (h.new hnew), openedOfd,
        hcap]
      refine h.set fd ?_
      rw [own_opened hpipes hfile]
      simp
    | closed hcl =>
      have hzero : normalizeRet 0 = 0 := by decide
      rw [hzero, updateHiddenFds_close (hnr.trans hcl), hfd₀]
      exact h.set call.fd₀ (by simp)
    | @duplicated fd ofd hd hold hnew =>
      rw [(returned_fd fd).1, updateHiddenFds_dup (hnr.trans hd), hfd₀, mark_eq_update (h.new hnew),
        ← hold]
      exact h.set fd (h call.fd₀)
    | @replaced ofd hd hold =>
      have hd' : state.nr = sysDup2 ∨ state.nr = sysDup3 := by
        rw [hnr]
        exact hd.imp_right And.left
      rw [(returned_fd call.fd₁).1, updateHiddenFds_dup2 hd', hfd₀, ← hold]
      exact h.set call.fd₁ (h call.fd₀)

end Marks

theorem tellingSystem_inv {g : Globals} {pid : Pid} {pipes : Ofd → Prop}
    (hpipes : PipesMarked g.config pipes) {x : LoopState × Process}
    (h : (tellingSystem g pid pipes).Reachable x) :
    ProcessInv pid x ∧ OwnMarked g.config pipes x.1.hiddenFds x.2.table := by
  have hcalls : ∀ {z}, (tellingSystem g pid pipes).Reachable z → (callSystem g pid).Reachable z := by
    intro z hz
    induction hz with
    | start hz => exact .start hz.1
    | step _ _ hs ih => exact ih.step trivial hs.1
  induction h with
  | @start z hz =>
    refine ⟨processInv_of_reachable (.start hz.1), ?_⟩
    obtain ⟨⟨controller, fdPaths, hiddenFds, ranges, table, rfl, hagree⟩, hmarks⟩ := hz
    intro fd
    show hiddenFds fd = true ↔ _
    rw [hagree.hidden, Option.any_eq_true]
    constructor
    · rintro ⟨ofd, hofd, hmark⟩
      exact ⟨ofd, hofd, (hmarks fd ofd hofd).mp hmark⟩
    · rintro ⟨ofd, hofd, hown⟩
      exact ⟨ofd, hofd, (hmarks fd ofd hofd).mpr hown⟩
  | @step z l y hz _ hs ih =>
    obtain ⟨hinv, hmarked⟩ := ih
    refine ⟨processInv_of_reachable ((hcalls hz).step trivial hs.1), ?_⟩
    cases l with
    | enter env regs =>
      obtain ⟨⟨hcall, hregs, hloop, hkernel⟩, _⟩ := hs
      have hidle : ∀ st, z.1.states pid = some st → st.active = false := by
        have hrec := hinv.recorded
        rw [hcall] at hrec
        exact hrec
      have hhidden := (loopIter_maps g env pid (stopStatus 0x85 0) z.1 fun _ _ _ => hidle).2
      rw [hloop, hkernel, hhidden]
      exact hmarked
    | other env status =>
      obtain ⟨⟨hcall, hgone, hloop, hkernel⟩, _⟩ := hs
      have hhidden := (loopIter_maps g env pid status z.1 fun hk => absurd hk hcall).2
      rw [hloop, hkernel, hhidden]
      exact hmarked
    | leave env regs =>
      obtain ⟨⟨call, table, hcall, hregs, hexec, hloop, hkernel⟩, htell⟩ := hs
      obtain ⟨st, hst, hact, hnr, hargs, hpath, hopen⟩ : CallRecorded pid z.1 (some call) := by
        rw [← hcall]
        exact hinv.recorded
      obtain ⟨hrun, woken, ht, hst'⟩ :=
        loopIter_exit g env pid hinv.consistent syscallStop_kind hregs hst hact
      have htables := onExit_tables g env pid regs st (drained env z.1)
      have hcond := htell env regs call rfl hcall
      rw [hkernel] at hcond
      rw [hloop, hkernel, hrun, htables.hidden]
      exact hmarked.executes hpipes hexec hcond hnr hargs hpath hopen

/-- In a run whose calls are all telling, a line is left out exactly for a descriptor of an own
file and for an open of an output file. -/
theorem only_own_hidden {g : Globals} {pid : Pid} {pipes : Ofd → Prop}
    (hpipes : PipesMarked g.config pipes) {x : LoopState × Process}
    (h : (tellingSystem g pid pipes).Reachable x) :
    OwnMarked g.config pipes x.1.hiddenFds x.2.table ∧
    ∀ call st env regs y, x.2.call = some call → x.1.states pid = some st →
      (tellingSystem g pid pipes).step x (.leave env regs) y →
      (suppressed g.config st regs.rax x.1.hiddenFds = true ↔
        (∃ fd ofd, call.hiddenArg = some fd ∧ x.2.table fd = some ofd ∧ Own g.config pipes ofd) ∨
        ((call.nr = sysOpen ∨ call.nr = sysOpenat) ∧ 0 ≤ (normalizeRet regs.rax).toInt ∧
          ∃ path, call.captured = some path ∧ OutputFile g.config.path path)) := by
  obtain ⟨hinv, hmarked⟩ := tellingSystem_inv hpipes h
  refine ⟨hmarked, fun call st env regs y hcall hst hstep => ?_⟩
  obtain ⟨st₀, hst₀, -, hnr, hargs, hpath, -⟩ : CallRecorded pid x.1 (some call) := by
    rw [← hcall]
    exact hinv.recorded
  obtain rfl := Option.some.inj (hst.symm.trans hst₀)
  have htell := hstep.2 env regs call rfl hcall
  have hfd : call.hiddenArg.any x.1.hiddenFds = true ↔
      ∃ fd ofd, call.hiddenArg = some fd ∧ x.2.table fd = some ofd ∧ Own g.config pipes ofd := by
    rw [Option.any_eq_true]
    constructor
    · rintro ⟨fd, harg, hmark⟩
      obtain ⟨ofd, hofd, hown⟩ := (hmarked fd).mp hmark
      exact ⟨fd, ofd, harg, hofd, hown⟩
    · rintro ⟨fd, ofd, harg, hofd, hown⟩
      exact ⟨fd, harg, (hmarked fd).mpr ⟨ofd, hofd, hown⟩⟩
  rw [suppressed, isHiddenFdSyscall_eq hnr hargs, Bool.or_eq_true, hfd]
  refine or_congr_right ?_
  simp only [Bool.and_eq_true, Bool.or_eq_true, beq_iff_eq, decide_eq_true_eq, hnr, and_assoc]
  refine and_congr_right fun hop => and_congr_right fun hret => ?_
  rw [isCudatraceOutputOpen, hpath]
  cases hcap : call.captured with
  | none => simp
  | some path =>
    constructor
    · intro hout
      exact ⟨path, rfl, htell.opened hop hret path hcap hout⟩
    · rintro ⟨path', hpath', hown⟩
      cases hpath'
      exact isCudatraceOutputPath_of_outputFile hown

/-! ### A process that opens an output file, and one with a directory of that name -/

def noPipes : Ofd → Prop := fun _ => False

theorem noPipes_marked (cfg : Config) : PipesMarked cfg noPipes := ⟨nofun, nofun⟩

theorem outputFile_seven : OutputFile plainGlobals.config.path "cudatrace.output.tid-7" :=
  ⟨7, "", .inl rfl, .inr ⟨"cudatrace.output", "", by decide, .inl rfl, by decide⟩⟩

theorem only_own_hidden_open : ∃ k,
    (tellingSystem plainGlobals 100 noPipes).Reachable (callTurns openatRegs 3 idleLoop, k) ∧
      (callTurns openatRegs 3 idleLoop).hiddenFds 3 = true ∧
      OwnMarked plainGlobals.config noPipes (callTurns openatRegs 3 idleLoop).hiddenFds k.table := by
  have hstart : (tellingSystem plainGlobals 100 noPipes).Reachable
      (idleLoop, ⟨fun _ => none, none, .empty⟩) :=
    .start ⟨⟨_, _, _, _, _, rfl, fun _ => rfl, fun _ => rfl, nofun⟩, nofun⟩
  have henter := hstart.step trivial
    (show (tellingSystem plainGlobals 100 noPipes).step _ (.enter (pathEnv openatRegs) openatRegs)
      (entryTurn openatRegs idleLoop,
        ⟨fun _ => none, some (.at (pathEnv openatRegs) 100 openatRegs), .empty⟩)
      from ⟨⟨rfl, rfl, rfl, rfl⟩, nofun⟩)
  have hcaptured : (FdCall.at (pathEnv openatRegs) 100 openatRegs).captured =
      some "cudatrace.output.tid-7" := by decide
  have hleave := henter.step trivial
    (show (tellingSystem plainGlobals 100 noPipes).step _
        (.leave (pathEnv { openatRegs with rax := 3 }) { openatRegs with rax := 3 })
        (callTurns openatRegs 3 idleLoop, ⟨_, none, _⟩) from by
      refine ⟨⟨_, _, rfl, rfl, .followed (@FdCall.Returns.opened _ _ _ 3 (.inr rfl) rfl),
        rfl, rfl⟩, ?_⟩
      rintro env regs call ⟨⟩ hcall
      obtain rfl := Option.some.inj hcall
      refine ⟨fun _ _ path hpath _ => ?_, fun hout => absurd (by decide) hout⟩
      rw [hcaptured, Option.some.injEq] at hpath
      rw [← hpath]
      exact outputFile_seven)
  exact ⟨_, hleave, by decide, (only_own_hidden (noPipes_marked _) hleave).1⟩

/-- The record of an open of a path. -/
def openState (path : String) : SyscallState :=
  { SyscallState.default 0 with nr := sysOpen, pathHint := some path }

theorem not_outputFile {base path : String} {c : Char} (hlast : path.toList.getLast? = some c)
    (hdigit : c.isDigit = false) (hparen : c ≠ ')') : ¬ OutputFile base path := by
  rintro ⟨tid, tail, htail, hpath⟩
  have hend : ∀ front, path = front ++ tid.repr ++ tail → False := by
    rintro front rfl
    obtain ⟨d, hd, hdd⟩ := getLast?_repr tid
    rcases htail with rfl | rfl
    · rw [String.append_empty, String.toList_append, List.getLast?_append, hd] at hlast
      cases hlast
      rw [hdd] at hdigit
      cases hdigit
    · have hmark : (" (deleted)" : String).toList.getLast? = some ')' := by decide
      rw [String.toList_append, List.getLast?_append, hmark] at hlast
      cases hlast
      exact hparen rfl
  rcases hpath with hpath | ⟨name, dir, _, _, hpath⟩
  · exact hend _ hpath
  · exact hend _ hpath

/-- A file in a directory whose name begins like that of an output file is not reported, and the
reads of its descriptor are not either. -/
theorem backup_suppressed :
    ¬ OutputFile plainGlobals.config.path "/data/cudatrace.output.tid-backup/x.bin" ∧
    suppressed plainGlobals.config (openState "/data/cudatrace.output.tid-backup/x.bin") 3
      (fun _ => false) = true ∧
    suppressed plainGlobals.config
      { SyscallState.default 0 with nr := sysRead, args := #v[3, 0, 0, 0, 0, 0] } 8
      (updateHiddenFds plainGlobals.config (openState "/data/cudatrace.output.tid-backup/x.bin") 3
        (fun _ => false)) = true := by
  refine ⟨not_outputFile (c := 'n') (by decide) (by decide) (by decide), by decide, by decide⟩

end CudaTrace.Ptrace
