import CudaTrace.Base.Fields
import CudaTrace.Fgraph.TraceText
import CudaTrace.Ptrace.Sinks
import CudaTrace.Ptrace.SyscallLine

/-!
# Capture files (ptrace.rs)

Each capture whose trace could be read gets a file of its own, named after its task, the
time of the syscall entry, the scope and the syscall. The file is written at the end of the
capture, its `syscall_enter` line at the begin.
-/

namespace CudaTrace.Ptrace
open CudaTrace.Base CudaTrace.Decode CudaTrace.Fgraph

/-! ### Names -/

def isFileChar (ch : Char) : Bool := ch.isAlphanum || ch == '_' || ch == '-' || ch == '.'

def sanitizeFileComponent (input : String) : String :=
  String.ofList (input.toList.map fun ch => if isFileChar ch then ch else '_')

def sanitizeScopeLabelComponent (input : String) : String :=
  let cleaned := sanitizeFileComponent input
  if cleaned.isEmpty then "unknown0" else cleaned

def fgraphOutputPath (basePath : String) (tid : Pid) (syscall : String) (entryTsUs : ℕ)
    (scopeLabel : String) : String :=
  basePath ++ ".fgraph.tid-" ++ toString tid.toInt ++ ".ts-" ++ toString entryTsUs ++ "." ++
    sanitizeScopeLabelComponent scopeLabel ++ ".sys-" ++ sanitizeFileComponent syscall ++ ".log"

/-- The path tells task and time apart, whatever scope and syscall are called. -/
theorem fgraphOutputPath_inj {basePath : String} {tid tid' : Pid} {syscall syscall' : String} {ts ts' : ℕ}
    {scope scope' : String}
    (h : fgraphOutputPath basePath tid syscall ts scope = fgraphOutputPath basePath tid' syscall' ts' scope') :
    tid = tid' ∧ ts = ts' := by
  have hlist := congrArg String.toList h
  simp only [fgraphOutputPath, String.toList_append, List.append_assoc] at hlist
  have hdash : ".ts-".toList = '.' :: "ts-".toList := by decide
  have hdot : ".".toList = ['.'] := by decide
  simp only [hdash, hdot, List.cons_append, List.nil_append] at hlist
  have htail := List.append_cancel_left (List.append_cancel_left hlist)
  obtain ⟨htid, hrest⟩ := cut_inj (notMem_toString_int (by decide) (by decide) _)
    (notMem_toString_int (by decide) (by decide) _) htail
  have htime := List.append_cancel_left hrest
  obtain ⟨hts, -⟩ := cut_inj (notMem_toString_int (by decide) (by decide) ts)
    (notMem_toString_int (by decide) (by decide) ts') htime
  exact ⟨BitVec.eq_of_toInt_eq (toString_int_injective (String.toList_inj.mp htid)),
    Int.ofNat.inj (toString_int_injective (String.toList_inj.mp hts))⟩

/-! ### Texts -/

/-- `format_fgraph_syscall_enter`. -/
def formatFgraphSyscallEnter (g : Globals) (env : Env) (pid : Pid) (state : SyscallState)
    (fdPaths : FdPaths) : String :=
  let fd : I32 := (state.args.get 0).setWidth 32
  let path := state.pathHint.getD "<unreadable>"
  let suffix := renderLine (LineInput.formatFdSuffix ((state.pathHint.or (fdPaths fd)).or
    (if (fdPaths fd).isSome then none else readLiveFdPath env pid fd)))
  let octal (v : U64) : String := String.ofList (Nat.toDigits 8 v.toNat)
  if state.nr = sysIoctl then
    "ioctl(fd=" ++ toString fd.toInt ++ suffix ++ ", cmd=" ++ hex (state.args.get 1) ++ ", arg=" ++
      hex (state.args.get 2) ++ ")"
  else if state.nr = sysOpen then
    "open(path=\"" ++ path ++ "\", flags=" ++ (formatOpenFlags (state.args.get 1)).render ++
      ", mode=0" ++ octal (state.args.get 2) ++ ")"
  else if state.nr = sysOpenat then
    "openat(dirfd=" ++ (formatDirfd fd).render ++ ", path=\"" ++ path ++ "\", flags=" ++
      (formatOpenFlags (state.args.get 2)).render ++ ", mode=0" ++ octal (state.args.get 3) ++ ")"
  else if state.nr = sysClose then "close(fd=" ++ toString fd.toInt ++ suffix ++ ")"
  else
    syscallName g state.nr ++ "(" ++ ", ".intercalate (state.args.toList.map hex) ++ ")"

/-- The text `finish_active_fgraph_capture` writes. -/
def captureText (c : ActiveFgraphCapture) (enter graph : String) : String :=
  "tid=" ++ toString c.tid.toInt ++ " syscall=" ++ c.syscallName ++ " entry_ts_us=" ++
    toString c.entryTsUs ++ "\n" ++ "scope=" ++ c.scopeLabel ++ "\n" ++
    (match c.graphFunction with
    | some f => "graph_function=" ++ f ++ "\n"
    | none => "") ++
    "syscall_enter=" ++ enter ++ "\n" ++ sanitizeFgraphTraceOutput graph

/-! ### The loop and its files -/

/-- How `std::fs::write` ends; what it leaves when it fails is open. -/
inductive FsWrite where
  | ok
  | failed (left : Option String)

/-- The write of a capture file. -/
structure CaptureWrite where
  capture : ActiveFgraphCapture
  enter : String
  graph : String
  answer : FsWrite

namespace CaptureWrite

def path (basePath : String) (e : CaptureWrite) : String :=
  fgraphOutputPath basePath e.capture.tid e.capture.syscallName e.capture.entryTsUs e.capture.scopeLabel

/-- What the file holds behind the write. -/
def left (e : CaptureWrite) : Option String :=
  match e.answer with
  | .ok => some (captureText e.capture e.enter e.graph)
  | .failed left => left

def apply (basePath : String) (files : String → Option String) (e : CaptureWrite) : String → Option String :=
  Function.update files (e.path basePath) e.left

end CaptureWrite

/-- The captures that end, with their traces. -/
def endings (actions : List Action) : List (ActiveFgraphCapture × Option String) :=
  actions.filterMap fun
    | .endCapture capture graph => some (capture, graph)
    | _ => none

def hasBegun (actions : List Action) : Bool :=
  actions.any fun
    | .beginCapture _ ok => ok
    | _ => false

/-- `clock` has the time of the last turn of each task, `enter` the text of the open capture. -/
structure CaptureFiles where
  running : Bool
  loop : LoopState
  clock : Pid → ℕ
  enter : String
  files : String → Option String

/-- `quit` is the end of `run_ptrace_loop`. -/
inductive CaptureLabel where
  | turn (e : Turn) (answer : FsWrite)
  | quit (answer : FsWrite)

def CaptureLabel.answer : CaptureLabel → FsWrite
  | .turn _ answer | .quit answer => answer

namespace CaptureFiles

def nextLoop (g : Globals) (x : CaptureFiles) : CaptureLabel → LoopState
  | .turn e _ => loopIter g e.env e.pid e.status x.loop
  | .quit _ =>
    let s := finishActiveFgraphCapture { x.loop with out := [] }
    { s with fgraphController := s.fgraphController.map fun c => c.resetState.1 }

def writes (g : Globals) (x : CaptureFiles) (l : CaptureLabel) : List CaptureWrite :=
  (endings (x.nextLoop g l).out).filterMap fun (capture, graph) =>
    graph.map fun graph => ⟨capture, x.enter, graph, l.answer⟩

def nextEnter (g : Globals) (x : CaptureFiles) (e : Turn) (loop : LoopState) : String :=
  match loop.activeFgraphCapture with
  | some c =>
    if hasBegun loop.out then formatFgraphSyscallEnter g e.env c.tid c.entry loop.fdPaths else x.enter
  | none => x.enter

def next (g : Globals) (x : CaptureFiles) (l : CaptureLabel) : CaptureFiles :=
  let loop := x.nextLoop g l
  let files := (x.writes g l).foldl (CaptureWrite.apply g.config.path) x.files
  match l with
  | .turn e _ =>
    ⟨true, loop, Function.update x.clock e.pid e.env.nowTimestampUs, x.nextEnter g e loop, files⟩
  | .quit _ => ⟨false, loop, x.clock, x.enter, files⟩

/-- The clock goes on between two turns of one task. -/
def ClockGoesOn (x : CaptureFiles) : CaptureLabel → Prop
  | .turn e _ => x.clock e.pid < e.env.nowTimestampUs
  | .quit _ => True

end CaptureFiles

def captureFiles (g : Globals) (files : String → Option String) : System CaptureFiles CaptureLabel where
  start x := x.running = true ∧ (loopSystem g).start x.loop ∧ x.files = files
  step x l x' := x.running = true ∧ x' = x.next g l

/-! ### What a turn does to captures -/

theorem endings_append (a b : List Action) : endings (a ++ b) = endings a ++ endings b :=
  List.filterMap_append

theorem endings_begin {o : List Action} {tid : Pid} {ok : Bool}
    (h : ∀ x ∈ o, x = Action.beginCapture tid ok) : endings o = [] :=
  List.filterMap_eq_nil_iff.mpr fun x hx => by rw [h x hx]

theorem hasBegun_append (a b : List Action) : hasBegun (a ++ b) = (hasBegun a || hasBegun b) :=
  List.any_append

theorem begin_opens (g : Globals) (tid : Pid) (state : SyscallState) (s : LoopState) :
    (∃ c, beginFgraphCaptureForState g tid state s =
      ({ s with
          fgraphController := c
          activeFgraphCapture := some (captureOf g tid state s.fgraphWindowByTid)
          out := s.out ++ [.beginCapture tid true] }, true)) ∨
    (∃ c o, (∀ x ∈ o, x = Action.beginCapture tid false) ∧ beginFgraphCaptureForState g tid state s =
      ({ s with fgraphController := c, out := s.out ++ o }, false)) := by
  unfold beginFgraphCaptureForState
  cases hc : s.fgraphController with
  | none => exact Or.inr ⟨none, [], by simp, by simp [← hc]⟩
  | some controller =>
    rcases hb : controller.beginCapture tid (syscallGraphFunction g state.nr) with ⟨c', err | u⟩
    · refine Or.inr ⟨some c', [.beginCapture tid false], by simp, ?_⟩
      simp only [hb, LoopState.emit]
    · refine Or.inl ⟨some c', ?_⟩
      simp only [hb, LoopState.emit]

/-- A capture that is opened for the record `st` of its task. -/
def OpenedFor (g : Globals) (c : ActiveFgraphCapture) (st : SyscallState) : Prop :=
  c.entryTsUs = st.startedTsUs ∧ ∃ windows, c = captureOf g c.tid c.entry windows

theorem openedFor_captureOf (g : Globals) (tid : Pid) (st : SyscallState) (windows : WindowByTid) :
    OpenedFor g (captureOf g tid st windows) st := ⟨rfl, windows, rfl⟩

/-- From `s` to `s'` no capture ends, and one may be opened for a waiter. -/
structure Passes (g : Globals) (s s' : LoopState) : Prop where
  ended : endings s'.out = endings s.out
  held : ∀ t st, s'.states t = some st → st.isHeld = true → s.states t = some st
  active : ∀ c, s'.activeFgraphCapture = some c → s.activeFgraphCapture = some c ∨
    (hasBegun s'.out = true ∧ ∃ st, s.states c.tid = some st ∧ st.isHeld = true ∧ OpenedFor g c st)

theorem Passes.refl (g : Globals) (s : LoopState) : Passes g s s :=
  ⟨rfl, fun _ _ h _ => h, fun _ h => Or.inl h⟩

theorem released_held {s : LoopState} {tid : Pid} {state : SyscallState} (capturing : Bool) {t : Pid}
    {st : SyscallState}
    (h : Function.update s.states tid
      (some { state with fgraphWaiting := false, fgraphCapturing := capturing }) t = some st)
    (hheld : st.isHeld = true) : s.states t = some st := by
  by_cases ht : t = tid
  · subst ht
    rw [Function.update_self] at h
    obtain rfl := Option.some.inj h
    have hnot : SyscallState.isHeld { state with fgraphWaiting := false, fgraphCapturing := capturing } =
        false := Bool.and_false _
    rw [hnot] at hheld
    cases hheld
  · rw [Function.update_of_ne ht] at h
    exact h

theorem releaseWaiter_passes {g : Globals} {tid : Pid} {state : SyscallState} {s : LoopState}
    (hst : s.states tid = some state) (hheld : state.isHeld = true) :
    Passes g s (releaseWaiter g tid state s) := by
  unfold releaseWaiter
  dsimp only
  split
  · rcases begin_opens g tid { state with fgraphWaiting := false } s with ⟨c, hb⟩ | ⟨c, o, ho, hb⟩
    · rw [hb]
      refine ⟨?_, fun t st => released_held true, fun a ha => Or.inr ⟨?_, state, ?_, hheld, ?_⟩⟩
      · simp only [LoopState.emit, LoopState.setState, endings_append]
        simp [endings]
      · simp only [LoopState.emit, LoopState.setState, hasBegun_append]
        simp [hasBegun]
      · obtain rfl := Option.some.inj ha
        exact hst
      · obtain rfl := Option.some.inj ha
        exact ⟨rfl, _, rfl⟩
    · rw [hb]
      refine ⟨?_, fun t st => released_held false, fun a ha => Or.inl ha⟩
      simp only [LoopState.emit, LoopState.setState, endings_append, endings_begin ho]
      simp [endings]
  · refine ⟨?_, fun t st => released_held false, fun a ha => Or.inl ha⟩
    simp only [LoopState.emit, LoopState.setState, endings_append]
    simp [endings]

theorem hasBegun_drain {g : Globals} (queue : List Pid) {s : LoopState} (h : hasBegun s.out = true) :
    hasBegun (drainWaiting g queue s).out = true := by
  obtain ⟨x, hx, hbegun⟩ := List.any_eq_true.mp h
  exact List.any_eq_true.mpr ⟨x, mem_drainWaiting g queue hx, hbegun⟩

/-- By induction on the queue: a record that is held later was held all along. -/
theorem drainWaiting_passes (g : Globals) (queue : List Pid) (s : LoopState) :
    Passes g s (drainWaiting g queue s) := by
  induction queue generalizing s with
  | nil => exact ⟨rfl, fun _ _ h _ => h, fun _ h => Or.inl h⟩
  | cons tid rest ih =>
    by_cases hheld : s.Held tid
    · obtain ⟨st, hst, -⟩ := hheld.record
      have hisHeld : st.isHeld = true := (isHeld_of_some hst).symm.trans hheld
      have hrel := releaseWaiter_passes (g := g) hst hisHeld
      rw [drainWaiting_held g tid rest s st hst hheld]
      split
      · exact ⟨hrel.ended, hrel.held, hrel.active⟩
      · have hrest := ih (releaseWaiter g tid st s)
        refine ⟨hrest.ended.trans hrel.ended,
          fun t st' h hh => hrel.held t st' (hrest.held t st' h hh) hh, fun c hc => ?_⟩
        rcases hrest.active c hc with h | ⟨hbegun, st', hst', hheld', hopened⟩
        · rcases hrel.active c h with h | ⟨hbegun, hwaiter⟩
          · exact Or.inl h
          · exact Or.inr ⟨hasBegun_drain rest hbegun, hwaiter⟩
        · exact Or.inr ⟨hbegun, st', hrel.held _ st' hst' hheld', hheld', hopened⟩
    · rw [drainWaiting_skip g tid rest s hheld]
      exact ih s

theorem maybeResume_passes (g : Globals) (s : LoopState) : Passes g s (maybeResumeWaitingFgraphTid g s) := by
  rw [maybeResumeWaitingFgraphTid]
  split
  · exact Passes.refl g s
  · exact drainWaiting_passes g _ s

theorem finish_ends {s : LoopState} {a : ActiveFgraphCapture} (h : s.activeFgraphCapture = some a) :
    ∃ c o, (endings o = [] ∨ ∃ graph, endings o = [(a, graph)]) ∧ finishActiveFgraphCapture s =
      { s with fgraphController := c, activeFgraphCapture := none, out := s.out ++ o } := by
  unfold finishActiveFgraphCapture
  simp only [h]
  cases hc : s.fgraphController with
  | none => exact ⟨none, [], Or.inl rfl, by simp⟩
  | some controller =>
    rcases he : controller.endCaptureAndRead with ⟨c', err | graph⟩
    · exact ⟨some c'.resetState.1, [.endCapture a none], Or.inr ⟨none, rfl⟩, by
        simp only [he, LoopState.emit]⟩
    · exact ⟨some c', [.endCapture a (some graph)], Or.inr ⟨some graph, rfl⟩, by
        simp only [he, LoopState.emit]⟩

/-- What a turn of `pid` that reads the clock as `now` does to captures and waiters. -/
structure TurnsCaptures (g : Globals) (pid : Pid) (now : ℕ) (s s' : LoopState) : Prop where
  ended : endings s'.out = [] ∨
    ∃ c graph, endings s'.out = [(c, graph)] ∧ s.activeFgraphCapture = some c ∧ c.tid = pid
  held : ∀ t st, s'.states t = some st → st.isHeld = true →
    (t = pid ∧ st.startedTsUs = now) ∨ s.states t = some st
  active : ∀ c, s'.activeFgraphCapture = some c → (s.activeFgraphCapture = some c ∧ endings s'.out = []) ∨
    (hasBegun s'.out = true ∧ ∃ st, OpenedFor g c st ∧
      ((c.tid = pid ∧ st.startedTsUs = now) ∨ (s.states c.tid = some st ∧ st.isHeld = true)))

namespace TurnsCaptures

variable {g : Globals} {pid : Pid} {now : ℕ} {s s₁ s' : LoopState}

theorem quiet (hstates : s'.states = s.states) (hcap : s'.activeFgraphCapture = s.activeFgraphCapture)
    (hout : endings s'.out = []) : TurnsCaptures g pid now s s' where
  ended := Or.inl hout
  held _ _ h _ := Or.inr (hstates ▸ h)
  active _ hc := Or.inl ⟨hcap ▸ hc, hout⟩

/-- The record of `pid` is left in no queue, and a waiter may be let go on. -/
theorem leave {r : Option SyscallState} (hstates : s₁.states = Function.update s.states pid r)
    (hclear : ∀ st, r = some st → st.isHeld = false)
    (hended : (s₁.activeFgraphCapture = s.activeFgraphCapture ∧ endings s₁.out = []) ∨
      (s₁.activeFgraphCapture = none ∧ (endings s₁.out = [] ∨
        ∃ c graph, endings s₁.out = [(c, graph)] ∧ s.activeFgraphCapture = some c ∧ c.tid = pid)))
    (hp : Passes g s₁ s') : TurnsCaptures g pid now s s' := by
  have hback : ∀ t st, s₁.states t = some st → st.isHeld = true → s.states t = some st := by
    intro t st h hh
    rw [hstates] at h
    by_cases ht : t = pid
    · subst ht
      rw [Function.update_self] at h
      rw [hclear st h] at hh
      cases hh
    · rw [Function.update_of_ne ht] at h
      exact h
  refine ⟨?_, fun t st h hh => Or.inr (hback t st (hp.held t st h hh) hh), fun c hc => ?_⟩
  · rw [hp.ended]
    rcases hended with ⟨-, h⟩ | ⟨-, h⟩
    · exact Or.inl h
    · exact h
  · rcases hp.active c hc with h | ⟨hbegun, st, hst, hh, hopened⟩
    · rcases hended with ⟨hcap, hout⟩ | ⟨hcap, -⟩
      · exact Or.inl ⟨hcap.symm.trans h, hp.ended.trans hout⟩
      · rw [hcap] at h
        cases h
    · exact Or.inr ⟨hbegun, st, hopened, Or.inr ⟨hback _ st hst hh, hh⟩⟩

theorem emit (h : TurnsCaptures g pid now s s') {a : Action} (ha : endings [a] = []) :
    TurnsCaptures g pid now s (s'.emit a) := by
  have hends : endings (s'.emit a).out = endings s'.out := by
    rw [LoopState.emit, endings_append, ha, List.append_nil]
  refine ⟨?_, h.held, fun c hc => ?_⟩
  · rw [hends]
    exact h.ended
  · rw [hends]
    rcases h.active c hc with h | ⟨hbegun, hopened⟩
    · exact Or.inl h
    · refine Or.inr ⟨?_, hopened⟩
      rw [LoopState.emit, hasBegun_append, hbegun]
      rfl

end TurnsCaptures

section Branches

variable (g : Globals) (env : Env) (pid : Pid) {s : LoopState}

theorem onEntry_captures (regs : UserRegs) (state : SyscallState) (hout : s.out = []) :
    TurnsCaptures g pid env.nowTimestampUs s (onEntry g env pid regs state s) := by
  have hother : ∀ st : SyscallState, st.startedTsUs = env.nowTimestampUs → ∀ t st',
      Function.update s.states pid (some st) t = some st' →
        (t = pid ∧ st'.startedTsUs = env.nowTimestampUs) ∨ s.states t = some st' := by
    intro st hst t st' h
    by_cases ht : t = pid
    · subst ht
      rw [Function.update_self] at h
      exact Or.inl ⟨rfl, Option.some.inj h ▸ hst⟩
    · rw [Function.update_of_ne ht] at h
      exact Or.inr h
  unfold onEntry
  dsimp only
  split
  · split
    · rcases begin_opens g pid (entryState g env pid regs state s) s with ⟨c, hb⟩ | ⟨c, o, ho, hb⟩
      · rw [hb]
        refine ⟨Or.inl ?_, fun t st h _ => hother _ rfl t st h, fun a ha => Or.inr
          ⟨?_, { entryState g env pid regs state s with fgraphWaiting := false }, ?_, Or.inl ⟨?_, rfl⟩⟩⟩
        · simp only [LoopState.emit, LoopState.setState, hout]
          rfl
        · simp only [LoopState.emit, LoopState.setState, hout]
          rfl
        · obtain rfl := Option.some.inj ha
          exact openedFor_captureOf g pid _ _
        · obtain rfl := Option.some.inj ha
          rfl
      · rw [hb]
        have hends : endings (s.out ++ o ++ [Action.resume pid 0]) = [] := by
          rw [endings_append, endings_append, hout, endings_begin ho]
          rfl
        exact ⟨Or.inl hends, fun t st h _ => hother _ rfl t st h, fun a ha => Or.inl ⟨ha, hends⟩⟩
    · have hends : endings s.out = [] := by rw [hout]; rfl
      split
      · exact ⟨Or.inl hends, fun t st h _ => hother _ rfl t st h, fun a ha => Or.inl ⟨ha, hends⟩⟩
      · exact ⟨Or.inl hends, fun t st h _ => hother _ rfl t st h, fun a ha => Or.inl ⟨ha, hends⟩⟩
  · have hends : endings (s.out ++ [Action.resume pid 0]) = [] := by rw [hout]; rfl
    exact ⟨Or.inl hends, fun t st h _ => hother _ rfl t st h, fun a ha => Or.inl ⟨ha, hends⟩⟩

theorem endings_exitLine (regs : UserRegs) (state : SyscallState) :
    endings (exitLine g env pid regs state s) = [] := by
  unfold exitLine
  split <;> rfl

theorem onExit_captures {regs : UserRegs} {state : SyscallState} (h : Consistent s)
    (hst : s.states pid = some state) (hout : s.out = []) :
    TurnsCaptures g pid env.nowTimestampUs s (onExit g env pid regs state s) := by
  have hclear : ∀ st, some (exitState state) = some st → st.isHeld = false := by
    intro st he
    rw [← Option.some.inj he]
    rfl
  have hline : endings (s.out ++ exitLine g env pid regs state s) = [] := by
    rw [endings_append, endings_exitLine, hout]
    rfl
  unfold onExit
  dsimp only
  split
  · rename_i hcap
    have howner := (h.capturing pid).mp ⟨state, hst, hcap⟩
    obtain ⟨a, ha, htid⟩ := Option.map_eq_some_iff.mp howner
    obtain ⟨c, o, ho, hf⟩ := finish_ends (s :=
      { s with
        states := Function.update s.states pid (some (exitState state))
        hiddenFds := updateHiddenFds g.config state (normalizeRet regs.rax) s.hiddenFds
        fdPaths := updateFdPaths s.fdPaths state (normalizeRet regs.rax)
        out := s.out ++ exitLine g env pid regs state s }) ha
    rw [hf]
    refine (TurnsCaptures.leave rfl hclear (Or.inr ⟨rfl, ?_⟩) (maybeResume_passes g _)).emit rfl
    rcases ho with ho | ⟨graph, ho⟩
    · refine Or.inl ?_
      show endings (s.out ++ exitLine g env pid regs state s ++ o) = []
      rw [endings_append, hline, ho]
      rfl
    · refine Or.inr ⟨a, graph, ?_, ha, htid⟩
      show endings (s.out ++ exitLine g env pid regs state s ++ o) = _
      rw [endings_append, hline, ho]
      rfl
  · refine (TurnsCaptures.leave rfl hclear (Or.inl ⟨?_, ?_⟩) (Passes.refl g _)).emit
      (a := .resume pid 0) rfl
    · rfl
    · exact hline

theorem onGone_captures (now : ℕ) (hout : s.out = []) : TurnsCaptures g pid now s (onGone g pid s) := by
  have hclear : ∀ st, (none : Option SyscallState) = some st → st.isHeld = false := fun st he => by cases he
  unfold onGone
  dsimp only
  split
  · rename_i hany
    obtain ⟨a, ha, htid⟩ := (Option.any_eq_true _ _).mp hany
    obtain ⟨c, o, ho, hf⟩ := finish_ends ha
    rw [hf]
    refine TurnsCaptures.leave rfl hclear (Or.inr ⟨rfl, ?_⟩) (maybeResume_passes g _)
    rcases ho with ho | ⟨graph, ho⟩
    · refine Or.inl ?_
      show endings (s.out ++ o ++ [Action.closeSink pid]) = []
      rw [endings_append, endings_append, hout, ho]
      rfl
    · refine Or.inr ⟨a, graph, ?_, ha, by simpa using htid⟩
      show endings (s.out ++ o ++ [Action.closeSink pid]) = _
      rw [endings_append, endings_append, hout, ho]
      rfl
  · refine TurnsCaptures.leave rfl hclear (Or.inl ⟨?_, ?_⟩) (maybeResume_passes g _)
    · rfl
    · show endings (s.out ++ [Action.closeSink pid]) = []
      rw [hout]
      rfl

end Branches

theorem loopIter_captures (g : Globals) (e : Turn) {s : LoopState} (h : Consistent s) :
    TurnsCaptures g e.pid e.env.nowTimestampUs s (loopIter g e.env e.pid e.status s) := by
  -- the drain of the pipes touches neither records nor the capture
  have hdrained : ∀ {s' : LoopState}, TurnsCaptures g e.pid e.env.nowTimestampUs (drained e.env s) s' →
      TurnsCaptures g e.pid e.env.nowTimestampUs s s' := fun h => ⟨h.ended, h.held, h.active⟩
  rw [loopIter_eq]
  split
  · exact hdrained (onGone_captures g e.pid _ rfl)
  · exact hdrained (.quiet rfl rfl rfl)
  · refine hdrained ?_
    unfold onSyscallStop
    cases hregs : e.env.getregs e.pid with
    | none => exact .quiet rfl rfl rfl
    | some regs =>
      dsimp only
      cases hst : s.states e.pid with
      | none =>
        rw [show (drained e.env s).states e.pid = none from hst]
        exact onEntry_captures g e.env e.pid regs _ rfl
      | some state =>
        rw [show (drained e.env s).states e.pid = some state from hst]
        split
        · exact onEntry_captures g e.env e.pid regs _ rfl
        · exact onExit_captures g e.env e.pid (h.drained e.env) hst rfl
  · refine hdrained ?_
    unfold onNewTask
    split
    · exact .quiet rfl rfl rfl
    · exact .quiet rfl rfl rfl
  · exact hdrained (.quiet rfl rfl rfl)
  · exact hdrained (.quiet rfl rfl rfl)

/-! ### Files -/

/-- Every file that was written holds what its write left, all others what they held at first. -/
structure FilesHold (basePath : String) (files₀ files : String → Option String) (w : List CaptureWrite) :
    Prop where
  written : ∀ e ∈ w, files (e.path basePath) = e.left
  others : ∀ path, (∀ e ∈ w, e.path basePath ≠ path) → files path = files₀ path

theorem FilesHold.write {basePath : String} {files₀ files : String → Option String} {w : List CaptureWrite}
    (h : FilesHold basePath files₀ files w) {e : CaptureWrite}
    (hfresh : ∀ e' ∈ w, e'.path basePath ≠ e.path basePath) :
    FilesHold basePath files₀ (e.apply basePath files) (w ++ [e]) where
  written := by
    intro e' he'
    rcases List.mem_append.mp he' with he' | he'
    · rw [CaptureWrite.apply, Function.update_of_ne (hfresh e' he')]
      exact h.written e' he'
    · rw [List.mem_singleton.mp he', CaptureWrite.apply, Function.update_self]
  others := by
    intro path hpath
    have hne := hpath e (List.mem_append_right _ (List.mem_singleton_self e))
    rw [CaptureWrite.apply, Function.update_of_ne (Ne.symm hne)]
    exact h.others path fun e' he' => hpath e' (List.mem_append_left _ he')

/-- The record of the capture and the text of its entry are those of one syscall. -/
def Described (g : Globals) (c : ActiveFgraphCapture) (enter : String) : Prop :=
  (∃ windows, c = captureOf g c.tid c.entry windows) ∧
    ∃ env fdPaths, enter = formatFgraphSyscallEnter g env c.tid c.entry fdPaths

/-- A time that `tid` has reached, after the entries of its captures so far. -/
structure Later (clock : Pid → ℕ) (w : List CaptureWrite) (tid : Pid) (ts : ℕ) : Prop where
  reached : ts ≤ clock tid
  after : ∀ e ∈ w, e.capture.tid = tid → e.capture.entryTsUs < ts

structure CaptureFiles.Inv (g : Globals) (files₀ : String → Option String) (x : CaptureFiles)
    (w : List CaptureWrite) : Prop where
  holds : FilesHold g.config.path files₀ x.files w
  described : ∀ e ∈ w, Described g e.capture e.enter
  apart : w.Pairwise fun e e' => e.capture.tid = e'.capture.tid → e.capture.entryTsUs < e'.capture.entryTsUs
  past : ∀ e ∈ w, e.capture.entryTsUs ≤ x.clock e.capture.tid
  consistent : x.running = true → Consistent x.loop
  active : x.running = true → ∀ c, x.loop.activeFgraphCapture = some c →
    Described g c x.enter ∧ Later x.clock w c.tid c.entryTsUs
  held : x.running = true → ∀ t st, x.loop.states t = some st → st.isHeld = true →
    Later x.clock w t st.startedTsUs

namespace CaptureFiles

variable {g : Globals} {files₀ : String → Option String} {x : CaptureFiles} {w : List CaptureWrite}

theorem writes_cases {l : CaptureLabel}
    (h : endings (x.nextLoop g l).out = [] ∨
      ∃ c graph, endings (x.nextLoop g l).out = [(c, graph)] ∧ x.loop.activeFgraphCapture = some c) :
    x.writes g l = [] ∨ ∃ c graph, x.writes g l = [⟨c, x.enter, graph, l.answer⟩] ∧
      x.loop.activeFgraphCapture = some c := by
  unfold writes
  rcases h with h | ⟨c, graph, h, hc⟩
  · rw [h]
    exact Or.inl rfl
  · rw [h]
    cases graph with
    | none => exact Or.inl rfl
    | some graph => exact Or.inr ⟨c, graph, rfl, hc⟩

/-- What the writes of a step leave, whichever step it is. -/
structure Written (g : Globals) (files₀ : String → Option String) (x : CaptureFiles) (w : List CaptureWrite)
    (l : CaptureLabel) : Prop where
  holds : FilesHold g.config.path files₀ ((x.writes g l).foldl (CaptureWrite.apply g.config.path) x.files)
    (w ++ x.writes g l)
  described : ∀ e ∈ w ++ x.writes g l, Described g e.capture e.enter
  apart : (w ++ x.writes g l).Pairwise fun e e' =>
    e.capture.tid = e'.capture.tid → e.capture.entryTsUs < e'.capture.entryTsUs
  past : ∀ e ∈ w ++ x.writes g l, e.capture.entryTsUs ≤ x.clock e.capture.tid

theorem Inv.written (h : x.Inv g files₀ w) (hrun : x.running = true) {l : CaptureLabel}
    (hl : x.writes g l = [] ∨ ∃ c graph, x.writes g l = [⟨c, x.enter, graph, l.answer⟩] ∧
      x.loop.activeFgraphCapture = some c) : Written g files₀ x w l := by
  rcases hl with hl | ⟨c, graph, hl, hc⟩
  · exact ⟨by rw [hl, List.append_nil]; exact h.holds, by rw [hl, List.append_nil]; exact h.described,
      by rw [hl, List.append_nil]; exact h.apart, by rw [hl, List.append_nil]; exact h.past⟩
  · obtain ⟨hdescribed, hlater⟩ := h.active hrun c hc
    have hfresh : ∀ e ∈ w, e.path g.config.path ≠
        (⟨c, x.enter, graph, l.answer⟩ : CaptureWrite).path g.config.path := by
      intro e he hpath
      obtain ⟨htid, hts⟩ := fgraphOutputPath_inj hpath
      exact absurd hts (hlater.after e he htid).ne
    refine ⟨?_, ?_, ?_, ?_⟩
    · rw [hl]
      exact h.holds.write hfresh
    · rw [hl]
      intro e he
      rcases List.mem_append.mp he with he | he
      · exact h.described e he
      · rw [List.mem_singleton.mp he]
        exact hdescribed
    · rw [hl, List.pairwise_append]
      refine ⟨h.apart, List.pairwise_singleton _ _, fun e he e' he' => ?_⟩
      rw [List.mem_singleton.mp he']
      exact hlater.after e he
    · rw [hl]
      intro e he
      rcases List.mem_append.mp he with he | he
      · exact h.past e he
      · rw [List.mem_singleton.mp he]
        exact hlater.reached

theorem Inv.turn (h : x.Inv g files₀ w) (hrun : x.running = true) {e : Turn} {answer : FsWrite}
    (hclock : x.clock e.pid < e.env.nowTimestampUs) :
    (x.next g (.turn e answer)).Inv g files₀ (w ++ x.writes g (.turn e answer)) := by
  have hcons := h.consistent hrun
  have hturn := loopIter_captures g e hcons
  have hended : endings (x.nextLoop g (.turn e answer)).out = [] ∨
      ∃ c graph, endings (x.nextLoop g (.turn e answer)).out = [(c, graph)] ∧
        x.loop.activeFgraphCapture = some c := by
    rcases hturn.ended with h | ⟨c, graph, h, hc, -⟩
    · exact Or.inl h
    · exact Or.inr ⟨c, graph, h, hc⟩
  have hwritten := h.written hrun (writes_cases hended)
  have hgrows : ∀ t, x.clock t ≤ Function.update x.clock e.pid e.env.nowTimestampUs t := by
    intro t
    by_cases ht : t = e.pid
    · subst ht
      rw [Function.update_self]
      exact hclock.le
    · rw [Function.update_of_ne ht]
  -- a capture that ends in this turn is that of the task of the turn
  have htid : ∀ e' ∈ x.writes g (.turn e answer), x.loop.owner = some e'.capture.tid ∧
      e'.capture.tid = e.pid := by
    intro e' he'
    obtain ⟨⟨c, graph⟩, hmem, hgraph⟩ := List.mem_filterMap.mp he'
    obtain ⟨graph', -, rfl⟩ := Option.map_eq_some_iff.mp hgraph
    rcases hturn.ended with hnil | ⟨c', graph', hone, hc, hpid⟩
    · rw [show endings (x.nextLoop g (.turn e answer)).out = [] from hnil] at hmem
      cases hmem
    · rw [show endings (x.nextLoop g (.turn e answer)).out = _ from hone] at hmem
      obtain ⟨rfl, -⟩ := Prod.mk.inj (List.mem_singleton.mp hmem)
      exact ⟨by rw [LoopState.owner, hc]; rfl, hpid⟩
  have hkept : ∀ t ts, Later x.clock w t ts → (∀ e' ∈ x.writes g (.turn e answer), e'.capture.tid ≠ t) →
      Later (Function.update x.clock e.pid e.env.nowTimestampUs) (w ++ x.writes g (.turn e answer)) t ts := by
    intro t ts hl hne
    refine ⟨hl.reached.trans (hgrows t), fun e' he' ht => ?_⟩
    rcases List.mem_append.mp he' with he' | he'
    · exact hl.after e' he' ht
    · exact absurd ht (hne e' he')
  have hnow : Later (Function.update x.clock e.pid e.env.nowTimestampUs) (w ++ x.writes g (.turn e answer))
      e.pid e.env.nowTimestampUs := by
    refine ⟨by rw [Function.update_self], fun e' he' ht => ?_⟩
    have hpast := hwritten.past e' he'
    rw [ht] at hpast
    exact lt_of_le_of_lt hpast hclock
  have hwaits : ∀ t st, x.loop.states t = some st → st.isHeld = true →
      Later (Function.update x.clock e.pid e.env.nowTimestampUs) (w ++ x.writes g (.turn e answer)) t
        st.startedTsUs := by
    intro t st hst hheld
    refine hkept t _ (h.held hrun t st hst hheld) fun e' he' ht => ?_
    have howner := (htid e' he').1
    rw [ht] at howner
    exact hcons.owner_not_held howner ((isHeld_of_some hst).trans hheld)
  refine ⟨hwritten.holds, hwritten.described, hwritten.apart,
    fun e' he' => (hwritten.past e' he').trans (hgrows _), fun _ => ?_, fun _ c hc => ?_, fun _ t st hst hheld => ?_⟩
  · obtain ⟨woken, own, hturned⟩ := loopIter_turned g e.env e.pid e.status hcons
    exact hturned.1.consistent
  · rcases hturn.active c hc with ⟨hsame, hnil⟩ | ⟨hbegun, st, ⟨hts, hwindows⟩, hcase⟩
    · obtain ⟨hdescribed, hlater⟩ := h.active hrun c hsame
      have hnone : x.writes g (.turn e answer) = [] := by
        unfold writes
        rw [show endings (x.nextLoop g (.turn e answer)).out = [] from hnil]
        rfl
      refine ⟨⟨hdescribed.1, ?_⟩, hkept c.tid _ hlater fun e' he' => ?_⟩
      · show ∃ env fdPaths, x.nextEnter g e (x.nextLoop g (.turn e answer)) = _
        unfold nextEnter
        rw [show (x.nextLoop g (.turn e answer)).activeFgraphCapture = some c from hc]
        dsimp only
        split
        · exact ⟨e.env, _, rfl⟩
        · exact hdescribed.2
      · rw [hnone] at he'
        cases he'
    · refine ⟨⟨hwindows, e.env, (x.nextLoop g (.turn e answer)).fdPaths, ?_⟩, ?_⟩
      · show x.nextEnter g e (x.nextLoop g (.turn e answer)) = _
        unfold nextEnter
        rw [show (x.nextLoop g (.turn e answer)).activeFgraphCapture = some c from hc]
        exact if_pos hbegun
      · rw [hts]
        rcases hcase with ⟨htid, hnew⟩ | ⟨hst, hheld⟩
        · rw [htid, hnew]
          exact hnow
        · exact hwaits _ st hst hheld
  · rcases hturn.held t st hst hheld with ⟨rfl, hts⟩ | hst'
    · rw [hts]
      exact hnow
    · exact hwaits t st hst' hheld

theorem Inv.quit (h : x.Inv g files₀ w) (hrun : x.running = true) {answer : FsWrite} :
    (x.next g (.quit answer)).Inv g files₀ (w ++ x.writes g (.quit answer)) := by
  have hended : endings (x.nextLoop g (.quit answer)).out = [] ∨
      ∃ c graph, endings (x.nextLoop g (.quit answer)).out = [(c, graph)] ∧
        x.loop.activeFgraphCapture = some c := by
    show endings (finishActiveFgraphCapture { x.loop with out := [] }).out = [] ∨
      ∃ c graph, endings (finishActiveFgraphCapture { x.loop with out := [] }).out = [(c, graph)] ∧ _
    cases hc : x.loop.activeFgraphCapture with
    | none =>
      rw [finish_none { x.loop with out := [] } hc]
      exact Or.inl rfl
    | some a =>
      obtain ⟨c, o, ho, hf⟩ := finish_ends (s := { x.loop with out := [] }) hc
      rw [hf]
      rcases ho with ho | ⟨graph, ho⟩
      · exact Or.inl ho
      · exact Or.inr ⟨a, graph, ho, rfl⟩
  obtain ⟨hholds, hdescribed, hapart, hpast⟩ := h.written hrun (writes_cases hended)
  exact ⟨hholds, hdescribed, hapart, hpast, fun he => (by cases he), fun he => (by cases he),
    fun he => (by cases he)⟩

theorem Inv.start (h : (captureFiles g files₀).start x) : x.Inv g files₀ [] := by
  obtain ⟨-, ⟨controller, fdPaths, hiddenFds, ranges, hloop⟩, rfl⟩ := h
  refine ⟨⟨fun e he => absurd he List.not_mem_nil, fun _ _ => rfl⟩, fun e he => absurd he List.not_mem_nil,
    List.Pairwise.nil, fun e he => absurd he List.not_mem_nil, fun _ => ?_, fun _ c hc => ?_,
    fun _ t st hst => ?_⟩
  · rw [hloop]
    exact initialLoop_consistent _ _ _ _
  · rw [hloop] at hc
    cases hc
  · rw [hloop] at hst
    cases hst

theorem Inv.step {l : CaptureLabel} {x' : CaptureFiles} (h : x.Inv g files₀ w) (hclock : x.ClockGoesOn l)
    (hs : (captureFiles g files₀).step x l x') : x'.Inv g files₀ (w ++ x.writes g l) := by
  obtain ⟨hrun, rfl⟩ := hs
  cases l with
  | turn e answer => exact h.turn hrun hclock
  | quit answer => exact h.quit hrun

end CaptureFiles

/-- No capture file is written twice, and each describes the syscall that it is about. -/
theorem capture_files_hold {g : Globals} {files : String → Option String} {x : CaptureFiles}
    {w : List CaptureWrite}
    (h : (captureFiles g files).Trace CaptureFiles.ClockGoesOn (fun x l _ => x.writes g l) x w) :
    FilesHold g.config.path files x.files w ∧ (w.map (·.path g.config.path)).Nodup ∧
      ∀ e ∈ w, Described g e.capture e.enter := by
  have hinv : x.Inv g files w := h.history (fun _ => CaptureFiles.Inv.start)
    fun x w l x' hinv hclock hs => hinv.step (l := l) hclock hs
  refine ⟨hinv.holds, ?_, hinv.described⟩
  refine List.pairwise_map.mpr (hinv.apart.imp fun {e e'} hlt hpath => ?_)
  obtain ⟨htid, hts⟩ := fgraphOutputPath_inj hpath
  exact absurd hts (hlt htid).ne

/-- A stop of task 7 at the time `now`. -/
def stopAt (env : Env) (now : ℕ) : CaptureLabel :=
  .turn ⟨{ env with nowTimestampUs := now }, 7, stopStatus 0x85 0⟩ .ok

def noFiles : CaptureFiles := ⟨true, idleLoop, fun _ => 0, "", fun _ => none⟩

theorem capture_files_hold_write : ∃ (x : CaptureFiles) (e : CaptureWrite), FilesHold "./cudatrace.output" (fun _ => none) x.files [e] ∧
    e.capture.tid = 7 ∧ e.capture.entryTsUs = 5 ∧ Described plainGlobals e.capture e.enter := by
  have htrace : (captureFiles plainGlobals fun _ => none).Trace CaptureFiles.ClockGoesOn
      (fun x l _ => x.writes plainGlobals l) _ _ :=
    .step (l := stopAt writeExit 6) (.step (l := stopAt (writeEntry 7).env 5)
      (.start (s := noFiles) ⟨rfl, ⟨_, _, _, _, rfl⟩, rfl⟩) (by decide : 0 < 5) ⟨rfl, rfl⟩)
      (by decide : 5 < 6) ⟨rfl, rfl⟩
  obtain ⟨hholds, -, hdescribed⟩ := capture_files_hold htrace
  exact ⟨_, _, hholds, rfl, rfl, hdescribed _ (List.mem_singleton_self _)⟩

end CudaTrace.Ptrace
